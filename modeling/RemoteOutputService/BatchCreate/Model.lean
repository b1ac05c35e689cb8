import RemoteOutputService.Registry.Operations

/-! `BatchCreate`: resolve the path prefix from the output path's root, creating
directories on the way, optionally empty it, then create the request's files,
directories and symbolic links, each resolved from the prefix directory.

The output path's tree is a `PrepopulatedDirectory` of another package, so it is
modelled by the calls made on it: a directory is named by an opaque handle,
and the outcome of each call is a function of the calls made before it. The
results below hold for every implementation of the tree. `path.Resolve` is
modelled on a relative scope walker: the path is split at slashes, empty and
`.` components are skipped, `..` calls `OnUp`, other names call `OnDirectory`,
and a name in the last position calls `OnTerminal`. -/
namespace RemoteOutputService

/-- A node `BatchCreate` creates: a file from `casFileFactory.LookupFile`, a
directory whose contents `NewCASInitialContentsFetcher` loads from a tree in
the CAS, or a symbolic link from `symlinkFactory.LookupSymlink`. -/
inductive CreatedNode
  | file (digest : Digest) (isExecutable : Bool)
  | directory (treeDigest : Digest) (digestFunction : DigestFunction)
  | symlink (target : String)
  deriving DecidableEq

/-- A call on the output path's directories, with its outcome. -/
inductive TreeCall
  | createAndEnterPrepopulatedDirectory (directory : Nat) (name : Component) (result : Except Status Nat)
  | removeAllChildren (directory : Nat) (result : Option Status)
  | createChildren (directory : Nat) (name : Component) (node : CreatedNode) (result : Option Status)

/-- The behaviour of the output path's directories: the outcome of each call,
given the calls made before it. `CreateAndEnterPrepopulatedDirectory` returns
the handle of the child directory it created or entered. -/
structure Directories where
  createAndEnterPrepopulatedDirectory : List TreeCall → Nat → Component → Except Status Nat
  removeAllChildren : List TreeCall → Nat → Option Status
  createChildren : List TreeCall → Nat → Component → CreatedNode → Option Status

/-- An `OutputFile` of a `BatchCreateRequest`. -/
structure OutputFile where
  path : String
  digest : DigestProto
  isExecutable : Bool

/-- An `OutputDirectory` of a `BatchCreateRequest`. -/
structure OutputDirectory where
  path : String
  treeDigest : DigestProto

/-- An `OutputSymlink` of a `BatchCreateRequest`. -/
structure OutputSymlink where
  path : String
  target : String

/-- The fields of a `BatchCreateRequest`. -/
structure BatchCreateRequest where
  buildId : String
  pathPrefix : String
  cleanPathPrefix : Bool
  files : List OutputFile
  directories : List OutputDirectory
  symlinks : List OutputSymlink

/-! ### `path.Resolve` -/

/-- The components of a path, split at each slash. -/
def splitSlash : List Char → List (List Char)
  | [] => [[]]
  | c :: cs =>
    if c = '/' then [] :: splitSlash cs
    else match splitSlash cs with
      | component :: components => (c :: component) :: components
      | [] => [[c]]

/-- What `path.Resolve` does for a component that is not the last one. -/
inductive Step
  | up
  | directory (name : Component)
  deriving DecidableEq

/-- The step of a component: `..` moves up, a name enters a directory, and an
empty component or `.` is skipped. -/
def componentStep (component : List Char) : Option Step :=
  if component = ['.', '.'] then some .up else (newComponent ⟨component⟩).map .directory

/-- The steps of a relative path, and the name of its last component when that
is a name (the `OnTerminal` call). -/
def resolveComponents : List (List Char) → List Step × Option Component
  | [] => ([], none)
  | [last] =>
    match componentStep last with
    | some (.directory name) => ([], some name)
    | some .up => ([.up], none)
    | none => ([], none)
  | component :: components =>
    ((componentStep component).toList ++ (resolveComponents components).1, (resolveComponents components).2)

/-- `path.Resolve` with `path.NewRelativeScopeWalker`: an absolute path is
refused by `OnScope`. -/
def resolve (path : String) : Except Status (List Step × Option Component) :=
  if path.data.head? = some '/' then
    .error ⟨.invalidArgument, "Path is absolute, while a relative path was expected"⟩
  else .ok (resolveComponents (splitSlash path.data))

/-! ### The creating walkers -/

/-- `util.NonEmptyStack` of directory handles: the top and the handles below
it, nearest first. -/
structure NonEmptyStack where
  peek : Nat
  below : List Nat
  deriving DecidableEq

/-- `NonEmptyStack.Push`. -/
def NonEmptyStack.push (stack : NonEmptyStack) (handle : Nat) : NonEmptyStack :=
  ⟨handle, stack.peek :: stack.below⟩

/-- `NonEmptyStack.PopSingle`: drop the top, unless it is the only element. -/
def NonEmptyStack.popSingle (stack : NonEmptyStack) : Option NonEmptyStack :=
  match stack.below with
  | [] => none
  | handle :: below => some ⟨handle, below⟩

/-- `OnDirectory` of `directoryCreatingComponentWalker` and of
`parentDirectoryCreatingComponentWalker`: create or enter the child directory
`name` of the top directory, and push it. -/
def onDirectory (dirs : Directories) (calls : List TreeCall) (stack : NonEmptyStack) (name : Component) :
    List TreeCall × Except Status NonEmptyStack :=
  match dirs.createAndEnterPrepopulatedDirectory calls stack.peek name with
  | .error err => (calls ++ [.createAndEnterPrepopulatedDirectory stack.peek name (.error err)], .error err)
  | .ok child => (calls ++ [.createAndEnterPrepopulatedDirectory stack.peek name (.ok child)], .ok (stack.push child))

/-- The error of `OnUp` at the root of the output path. -/
def outsideOutputPath : Status :=
  ⟨.invalidArgument, "Path resolves to a location outside the output path"⟩

/-- `OnUp` of both creating walkers: the root cannot be left. -/
def onUp (stack : NonEmptyStack) : Except Status NonEmptyStack :=
  match stack.popSingle with
  | none => .error outsideOutputPath
  | some stack => .ok stack

/-- A creating walker taking the steps of a path. -/
def walk (dirs : Directories) : List TreeCall → NonEmptyStack → List Step →
    List TreeCall × Except Status NonEmptyStack
  | calls, stack, [] => (calls, .ok stack)
  | calls, stack, .up :: steps =>
    match onUp stack with
    | .error err => (calls, .error err)
    | .ok stack => walk dirs calls stack steps
  | calls, stack, .directory name :: steps =>
    match onDirectory dirs calls stack name with
    | (calls, .error err) => (calls, .error err)
    | (calls, .ok stack) => walk dirs calls stack steps

/-- `path.Resolve` of the path prefix with a `directoryCreatingComponentWalker`,
whose `OnTerminal` enters the directory too (`path.OnTerminalViaOnDirectory`). -/
def resolvePrefix (dirs : Directories) (calls : List TreeCall) (stack : NonEmptyStack) (path : String) :
    List TreeCall × Except Status NonEmptyStack :=
  match resolve path with
  | .error err => (calls, .error err)
  | .ok (steps, terminal) => walk dirs calls stack (steps ++ terminal.toList.map .directory)

/-- `directoryCreatingComponentWalker.createChild`: resolve the parent of
`outputPath` from a copy of the prefix stack with a
`parentDirectoryCreatingComponentWalker`, which records the terminal name, and
create the node under that name, replacing what is there. -/
def createChild (dirs : Directories) (calls : List TreeCall) (stack : NonEmptyStack) (outputPath : String)
    (node : CreatedNode) : List TreeCall × Option Status :=
  match resolve outputPath with
  | .error err => (calls, some (err.wrap "Failed to resolve path"))
  | .ok (steps, terminal) =>
    match walk dirs calls stack steps with
    | (calls, .error err) => (calls, some (err.wrap "Failed to resolve path"))
    | (calls, .ok parent) =>
      match terminal with
      | none => (calls, some ⟨.invalidArgument, "Path resolves to a directory"⟩)
      | some name =>
        (calls ++ [.createChildren parent.peek name node (dirs.createChildren calls parent.peek name node)],
          dirs.createChildren calls parent.peek name node)

/-! ### `BatchCreate` -/

/-- The node of a file entry, once its digest parses. -/
def prepareFile (digestFunction : DigestFunction) (entry : OutputFile) : Except Status CreatedNode :=
  match digestFunction.newDigestFromProto entry.digest with
  | .error err => .error (err.wrap ("Invalid digest for file " ++ goQuote entry.path))
  | .ok digest => .ok (.file digest entry.isExecutable)

/-- The message of a directory entry whose tree exceeds the maximum size. -/
def treeTooLarge (entry : OutputDirectory) (sizeBytes maximumTreeSizeBytes : Int) : Status :=
  ⟨.invalidArgument, "Directory " ++ goQuote entry.path ++ " is " ++ toString sizeBytes ++
    " bytes in size, which exceeds the permitted maximum of " ++ toString maximumTreeSizeBytes ++ " bytes"⟩

/-- The node of a directory entry, once its tree digest parses and the tree is
not larger than `maximumTreeSizeBytes`. -/
def prepareDirectory (digestFunction : DigestFunction) (maximumTreeSizeBytes : Int) (entry : OutputDirectory) :
    Except Status CreatedNode :=
  match digestFunction.newDigestFromProto entry.treeDigest with
  | .error err => .error (err.wrap ("Invalid digest for directory " ++ goQuote entry.path))
  | .ok digest =>
    if maximumTreeSizeBytes < digest.sizeBytes then .error (treeTooLarge entry digest.sizeBytes maximumTreeSizeBytes)
    else .ok (.directory digest digestFunction)

/-- The node of a symbolic link entry. -/
def prepareSymlink (entry : OutputSymlink) : Except Status CreatedNode :=
  .ok (.symlink entry.target)

/-- One of the three loops of `BatchCreate`: for each entry in turn, build its
node and create it from the prefix stack; the first failure ends the call. -/
def createEntries {α : Type} (dirs : Directories) (stack : NonEmptyStack) (kind : String) (path : α → String)
    (prepare : α → Except Status CreatedNode) : List TreeCall → List α → List TreeCall × Option Status
  | calls, [] => (calls, none)
  | calls, entry :: entries =>
    match prepare entry with
    | .error err => (calls, some err)
    | .ok node =>
      match createChild dirs calls stack (path entry) node with
      | (calls, some err) => (calls, some (err.wrap ("Failed to create " ++ kind ++ " " ++ goQuote (path entry))))
      | (calls, none) => createEntries dirs stack kind path prepare calls entries

/-- `BatchCreate` once the build's output path and build state are known: the
calls made on the tree, and the error returned, if any. -/
def batchCreateOn (dirs : Directories) (maximumTreeSizeBytes : Int) (root : Nat) (buildState : BuildState)
    (request : BatchCreateRequest) : List TreeCall × Option Status :=
  match resolvePrefix dirs [] ⟨root, []⟩ request.pathPrefix with
  | (calls, .error err) => (calls, some (err.wrap "Failed to create path prefix directory"))
  | (calls, .ok stack) =>
    let cleaned : List TreeCall × Option Status :=
      if request.cleanPathPrefix then
        (calls ++ [.removeAllChildren stack.peek (dirs.removeAllChildren calls stack.peek)],
          (dirs.removeAllChildren calls stack.peek).map (·.wrap "Failed to clean path prefix directory"))
      else (calls, none)
    match cleaned with
    | (calls, some err) => (calls, some err)
    | (calls, none) =>
      match createEntries dirs stack "file" OutputFile.path (prepareFile buildState.digestFunction)
          calls request.files with
      | (calls, some err) => (calls, some err)
      | (calls, none) =>
        match createEntries dirs stack "directory" OutputDirectory.path
            (prepareDirectory buildState.digestFunction maximumTreeSizeBytes) calls request.directories with
        | (calls, some err) => (calls, some err)
        | (calls, none) => createEntries dirs stack "symbolic link" OutputSymlink.path prepareSymlink
            calls request.symlinks

/-- `BatchCreate` on the registry `d`. The root directory of an output path is
named by the output path's state object. `none` when the build has no build
state, which the code would dereference; no reachable registry has such a
session. -/
def RemoteOutputServiceDirectory.batchCreate (d : RemoteOutputServiceDirectory) (dirs : Directories)
    (maximumTreeSizeBytes : Int) (request : BatchCreateRequest) : Option (List TreeCall × Option Status) :=
  match d.getOutputPathAndBuildState request.buildId with
  | .error err => some ([], some err)
  | .ok (_, none) => none
  | .ok (state, some buildState) => some (batchCreateOn dirs maximumTreeSizeBytes state buildState request)

end RemoteOutputService
