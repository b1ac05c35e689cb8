import RemoteOutputService.BatchCreate.Model

/-! `BatchStat`. For each path of the request a fresh `statWalker` resolves it
from the root of the build's output path, and the file status it ends with is
appended to the response; a path that does not exist gets an empty response,
and any other error ends the call. The output path's tree is read, never
changed: `LookupChild`, `Readlink`, `GetOutputServiceFileStatus` and the
modification time of a directory are functions of the handles.

The walker's callbacks and the loop are translated from the source. What drives
the walker comes from bb-storage and is modelled, not translated:
`path.Resolve` takes the components as `resolveComponents` splits them and
expands the target of each symbolic link in place; the loop-detecting scope
walker allows `maximumSymlinks` expansions; the virtual root of the build's
scope walker factory leads an absolute path that starts with the output path
into its root and leaves every other absolute path outside; `path.Builder`
keeps the path as the client wrote it, for `NextPath` and error messages. -/
namespace RemoteOutputService

/-- The errors of path resolution that `BatchStat` tells apart: `ENOENT`,
`EINVAL` (`Readlink` of a leaf that is not a symbolic link), `ENOTDIR`,
`ELOOP`, and any other error, as its status. -/
inductive ResolveError
  | enoent
  | einval
  | enotdir
  | eloop
  | status (s : Status)
  deriving DecidableEq

/-- `util.StatusWrap` of a resolution error: a system call error becomes an
`Unknown` status carrying the error's text. -/
def ResolveError.toStatus : ResolveError → Status
  | .enoent => ⟨.unknown, "no such file or directory"⟩
  | .einval => ⟨.unknown, "invalid argument"⟩
  | .enotdir => ⟨.unknown, "not a directory"⟩
  | .eloop => ⟨.unknown, "too many levels of symbolic links"⟩
  | .status s => s

/-- What `LookupChild` finds under a name: a directory or a leaf, by handle. -/
inductive TreeChild
  | directory (handle : Nat)
  | leaf (handle : Nat)

/-- The `FileStatus` message: a file (with its digest when asked for), a
symbolic link, a directory (with its last modification time once `BatchStat`
fills it in), or a location outside the output path (with the path the client
should resolve itself, once `BatchStat` fills it in). -/
inductive FileStatus
  | file (digest : Option Digest)
  | symlink (target : String)
  | directory (lastModifiedTime : Option Nat)
  | external (nextPath : Option String)
  deriving DecidableEq

/-- A `StatResponse`; empty for a path that does not exist. -/
structure StatResponse where
  fileStatus : Option FileStatus
  deriving DecidableEq

/-- An output path's tree as `BatchStat` reads it, by handle: `LookupChild` of
a directory, `Readlink` and `GetOutputServiceFileStatus` of a leaf, and the last
data modification time that `VirtualGetAttributes` reports for a directory
(`none` where it reports none). -/
structure StatTree where
  lookupChild : Nat → Component → Except ResolveError TreeChild
  readlink : Nat → Except ResolveError String
  getOutputServiceFileStatus : Nat → Option DigestFunction → Except ResolveError FileStatus
  lastDataModificationTime : Nat → Option Nat

/-- `BatchStatRequest`. -/
structure BatchStatRequest where
  buildId : String
  followSymlinks : Bool
  includeFileDigest : Bool
  paths : List String

/-- `util.NonEmptyStack.PopAll`: back to the handle at the bottom. -/
def NonEmptyStack.popAll (stack : NonEmptyStack) : NonEmptyStack :=
  ⟨stack.below.getLastD stack.peek, []⟩

/-! ### `statWalker` -/

/-- `statWalker`: the request's flags, the stack of directories from the output
path's root, and the file status found so far. -/
structure StatWalker where
  followSymlinks : Bool
  digestFunction : Option DigestFunction
  stack : NonEmptyStack
  fileStatus : FileStatus

/-- What `OnDirectory` and `OnTerminal` hand back to `path.Resolve`: go on with
the walker, or resolve a symbolic link's target from the walker. -/
inductive Walked
  | walker (w : StatWalker)
  | symlink (w : StatWalker) (target : String)

namespace StatWalker

/-- `statWalker.OnScope`: an absolute path restarts at the root; either way the
walker is in a known directory. -/
def onScope (w : StatWalker) (absolute : Bool) : StatWalker :=
  { w with stack := if absolute then w.stack.popAll else w.stack, fileStatus := .directory none }

/-- `statWalker.OnDirectory`. A symbolic link in the middle of a path is always
followed, and until its target says otherwise the location is outside. -/
def onDirectory (tree : StatTree) (w : StatWalker) (name : Component) : Except ResolveError Walked :=
  match tree.lookupChild w.stack.peek name with
  | .error err => .error err
  | .ok (.directory child) => .ok (.walker { w with stack := w.stack.push child })
  | .ok (.leaf leaf) =>
    match tree.readlink leaf with
    | .error .einval => .error .enotdir
    | .error err => .error err
    | .ok target => .ok (.symlink { w with fileStatus := .external none } target)

/-- The end of `statWalker.OnTerminal` for a leaf: its file status. -/
def leafFileStatus (tree : StatTree) (w : StatWalker) (leaf : Nat) : Except ResolveError Walked :=
  match tree.getOutputServiceFileStatus leaf w.digestFunction with
  | .error err => .error err
  | .ok fileStatus => .ok (.walker { w with fileStatus := fileStatus })

/-- `statWalker.OnTerminal`. A directory keeps the directory status; a symbolic
link is followed only when the request asks for it. -/
def onTerminal (tree : StatTree) (w : StatWalker) (name : Component) : Except ResolveError Walked :=
  match tree.lookupChild w.stack.peek name with
  | .error err => .error err
  | .ok (.directory child) => .ok (.walker { w with stack := w.stack.push child })
  | .ok (.leaf leaf) =>
    if w.followSymlinks then
      match tree.readlink leaf with
      | .ok target => .ok (.symlink { w with fileStatus := .external none } target)
      | .error .einval => leafFileStatus tree w leaf
      | .error err => .error err
    else leafFileStatus tree w leaf

/-- `statWalker.OnUp`: above the root the location is outside the output path,
and `path.VoidComponentWalker` takes the rest of the path (`false`). -/
def onUp (w : StatWalker) : StatWalker × Bool :=
  match w.stack.popSingle with
  | none => ({ w with fileStatus := .external none }, false)
  | some stack => ({ w with stack := stack }, true)

end StatWalker

/-! ### The path machinery around the walker -/

/-- A step as the path builder records it. -/
def Step.text : Step → String
  | .up => ".."
  | .directory name => name.name

/-- `path.Builder`: whether the path is absolute, and its components, the last
one last; a relative path keeps the `..` that went above its start. -/
structure ResolvedPath where
  absolute : Bool
  components : List String

namespace ResolvedPath

/-- The builder after a name. -/
def push (b : ResolvedPath) (name : Component) : ResolvedPath :=
  { b with components := b.components ++ [name.name] }

/-- The builder after a `..`: the last name goes, and a relative path that has
none left to drop records the `..`. -/
def onUp (b : ResolvedPath) : ResolvedPath :=
  match b.components.getLast? with
  | some last =>
    if last = ".." then { b with components := b.components ++ [".."] }
    else { b with components := b.components.dropLast }
  | none => if b.absolute then b else { b with components := [".."] }

/-- `Builder.String`. -/
def toString (b : ResolvedPath) : String :=
  if b.absolute then "/" ++ String.intercalate "/" b.components
  else if b.components = [] then "." else String.intercalate "/" b.components

end ResolvedPath

/-- The steps from the root of the file system to the output path. -/
def ScopeWalkerFactory.rootSteps (f : ScopeWalkerFactory) : List Step :=
  (resolveComponents (splitSlash f.outputPath.data)).1 ++
    (resolveComponents (splitSlash f.outputPath.data)).2.toList.map .directory

/-- The virtual root's reading of an absolute path's steps and last name: one
that starts with the output path goes on from the output path's root with what
follows; any other stays outside (`none`). This is a lexical prefix test on the
parsed steps: it ignores the aliases, and a `..` through the virtual
directories above the output path (as in `/o/../o/ob1/a`) is not followed. -/
def ScopeWalkerFactory.enter (f : ScopeWalkerFactory) (steps : List Step) (terminal : Option Component) :
    Option (List Step × Option Component) :=
  if f.rootSteps.isPrefixOf (steps ++ terminal.toList.map .directory) then
    if f.rootSteps.length ≤ steps.length then some (steps.drop f.rootSteps.length, terminal)
    else some ([], none)
  else none

/-- The state of one path's resolution: the stat walker, whether it still takes
the path's components (not once the path has left the output path), and the
path builder. -/
structure StatResolution where
  walker : StatWalker
  walking : Bool
  resolved : ResolvedPath

/-- The scope of a path or of a link's target, as the builder, the virtual root
and the walker take it, with the steps and last name to resolve next. A
relative path goes on where the walker is. An absolute one goes to the output
path's root through the virtual root, or else outside, where the walker is no
longer told anything. -/
def StatResolution.onScope (f : ScopeWalkerFactory) (r : StatResolution) (absolute : Bool)
    (steps : List Step) (terminal : Option Component) : StatResolution × List Step × Option Component :=
  if absolute then
    match f.enter steps terminal with
    | some (steps', terminal') =>
      (⟨r.walker.onScope true, true, ⟨true, f.rootSteps.map Step.text⟩⟩, steps', terminal')
    | none => ({ r with walking := false, resolved := ⟨true, []⟩ }, steps, terminal)
  else ({ r with walker := r.walker.onScope false }, steps, terminal)

/-- Whether a path string is absolute. -/
def isAbsolute (path : String) : Bool :=
  path.data.head? = some '/'

/-- Where resolution goes at a symbolic link: the target's steps and last name,
followed by what of the path came after the link (`none` when the link was its
last name), in the target's scope. -/
def StatResolution.follow (f : ScopeWalkerFactory) (r : StatResolution) (target : String)
    (rest : Option (List Step × Option Component)) : StatResolution × List Step × Option Component :=
  match rest with
  | none =>
    r.onScope f (isAbsolute target) (resolveComponents (splitSlash target.data)).1
      (resolveComponents (splitSlash target.data)).2
  | some (steps, terminal) =>
    r.onScope f (isAbsolute target)
      ((resolveComponents (splitSlash target.data)).1 ++
        (resolveComponents (splitSlash target.data)).2.toList.map .directory ++ steps) terminal

/-- `path.Resolve` of steps and a last name from a resolution state, with
`expand` taking over at a symbolic link: it gets the state, the link's target
and what of the path follows the link. The state reached is returned with the
error that stopped resolution, if any. -/
def walkStat (tree : StatTree)
    (expand : StatResolution → String → Option (List Step × Option Component) →
      StatResolution × Option ResolveError) :
    StatResolution → List Step → Option Component → StatResolution × Option ResolveError
  | r, [], none => (r, none)
  | r, [], some name =>
    if r.walking then
      match r.walker.onTerminal tree name with
      | .error err => (r, some err)
      | .ok (.walker w) => ({ r with walker := w, resolved := r.resolved.push name }, none)
      | .ok (.symlink w target) => expand { r with walker := w } target none
    else ({ r with resolved := r.resolved.push name }, none)
  | r, .up :: steps, terminal =>
    if r.walking then
      walkStat tree expand ⟨r.walker.onUp.1, r.walker.onUp.2, r.resolved.onUp⟩ steps terminal
    else walkStat tree expand { r with resolved := r.resolved.onUp } steps terminal
  | r, .directory name :: steps, terminal =>
    if r.walking then
      match r.walker.onDirectory tree name with
      | .error err => (r, some err)
      | .ok (.walker w) => walkStat tree expand { r with walker := w, resolved := r.resolved.push name } steps terminal
      | .ok (.symlink w target) => expand { r with walker := w } target (some (steps, terminal))
    else walkStat tree expand { r with resolved := r.resolved.push name } steps terminal

/-- `path.Resolve` under `path.NewLoopDetectingScopeWalker`: at most
`symlinks` more symbolic links are expanded, and the next one is `ELOOP`. -/
def resolveStat (tree : StatTree) (f : ScopeWalkerFactory) :
    Nat → StatResolution → List Step → Option Component → StatResolution × Option ResolveError
  | 0, r, steps, terminal => walkStat tree (fun r _ _ => (r, some .eloop)) r steps terminal
  | symlinks + 1, r, steps, terminal =>
    walkStat tree (fun r target rest =>
      resolveStat tree f symlinks (r.follow f target rest).1 (r.follow f target rest).2.1
        (r.follow f target rest).2.2) r steps terminal

/-! ### `BatchStat` -/

/-- The walker `BatchStat` starts each path with: at the output path's root
`root`, outside until its scope is known, with the build's digest function when
the request asks for file digests. -/
def newStatWalker (root : Nat) (buildState : BuildState) (followSymlinks includeFileDigest : Bool) :
    StatWalker :=
  ⟨followSymlinks, if includeFileDigest then some buildState.digestFunction else none, ⟨root, []⟩, .external none⟩

/-- The resolution of one path of a `BatchStat` request. -/
def resolveStatPath (tree : StatTree) (maximumSymlinks root : Nat) (buildState : BuildState)
    (followSymlinks includeFileDigest : Bool) (statPath : String) : StatResolution × Option ResolveError :=
  match (StatResolution.onScope buildState.scopeWalkerFactory
      ⟨newStatWalker root buildState followSymlinks includeFileDigest, true, ⟨false, []⟩⟩
      (isAbsolute statPath) (resolveComponents (splitSlash statPath.data)).1
      (resolveComponents (splitSlash statPath.data)).2) with
  | (r, steps, terminal) => resolveStat tree buildState.scopeWalkerFactory maximumSymlinks r steps terminal

/-- What `BatchStat` appends for one path, or the error it returns: an empty
response for `ENOENT`; the file status, with a directory's modification time or
an external location's path filled in. `none` where the code panics: a
directory without a modification time. -/
def batchStatPath (tree : StatTree) (maximumSymlinks root : Nat) (buildState : BuildState)
    (followSymlinks includeFileDigest : Bool) (statPath : String) : Option (Except Status StatResponse) :=
  match resolveStatPath tree maximumSymlinks root buildState followSymlinks includeFileDigest statPath with
  | (_, some .enoent) => some (.ok ⟨none⟩)
  | (r, some err) => some (.error (err.toStatus.wrap
      ("Failed to resolve path " ++ goQuote statPath ++ " beyond " ++ goQuote r.resolved.toString)))
  | (r, none) =>
    match r.walker.fileStatus with
    | .directory _ =>
      (tree.lastDataModificationTime r.walker.stack.peek).map fun time => .ok ⟨some (.directory (some time))⟩
    | .external _ => some (.ok ⟨some (.external (some r.resolved.toString))⟩)
    | fileStatus => some (.ok ⟨some fileStatus⟩)

/-- The loop of `BatchStat` over the paths, appending to `responses`. -/
def batchStatPaths (tree : StatTree) (maximumSymlinks root : Nat) (buildState : BuildState)
    (followSymlinks includeFileDigest : Bool) :
    List String → List StatResponse → Option (Except Status (List StatResponse))
  | [], responses => some (.ok responses)
  | statPath :: paths, responses =>
    match batchStatPath tree maximumSymlinks root buildState followSymlinks includeFileDigest statPath with
    | none => none
    | some (.error err) => some (.error err)
    | some (.ok response) =>
      batchStatPaths tree maximumSymlinks root buildState followSymlinks includeFileDigest paths
        (responses ++ [response])

/-- `BatchStat` on the registry `d` and the tree of its output paths, the root
of an output path named by its state object. A build without a build state
panics at its first path (`none`); no reachable registry has one. -/
def RemoteOutputServiceDirectory.batchStat (d : RemoteOutputServiceDirectory) (tree : StatTree)
    (maximumSymlinks : Nat) (request : BatchStatRequest) : Option (Except Status (List StatResponse)) :=
  match d.getOutputPathAndBuildState request.buildId with
  | .error err => some (.error err)
  | .ok (_, none) => if request.paths = [] then some (.ok []) else none
  | .ok (state, some buildState) =>
    batchStatPaths tree maximumSymlinks state buildState request.followSymlinks request.includeFileDigest
      request.paths []

end RemoteOutputService
