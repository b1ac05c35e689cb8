import RemoteOutputService.BatchCreate.Entries
import RemoteOutputService.Registry.Sessions

/-! Where `BatchCreate` puts the entries of a request. The prefix walker and
every entry's walker move a stack of directory handles from the output path's
root; the handles stand for paths of components (`Along`), so an entry lands
under its last component in the directory that the prefix and then the entry's
other components reach, and a `..` above the root is refused unless an earlier
`CreateAndEnterPrepopulatedDirectory` failed first. -/
namespace RemoteOutputService

/-- The directory the path prefix reaches from the root: its steps, then its
last component as one more directory. `none` when it is absolute or a `..`
would leave the root. -/
def prefixPath (pathPrefix : String) : Option (List Component) :=
  match resolve pathPrefix with
  | .error _ => none
  | .ok (steps, terminal) => applySteps [] (steps ++ terminal.toList.map .directory)

/-- `calls` created `node` under the last component of `outputPath`, with a
successful `CreateChildren` call on a directory handle along the path that the
other components reach from `path`. -/
def Placed (root : Nat) (path : List Component) (outputPath : String) (node : CreatedNode)
    (calls : List TreeCall) : Prop :=
  ∃ steps name parentPath parent, resolve outputPath = .ok (steps, some name) ∧
    applySteps path steps = some parentPath ∧ Along calls root parent parentPath ∧
    .createChildren parent.peek name node none ∈ calls

section Placed

variable {root : Nat} {path : List Component} {outputPath : String} {node : CreatedNode}
  {calls calls' : List TreeCall}

theorem Placed.mono (h : Placed root path outputPath node calls) (hPrefix : calls <+: calls') :
    Placed root path outputPath node calls' := by
  obtain ⟨steps, name, parentPath, parent, hResolve, hApply, hAlong, hCall⟩ := h
  exact ⟨steps, name, parentPath, parent, hResolve, hApply, hAlong.mono hPrefix, hPrefix.subset hCall⟩

/-- A child creation that returned no error placed its node. -/
theorem ChildOutcome.placed (h : ChildOutcome root path outputPath node calls (calls', none)) :
    Placed root path outputPath node calls' := by
  obtain ⟨made, hMade, hOut⟩ := h
  rcases hOut with ⟨_, _, h⟩ | ⟨_, _, h⟩ | ⟨_, _, _, _, h⟩ | ⟨_, _, _, _, h⟩ |
    ⟨steps, name, parentPath, parent, hResolve, hApply, hAlong, hLast⟩
  · cases h
  · cases h
  · cases h
  · cases h
  · refine ⟨steps, name, parentPath, parent, hResolve, hApply, hAlong, ?_⟩
    rw [show calls' = calls ++ made from hMade]
    exact List.mem_append_right _ (List.mem_of_getLast?_eq_some hLast)

end Placed

/-- Entries created from a stack along `path` are placed from `path`. -/
theorem Created.placed {dirs : Directories} {stack : NonEmptyStack} {α : Type} {path : α → String}
    {prepare : α → Except Status CreatedNode} {calls calls' : List TreeCall} {entries : List α} {root : Nat}
    {prefixPath : List Component} (h : Created dirs stack path prepare calls entries calls')
    (hAlong : Along calls root stack prefixPath) :
    ∀ entry ∈ entries, ∃ node, prepare entry = .ok node ∧ Placed root prefixPath (path entry) node calls' := by
  intro entry hEntry
  obtain ⟨node, before, after, hPrepare, hBefore, hChild, hAfter⟩ := h entry hEntry
  have hOut := createChild_outcome dirs (hAlong.mono hBefore) (path entry) node
  rw [hChild] at hOut
  exact ⟨node, hPrepare, hOut.placed.mono hAfter⟩

/-- The prefix walker either refuses the prefix as `path.Resolve` does, or walks
its steps and last component from the root. -/
theorem resolvePrefix_outcome (dirs : Directories) (root : Nat) (pathPrefix : String) :
    (∃ err, resolve pathPrefix = .error err ∧ resolvePrefix dirs [] ⟨root, []⟩ pathPrefix = ([], .error err)) ∨
    ∃ steps terminal, resolve pathPrefix = .ok (steps, terminal) ∧
      prefixPath pathPrefix = applySteps [] (steps ++ terminal.toList.map .directory) ∧
      WalkOutcome root [] (steps ++ terminal.toList.map .directory) [] (resolvePrefix dirs [] ⟨root, []⟩ pathPrefix) := by
  unfold resolvePrefix prefixPath
  cases resolve pathPrefix with
  | error err => exact .inl ⟨err, rfl, rfl⟩
  | ok resolved => exact .inr ⟨resolved.1, resolved.2, rfl, rfl, walk_outcome dirs root _ [] _ [] .root⟩

/-- A prefix walker that returned a stack reached `prefixPath` along it. -/
theorem resolvePrefix_along {dirs : Directories} {root : Nat} {pathPrefix : String} {calls : List TreeCall}
    {stack : NonEmptyStack} (h : resolvePrefix dirs [] ⟨root, []⟩ pathPrefix = (calls, .ok stack)) :
    ∃ path, prefixPath pathPrefix = some path ∧ Along calls root stack path := by
  rcases resolvePrefix_outcome dirs root pathPrefix with ⟨_, _, hErr⟩ | ⟨_, _, _, hPath, _, -, hOut⟩
  · rw [h] at hErr
    cases hErr
  · rw [h] at hOut
    rcases hOut with ⟨_, path, hStack, hApply, hAlong⟩ | ⟨hErr, _⟩ | ⟨_, hErr, _⟩
    · cases hStack
      exact ⟨path, hPath.trans hApply, hAlong⟩
    · cases hErr
    · cases hErr

/-! ### The entries of a request, in order -/

section Jobs

variable {root : Nat} {path : List Component} {calls calls' : List TreeCall} {jobs : List EntryJob}

end Jobs

/-! ### The path law -/

/-- What `BatchCreate` does with a request whose directory entry `entry`,
after the directory entries `pre`, is the first over the maximum tree size. It
makes the calls of the request cut before `entry` and without symbolic links,
and nothing more, and fails with that request's error, or else with the size
error. When the cut request succeeds, those calls walked the prefix from the
root, cleaned it if asked, and placed every file and every directory entry of
`pre`. -/
def OversizedOutcome (dirs : Directories) (maximumTreeSizeBytes : Int) (root : Nat) (buildState : BuildState)
    (request : BatchCreateRequest) (pre : List OutputDirectory) (entry : OutputDirectory) : Prop :=
  let cut := batchCreateOn dirs maximumTreeSizeBytes root buildState
    { request with directories := pre, symlinks := [] }
  batchCreateOn dirs maximumTreeSizeBytes root buildState request =
      (cut.1, some (cut.2.getD (treeTooLarge entry entry.treeDigest.sizeBytes maximumTreeSizeBytes))) ∧
  (cut.2 = none → ∃ prefixCalls stack path,
    resolvePrefix dirs [] ⟨root, []⟩ request.pathPrefix = (prefixCalls, .ok stack) ∧
    prefixPath request.pathPrefix = some path ∧ Along prefixCalls root stack path ∧ prefixCalls <+: cut.1 ∧
    (request.cleanPathPrefix = true → .removeAllChildren stack.peek none ∈ cut.1) ∧
    (∀ file ∈ request.files, ∃ node, prepareFile buildState.digestFunction file = .ok node ∧
      Placed root path file.path node cut.1) ∧
    ∀ earlier ∈ pre, ∃ node, prepareDirectory buildState.digestFunction maximumTreeSizeBytes earlier = .ok node ∧
      Placed root path earlier.path node cut.1)

/-- `BatchCreate` of a request with a directory entry over the maximum tree
size fails, but only once it has done what the request cut before the first
such entry, and without symbolic links, does: when that request succeeds, the
prefix directory was created and cleaned if asked, and every file and every
earlier directory entry was placed. That request's error is returned if it has
one, and otherwise the size error, an `InvalidArgument` naming the entry. -/
theorem batchCreateOn_oversized (dirs : Directories) (maximumTreeSizeBytes : Int) (root : Nat)
    (buildState : BuildState) (request : BatchCreateRequest)
    (hParse : ∀ entry ∈ request.directories,
      ∃ digest, buildState.digestFunction.newDigestFromProto entry.treeDigest = .ok digest)
    (hLarge : ∃ entry ∈ request.directories, maximumTreeSizeBytes < entry.treeDigest.sizeBytes) :
    ∃ pre entry post, request.directories = pre ++ entry :: post ∧
      maximumTreeSizeBytes < entry.treeDigest.sizeBytes ∧
      (∀ earlier ∈ pre, earlier.treeDigest.sizeBytes ≤ maximumTreeSizeBytes) ∧
      OversizedOutcome dirs maximumTreeSizeBytes root buildState request pre entry := by
  obtain ⟨large, hMem, hBig⟩ := hLarge
  cases hFind : request.directories.find? (fun entry => decide (maximumTreeSizeBytes < entry.treeDigest.sizeBytes)) with
  | none => exact absurd (decide_eq_true hBig) (by simpa using List.find?_eq_none.mp hFind large hMem)
  | some first =>
    obtain ⟨hFirst, pre, post, hSplit, hPre⟩ := List.find?_eq_some.mp hFind
    have hFirstBig : maximumTreeSizeBytes < first.treeDigest.sizeBytes := of_decide_eq_true hFirst
    obtain ⟨digest, hDigest⟩ := hParse first (by rw [hSplit]; exact List.mem_append_right _ (List.mem_cons_self _ _))
    have hEntry : prepareDirectory buildState.digestFunction maximumTreeSizeBytes first =
        .error (treeTooLarge first first.treeDigest.sizeBytes maximumTreeSizeBytes) := by
      simp [prepareDirectory, hDigest, newDigestFromProto_sizeBytes hDigest, hFirstBig]
    refine ⟨pre, first, post, hSplit, hFirstBig, fun e he => by simpa using hPre e he,
      batchCreateOn_directory_error hSplit hEntry, fun hOk => ?_⟩
    -- what the cut request did when it succeeded
    obtain ⟨prefixCalls, stack, hPrefix, hCalls, hCleanCall, hFiles, hDirs, -⟩ := batchCreateOn_ok hOk
    obtain ⟨path, hPath, hAlong⟩ := resolvePrefix_along hPrefix
    exact ⟨prefixCalls, stack, path, hPrefix, hPath, hAlong, hCalls, hCleanCall, hFiles.placed hAlong,
      hDirs.placed hAlong⟩

/-- A request with the prefix `p` to clean, a file `a` and a directory `d` of
ten bytes over a maximum of five: `BatchCreate` stops at `d`, after the request
without `d`, which succeeds. -/
theorem batchCreateOn_oversized_stops_at_d :
    let request : BatchCreateRequest := ⟨"b1", "p", true, [⟨"a", ⟨"ca978112ca1bbdcafac231b39a23dc4da786eff8147c4e72b9807785afee48bb", 1⟩, false⟩],
      [⟨"d", ⟨"9b04013a4896982cec1ce40bdc9202164d7589985f9e7bec65ba7d0b22ca1cc3", 10⟩⟩], []⟩
    let dirs : Directories := ⟨fun calls _ _ => .ok (calls.length + 5), fun _ _ => none, fun _ _ _ _ => none⟩
    (∀ entry ∈ request.directories, ∃ digest, (⟨"", 1⟩ : DigestFunction).newDigestFromProto entry.treeDigest = .ok digest) ∧
      (∃ entry ∈ request.directories, (5 : Int) < entry.treeDigest.sizeBytes) ∧
      (batchCreateOn dirs 5 1 ⟨"b1", ⟨"", 1⟩, ⟨"/o", []⟩⟩ { request with directories := [], symlinks := [] }).2 =
        none ∧
      ∃ pre entry post, request.directories = pre ++ entry :: post ∧
        (5 : Int) < entry.treeDigest.sizeBytes ∧ (∀ earlier ∈ pre, earlier.treeDigest.sizeBytes ≤ 5) ∧
        OversizedOutcome dirs 5 1 ⟨"b1", ⟨"", 1⟩, ⟨"/o", []⟩⟩ request pre entry := by
  intro request dirs
  have hParse : ∀ entry ∈ request.directories,
      ∃ digest, (⟨"", 1⟩ : DigestFunction).newDigestFromProto entry.treeDigest = .ok digest := by
    simp [request, DigestFunction.newDigestFromProto]
  have hLarge : ∃ entry ∈ request.directories, (5 : Int) < entry.treeDigest.sizeBytes := by
    simp [request]
  exact ⟨hParse, hLarge, rfl, batchCreateOn_oversized dirs 5 1 ⟨"b1", ⟨"", 1⟩, ⟨"/o", []⟩⟩ request hParse hLarge⟩

/-- Once build `b1` has started on `ob1`, that request makes the tree create
and clean the prefix directory `p` and create the file `a` before `BatchCreate`
fails on `d`. -/
theorem batchCreate_oversized_after_file :
    (newRemoteOutputServiceDirectory.startBuild ⟨"ob1", rfl⟩ "b1" ⟨"", 1⟩ ⟨"/o", []⟩).2.batchCreate
        ⟨fun calls _ _ => .ok (calls.length + 5), fun _ _ => none, fun _ _ _ _ => none⟩ 5
        ⟨"b1", "p", true, [⟨"a", ⟨"ca978112ca1bbdcafac231b39a23dc4da786eff8147c4e72b9807785afee48bb", 1⟩, false⟩], [⟨"d", ⟨"9b04013a4896982cec1ce40bdc9202164d7589985f9e7bec65ba7d0b22ca1cc3", 10⟩⟩], []⟩ =
      some ([.createAndEnterPrepopulatedDirectory 1 ⟨"p", rfl⟩ (.ok 5), .removeAllChildren 5 none,
          .createChildren 5 ⟨"a", rfl⟩ (.file ⟨⟨"", 1⟩, "ca978112ca1bbdcafac231b39a23dc4da786eff8147c4e72b9807785afee48bb", 1⟩ false) none],
        some ⟨.invalidArgument, "Directory \"d\" is 10 bytes in size, which exceeds the permitted maximum of 5 bytes"⟩) := by
  rfl

namespace System

open RemoteOutputServiceDirectory

/-- In every reachable state, `BatchCreate` of an active build is
`batchCreateOn` on the root directory of the base the build is active on, with
that build's state; of any other build it fails with `FailedPrecondition` and
makes no call on any tree. -/
theorem batchCreate_eq {s : System} (hs : s.Reachable) (dirs : Directories) (maximumTreeSizeBytes : Int)
    (request : BatchCreateRequest) :
    (s.directory.sessions.Active request.buildId →
      ∃ ob state buildState, s.directory.outputBaseIDs.lookup ob = some state ∧
        s.directory.sessions ob = some (some request.buildId) ∧ buildState.id = request.buildId ∧
        s.directory.batchCreate dirs maximumTreeSizeBytes request =
          some (batchCreateOn dirs maximumTreeSizeBytes state buildState request)) ∧
    (¬s.directory.sessions.Active request.buildId →
      s.directory.batchCreate dirs maximumTreeSizeBytes request =
        some ([], some ⟨.failedPrecondition, "Build ID is not associated with any running build"⟩)) := by
  obtain ⟨l, hw⟩ := hs.wellFormed
  refine ⟨fun hActive => ?_, fun hNot => by
    simp [batchCreate, getOutputPathAndBuildState_of_not_active hw hNot]⟩
  obtain ⟨⟨state, buildState⟩, hGet⟩ := (hw.getOutputPathAndBuildState_ok_iff request.buildId).mpr hActive
  obtain ⟨ob, b, hLookup, hSession, rfl, hId⟩ := hw.getOutputPathAndBuildState_eq hGet
  exact ⟨ob, state, b, hLookup, hSession, hId, by simp [batchCreate, hGet]⟩

end System

end RemoteOutputService
