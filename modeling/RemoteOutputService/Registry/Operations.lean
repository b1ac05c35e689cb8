import RemoteOutputService.Registry.State

/-! The critical sections of the RPCs and of the FUSE surface. Each is the code
between `d.lock.Lock()` and `d.lock.Unlock()`, with the heap writes in the
order the Go code performs them. Work done outside the lock (resolving the
request, filtering or removing a tree) is modelled elsewhere. -/
namespace RemoteOutputService

open Function

namespace RemoteOutputServiceDirectory

variable (d : RemoteOutputServiceDirectory)

/-- `delete(d.buildIDs, buildState.id); state.buildState = nil` when `state`
has a build: the forced finalization shared by `StartBuild` and `Clean`. -/
def closeBuild (state : Nat) : RemoteOutputServiceDirectory :=
  match d.buildState state with
  | some buildState =>
    { d with buildIDs := d.buildIDs.erase buildState.id,
             buildState := update d.buildState state none }
  | none => d

/-- The branch of `StartBuild` for an output base without a state: allocate an
`outputPathState` at the ring's tail, register it, bump the change ID. -/
def createOutputPath (ob : Component) : Nat × RemoteOutputServiceDirectory :=
  let state := d.fresh
  -- state = &outputPathState{previous: d.outputPaths.previous, next: &d.outputPaths, ...}
  let d := { d with fresh := state + 1,
                    buildState := update d.buildState state none,
                    previous := update d.previous state (d.previous outputPaths),
                    next := update d.next state outputPaths,
                    cookie := update d.cookie state d.changeID,
                    outputBaseID := update d.outputBaseID state ob }
  let d := { d with outputBaseIDs := d.outputBaseIDs.insert ob state }
  -- state.previous.next = state
  let d := { d with next := update d.next (d.previous state) state }
  -- state.next.previous = state
  let d := { d with previous := update d.previous (d.next state) state }
  (state, { d with changeID := d.changeID + 1 })

/-- The output path a new build runs on: the registered one, with a build that
was not finalized closed, or a new one. -/
def resolveOutputPath (ob : Component) : Nat × RemoteOutputServiceDirectory :=
  match d.outputBaseIDs.lookup ob with
  | some state => (state, d.closeBuild state)
  | none => d.createOutputPath ob

/-- The critical section of `StartBuild`. A build ID that already has a
session leaves the registry alone. Returns the `outputPathState` whose tree
`filterMissingChildren` is then run on. -/
def startBuild (ob : Component) (buildId : String) (digestFunction : DigestFunction)
    (scopeWalkerFactory : ScopeWalkerFactory) : Nat × RemoteOutputServiceDirectory :=
  match d.buildIDs.lookup buildId with
  | some state => (state, d)
  | none =>
    let resolved := d.resolveOutputPath ob
    (resolved.1, { resolved.2 with
      buildState := update resolved.2.buildState resolved.1
        (some ⟨buildId, digestFunction, scopeWalkerFactory⟩),
      buildIDs := resolved.2.buildIDs.insert buildId resolved.1 })

/-- `FinalizeBuild`, ignoring unknown build IDs. `none` is the nil dereference
of `buildState.digestFunction`, which the code does not guard against. The
call of the tree's own `FinalizeBuild` is not modelled. -/
def finalizeBuild (buildId : String) : Option RemoteOutputServiceDirectory :=
  match d.buildIDs.lookup buildId with
  | none => some d
  | some state =>
    match d.buildState state with
    | none => none
    | some _ => some (d.closeBuild state)

/-- The first critical section of `Clean`: the state to remove, if any. -/
def cleanLookup (ob : Component) : Option Nat :=
  d.outputBaseIDs.lookup ob

/-- The second critical section of `Clean`, run after the tree of `state` was
emptied without the lock. It only acts if `state` is still the one registered
under `ob`. -/
def cleanCommit (ob : Component) (state : Nat) : RemoteOutputServiceDirectory :=
  if d.outputBaseIDs.lookup ob = some state then
    let d := { d with outputBaseIDs := d.outputBaseIDs.erase ob }
    -- outputPathState.previous.next = outputPathState.next
    let d := { d with next := update d.next (d.previous state) (d.next state) }
    -- outputPathState.next.previous = outputPathState.previous
    let d := { d with previous := update d.previous (d.next state) (d.previous state) }
    { d with changeID := d.changeID + 1 }.closeBuild state
  else d

/-- `getOutputPathAndBuildState`, used by `BatchCreate` and `BatchStat`. -/
def getOutputPathAndBuildState (buildId : String) : Except Status (Nat × Option BuildState) :=
  match d.buildIDs.lookup buildId with
  | none => .error ⟨.failedPrecondition, "Build ID is not associated with any running build"⟩
  | some state => .ok (state, d.buildState state)

/-- `VirtualLookup`: the root directory of the output path of `name`. -/
def virtualLookup (name : Component) : Option Nat :=
  d.outputBaseIDs.lookup name

/-- `virtual.EmptyDirectoryLinkCount`, the link count of a directory without
subdirectories. -/
def emptyDirectoryLinkCount : UInt32 := 2

/-- The registry-dependent attributes of the root directory. The file type
(directory), permissions (read, execute) and size (zero) are constants. -/
structure Attributes where
  changeID : Nat
  linkCount : UInt32
  deriving DecidableEq

/-- `VirtualGetAttributes`: the change ID, and one link per output path on top of
an empty directory's (the count is a `uint32`). -/
def virtualGetAttributes : Attributes :=
  ⟨d.changeID, emptyDirectoryLinkCount + d.outputBaseIDs.entries.length.toUInt32⟩

section Lemmas

variable {d} {state : Nat}

@[simp] theorem closeBuild_changeID : (d.closeBuild state).changeID = d.changeID := by
  unfold closeBuild; split <;> rfl
@[simp] theorem closeBuild_outputBaseIDs : (d.closeBuild state).outputBaseIDs = d.outputBaseIDs := by
  unfold closeBuild; split <;> rfl
@[simp] theorem closeBuild_previous : (d.closeBuild state).previous = d.previous := by
  unfold closeBuild; split <;> rfl
@[simp] theorem closeBuild_next : (d.closeBuild state).next = d.next := by
  unfold closeBuild; split <;> rfl
@[simp] theorem closeBuild_cookie : (d.closeBuild state).cookie = d.cookie := by
  unfold closeBuild; split <;> rfl
@[simp] theorem closeBuild_outputBaseID : (d.closeBuild state).outputBaseID = d.outputBaseID := by
  unfold closeBuild; split <;> rfl
@[simp] theorem closeBuild_fresh : (d.closeBuild state).fresh = d.fresh := by
  unfold closeBuild; split <;> rfl

@[simp] theorem closeBuild_buildState_self : (d.closeBuild state).buildState state = none := by
  unfold closeBuild; split <;> simp_all

theorem closeBuild_buildState_ne {other : Nat} (h : other ≠ state) :
    (d.closeBuild state).buildState other = d.buildState other := by
  unfold closeBuild; split <;> simp [update_noteq h]

/-- `closeBuild` drops the build ID of the closed build and nothing else. -/
theorem closeBuild_buildIDs_lookup (buildId : String) :
    (d.closeBuild state).buildIDs.lookup buildId =
      if (d.buildState state).map BuildState.id = some buildId then none
      else d.buildIDs.lookup buildId := by
  unfold closeBuild
  split <;> rename_i h <;> simp only [h, Option.map_some', Option.map_none', reduceCtorEq,
    if_false, Option.some.injEq]
  split <;> rename_i he
  · rw [← he, AList.lookup_erase]
  · exact AList.lookup_erase_ne (Ne.symm he)

@[simp] theorem createOutputPath_fst {ob : Component} : (d.createOutputPath ob).1 = d.fresh := rfl
@[simp] theorem createOutputPath_changeID {ob : Component} :
    (d.createOutputPath ob).2.changeID = d.changeID + 1 := rfl
@[simp] theorem createOutputPath_outputBaseIDs {ob : Component} :
    (d.createOutputPath ob).2.outputBaseIDs = d.outputBaseIDs.insert ob d.fresh := rfl
@[simp] theorem createOutputPath_buildIDs {ob : Component} :
    (d.createOutputPath ob).2.buildIDs = d.buildIDs := rfl
@[simp] theorem createOutputPath_buildState {ob : Component} :
    (d.createOutputPath ob).2.buildState = update d.buildState d.fresh none := rfl
@[simp] theorem createOutputPath_cookie {ob : Component} :
    (d.createOutputPath ob).2.cookie = update d.cookie d.fresh d.changeID := rfl
@[simp] theorem createOutputPath_fresh {ob : Component} :
    (d.createOutputPath ob).2.fresh = d.fresh + 1 := rfl

/-- The object `createOutputPath` allocates is linked between the ring's last
object and the sentinel. -/
theorem createOutputPath_eq {ob : Component} (ht : d.previous outputPaths ≠ d.fresh) :
    d.createOutputPath ob = (d.fresh,
      { changeID := d.changeID + 1
        outputBaseIDs := d.outputBaseIDs.insert ob d.fresh
        buildIDs := d.buildIDs
        buildState := update d.buildState d.fresh none
        previous := update (update d.previous d.fresh (d.previous outputPaths)) outputPaths d.fresh
        next := update (update d.next d.fresh outputPaths) (d.previous outputPaths) d.fresh
        cookie := update d.cookie d.fresh d.changeID
        outputBaseID := update d.outputBaseID d.fresh ob
        fresh := d.fresh + 1 }) := by
  unfold createOutputPath
  dsimp only
  rw [update_same, update_noteq ht.symm, update_same]

theorem cleanCommit_of_ne {ob : Component} (h : d.outputBaseIDs.lookup ob ≠ some state) :
    d.cleanCommit ob state = d := by
  simp [cleanCommit, h]

/-- A commit for the registered state unregisters it, joins its neighbours and
closes its build. -/
theorem cleanCommit_eq {ob : Component} (h : d.outputBaseIDs.lookup ob = some state)
    (hne : d.previous state ≠ state) :
    d.cleanCommit ob state =
      ({ d with outputBaseIDs := d.outputBaseIDs.erase ob,
                next := update d.next (d.previous state) (d.next state),
                previous := update d.previous (d.next state) (d.previous state),
                changeID := d.changeID + 1 } : RemoteOutputServiceDirectory).closeBuild state := by
  simp [cleanCommit, h, update_noteq hne.symm]

end Lemmas

end RemoteOutputServiceDirectory

end RemoteOutputService
