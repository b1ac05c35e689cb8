import RemoteOutputService.Registry.Sessions

/-! What a `StartBuild` leaves behind for the build it starts. The critical
section returns the `outputPathState` whose tree `filterMissingChildren` then
filters with the request's digest function. A build ID that already has a
session is treated as a retry of that build: the registry is left alone. -/
namespace RemoteOutputService

open Function

namespace RemoteOutputServiceDirectory

variable {d : RemoteOutputServiceDirectory} {l : List Nat}

/-- The build that `resolveOutputPath` closes is the only one it drops from
the index. -/
theorem WellFormed.resolveOutputPath_buildIDs (h : WellFormed d l) {ob : Component}
    {buildId : String} (hKeep : ∀ state, d.buildIDs.lookup buildId = some state →
      d.outputBaseIDs.lookup ob ≠ some state) :
    (d.resolveOutputPath ob).2.buildIDs.lookup buildId = d.buildIDs.lookup buildId := by
  unfold RemoteOutputServiceDirectory.resolveOutputPath
  split
  · rename_i state hl
    rw [closeBuild_buildIDs_lookup, if_neg]
    intro hm
    obtain ⟨b, hb, rfl⟩ := Option.map_eq_some'.mp hm
    exact hKeep state (h.indexed.2 _ _ ⟨ob, hl⟩ hb) hl
  · rfl

theorem resolveOutputPath_closes {ob : Component}
    {buildId : String} (hActive : d.sessions ob = some (some buildId)) :
    (d.resolveOutputPath ob).2.buildIDs.lookup buildId = none := by
  obtain ⟨state, hl, hb⟩ := Option.map_eq_some'.mp hActive
  unfold RemoteOutputServiceDirectory.resolveOutputPath
  rw [hl]
  dsimp only
  rw [closeBuild_buildIDs_lookup, if_pos hb]

/-- What a `StartBuild` for `buildId` on `ob` leaves behind. For a build ID
without a session: that build is active on the state registered under `ob`,
the one returned for filtering, with the request's digest function; the build
`ob` had is gone; builds on other output bases keep their sessions. For a build
ID with a session: the registry as it was. -/
def StartBuildSession (d : RemoteOutputServiceDirectory) (ob : Component) (buildId : String)
    (digestFunction : DigestFunction) (scopeWalkerFactory : ScopeWalkerFactory) : Prop :=
  let started := d.startBuild ob buildId digestFunction scopeWalkerFactory
  (¬d.sessions.Active buildId →
    started.2.getOutputPathAndBuildState buildId =
      .ok (started.1, some ⟨buildId, digestFunction, scopeWalkerFactory⟩) ∧
    started.2.virtualLookup ob = some started.1 ∧
    (∀ other, other ≠ buildId → d.sessions ob = some (some other) →
      started.2.getOutputPathAndBuildState other =
        .error ⟨.failedPrecondition, "Build ID is not associated with any running build"⟩) ∧
    (∀ other ob', ob' ≠ ob → d.sessions ob' = some (some other) →
      started.2.getOutputPathAndBuildState other = d.getOutputPathAndBuildState other)) ∧
  (d.sessions.Active buildId →
    started.2 = d ∧ d.buildIDs.lookup buildId = some started.1)

/-- A `StartBuild` for a build ID without a session leaves that build active
on the state registered under `ob`, the one returned for filtering, with the
request's digest function; the build `ob` had is gone, and builds on other
output bases keep their sessions. A build ID with a session leaves the
registry as it was. -/
theorem WellFormed.startBuild_postcondition (h : WellFormed d l) (ob : Component)
    (buildId : String) (digestFunction : DigestFunction) (scopeWalkerFactory : ScopeWalkerFactory) :
    d.StartBuildSession ob buildId digestFunction scopeWalkerFactory := by
  unfold StartBuildSession
  intro started
  constructor
  · intro hNot
    have hb : d.buildIDs.lookup buildId = none := by
      cases hl : d.buildIDs.lookup buildId with
      | none => rfl
      | some state => exact absurd ((h.active_iff buildId).mpr ⟨state, hl⟩) hNot
    obtain ⟨l', h', hl, -, -⟩ := h.resolveOutputPath ob
    have hStarted : started = ((d.resolveOutputPath ob).1,
        { (d.resolveOutputPath ob).2 with
          buildState := update (d.resolveOutputPath ob).2.buildState (d.resolveOutputPath ob).1
            (some ⟨buildId, digestFunction, scopeWalkerFactory⟩),
          buildIDs := (d.resolveOutputPath ob).2.buildIDs.insert buildId
            (d.resolveOutputPath ob).1 }) := by
      simp only [started, RemoteOutputServiceDirectory.startBuild, hb]
    rw [hStarted]
    refine ⟨by simp [getOutputPathAndBuildState, AList.lookup_insert], hl, ?_, ?_⟩
    · intro other hne hActive
      simp [getOutputPathAndBuildState, AList.lookup_insert_ne hne,
        resolveOutputPath_closes hActive]
    · intro other ob' hne hActive
      obtain ⟨state, hl', hbs⟩ := Option.map_eq_some'.mp hActive
      obtain ⟨b, hb', rfl⟩ := Option.map_eq_some'.mp hbs
      have hIdx := h.indexed.2 _ _ ⟨ob', hl'⟩ hb'
      have hOther : b.id ≠ buildId := by rintro he; rw [he, hb] at hIdx; cases hIdx
      have hKeep : ∀ st, d.buildIDs.lookup b.id = some st → d.outputBaseIDs.lookup ob ≠ some st := by
        intro st hst hst'
        rw [hIdx] at hst
        cases hst
        exact hne (h.outputBaseID_inj hl' hst')
      obtain ⟨hFrame, hState⟩ := h.resolveOutputPath_frame hne
      have hNe : state ≠ (d.resolveOutputPath ob).1 := by
        rintro rfl
        exact hne (h'.outputBaseID_inj (hFrame.trans hl') hl)
      simp [getOutputPathAndBuildState, AList.lookup_insert_ne hOther,
        h.resolveOutputPath_buildIDs hKeep, hIdx, update_noteq hNe, hState state hl']
  · intro hActive
    obtain ⟨state, hl⟩ := (h.active_iff buildId).mp hActive
    simp [started, RemoteOutputServiceDirectory.startBuild, hl]

end RemoteOutputServiceDirectory

namespace System

open RemoteOutputServiceDirectory

/-- The amended session law of `StartBuild`, for every reachable registry. -/
theorem startBuild_session {s : System} (hs : s.Reachable) (ob : Component) (buildId : String)
    (digestFunction : DigestFunction) (scopeWalkerFactory : ScopeWalkerFactory) :
    s.directory.StartBuildSession ob buildId digestFunction scopeWalkerFactory :=
  (hs.wellFormed.choose_spec).startBuild_postcondition ob buildId digestFunction scopeWalkerFactory

/-- After a first `StartBuild` of `b1` on `ob1`, only `b1` has a session. -/
theorem not_active_after_first_startBuild {buildId : String} (hb : buildId ≠ "b1") :
    ¬(newRemoteOutputServiceDirectory.startBuild ⟨"ob1", rfl⟩ "b1" ⟨"", 1⟩ ⟨"/o", []⟩).2.sessions.Active
      buildId := fun h => by
  obtain ⟨l, hw⟩ := (show (⟨(newRemoteOutputServiceDirectory.startBuild ⟨"ob1", rfl⟩ "b1" ⟨"", 1⟩
    ⟨"/o", []⟩).2, []⟩ : System).Reachable from ⟨[.startBuild ⟨"ob1", rfl⟩ "b1" ⟨"", 1⟩ ⟨"/o", []⟩], rfl⟩).wellFormed
  obtain ⟨state, hState⟩ := (hw.active_iff buildId).mp h
  simp [RemoteOutputServiceDirectory.startBuild, resolveOutputPath, createOutputPath,
    newRemoteOutputServiceDirectory, AList.lookup_insert_ne hb, -AList.insert_empty] at hState

/-- The law in its three cases after a first `StartBuild` of `b1` on `ob1`: a
new build `b2` on a new output base `ob2`; a new build `b3` on `ob1`, which
closes `b1`; and `b1` again, with another digest function, which changes
nothing. -/
theorem startBuildSession_after_first_build :
    let first := (newRemoteOutputServiceDirectory.startBuild ⟨"ob1", rfl⟩ "b1" ⟨"", 1⟩ ⟨"/o", []⟩).2
    (⟨first, []⟩ : System).Reachable ∧
    (¬first.sessions.Active "b2" ∧ first.StartBuildSession ⟨"ob2", rfl⟩ "b2" ⟨"", 1⟩ ⟨"/o", []⟩) ∧
    (¬first.sessions.Active "b3" ∧ first.sessions ⟨"ob1", rfl⟩ = some (some "b1") ∧
      first.StartBuildSession ⟨"ob1", rfl⟩ "b3" ⟨"", 1⟩ ⟨"/o", []⟩) ∧
    (first.sessions.Active "b1" ∧ first.StartBuildSession ⟨"ob1", rfl⟩ "b1" ⟨"", 2⟩ ⟨"/o", []⟩) := by
  intro first
  have hs : (⟨first, []⟩ : System).Reachable := ⟨[.startBuild ⟨"ob1", rfl⟩ "b1" ⟨"", 1⟩ ⟨"/o", []⟩], rfl⟩
  exact ⟨hs, ⟨not_active_after_first_startBuild (by decide), startBuild_session hs _ _ _ _⟩,
    ⟨not_active_after_first_startBuild (by decide), rfl, startBuild_session hs _ _ _ _⟩,
    ⟨⟨⟨"ob1", rfl⟩, rfl⟩, startBuild_session hs _ _ _ _⟩⟩

/-- A retried `StartBuild` that names another output base and digest function
keeps the build on its first output base, with its first digest function, and
registers nothing under the new name. -/
theorem startBuild_active_buildId_keeps_session :
    let first := (newRemoteOutputServiceDirectory.startBuild ⟨"ob1", rfl⟩ "b1" ⟨"", 1⟩ ⟨"/o", []⟩).2
    let retried := first.startBuild ⟨"ob2", rfl⟩ "b1" ⟨"", 2⟩ ⟨"/o", []⟩
    initial.run [.startBuild ⟨"ob1", rfl⟩ "b1" ⟨"", 1⟩ ⟨"/o", []⟩] = some ⟨first, []⟩ ∧
    retried.2.virtualLookup ⟨"ob2", rfl⟩ = none ∧
    retried.2.getOutputPathAndBuildState "b1" = .ok (1, some ⟨"b1", ⟨"", 1⟩, ⟨"/o", []⟩⟩) :=
  ⟨rfl, rfl, rfl⟩

end System

end RemoteOutputService
