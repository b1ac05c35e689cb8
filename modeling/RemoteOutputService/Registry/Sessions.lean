import RemoteOutputService.Registry.Invariant

/-! The build-session machine that the registry implements. Abstractly, each
registered output base has at most one active build; `StartBuild` opens one
(closing a stale one), `FinalizeBuild` closes it, `Clean` drops the base. The
registry refines this machine under `ob ↦ outputBaseIDs[ob].buildState.id`:
every critical section is an abstract step or leaves the abstraction alone. -/
namespace RemoteOutputService

open Function

/-- Each registered output base with the ID of its active build, if any. -/
def Sessions := Component → Option (Option String)

namespace Sessions

/-- `buildId` is the active build of some output base. -/
def Active (a : Sessions) (buildId : String) : Prop :=
  ∃ ob, a ob = some (some buildId)

/-- `start(ob, b)`: no change if `b` is active somewhere; otherwise `ob` is
registered if it was not, and `b` replaces whatever build it had. -/
def Start (ob : Component) (buildId : String) (a a' : Sessions) : Prop :=
  (a.Active buildId ∧ a' = a) ∨
    (¬a.Active buildId ∧ a' = update a ob (some (some buildId)))

/-- `finalize(b)`: close `b` wherever it is active. -/
def finalize (buildId : String) (a : Sessions) : Sessions :=
  fun ob => if a ob = some (some buildId) then some none else a ob

/-- `clean(ob)`: unregister `ob` together with its build. -/
def clean (ob : Component) (a : Sessions) : Sessions :=
  update a ob none

/-- One step of the abstract machine. -/
inductive Step : Sessions → Sessions → Prop
  | start {a a' : Sessions} (ob : Component) (buildId : String) (h : Start ob buildId a a') :
      Step a a'
  | finalize (a : Sessions) (buildId : String) : Step a (finalize buildId a)
  | clean (a : Sessions) (ob : Component) : Step a (clean ob a)

end Sessions

namespace RemoteOutputServiceDirectory

/-- The abstraction function: `ob ↦ outputBaseIDs[ob].buildState.id`. -/
def sessions (d : RemoteOutputServiceDirectory) : Sessions :=
  fun ob => (d.outputBaseIDs.lookup ob).map fun state => (d.buildState state).map BuildState.id

/-- The registry's effect of a `Clean` call whose two critical sections run
back to back. -/
def clean (d : RemoteOutputServiceDirectory) (ob : Component) : RemoteOutputServiceDirectory :=
  match d.cleanLookup ob with
  | some state => d.cleanCommit ob state
  | none => d

variable {d d' : RemoteOutputServiceDirectory} {l : List Nat}

theorem WellFormed.active_iff (h : WellFormed d l) (buildId : String) :
    d.sessions.Active buildId ↔ ∃ state, d.buildIDs.lookup buildId = some state := by
  constructor
  · rintro ⟨ob, hob⟩
    obtain ⟨state, hl, hb⟩ := Option.map_eq_some'.mp hob
    obtain ⟨b, hbs, rfl⟩ := Option.map_eq_some'.mp hb
    exact ⟨state, h.indexed.2 _ _ ⟨ob, hl⟩ hbs⟩
  · rintro ⟨state, hl⟩
    obtain ⟨⟨ob, hob⟩, b, hb, rfl⟩ := h.indexed.1 _ _ hl
    exact ⟨ob, by simp [sessions, hob, hb]⟩

/-- Two registered names with the same state are the same name. -/
theorem WellFormed.outputBaseID_inj (h : WellFormed d l) {ob ob' : Component} {state : Nat}
    (hl : d.outputBaseIDs.lookup ob = some state) (hl' : d.outputBaseIDs.lookup ob' = some state) :
    ob = ob' :=
  (h.outputBaseID_eq _ _ hl).symm.trans (h.outputBaseID_eq _ _ hl')

/-- The critical section of `StartBuild` is the abstract `start`. -/
theorem WellFormed.sessions_startBuild (h : WellFormed d l) (ob : Component) (buildId : String)
    (digestFunction : DigestFunction) (scopeWalkerFactory : ScopeWalkerFactory) :
    Sessions.Start ob buildId d.sessions
      (d.startBuild ob buildId digestFunction scopeWalkerFactory).2.sessions := by
  unfold RemoteOutputServiceDirectory.startBuild
  split
  · rename_i state hb
    exact .inl ⟨(h.active_iff buildId).mpr ⟨state, hb⟩, rfl⟩
  · rename_i hb
    refine .inr ⟨fun ha => ?_, ?_⟩
    · obtain ⟨other, ho⟩ := (h.active_iff buildId).mp ha
      rw [ho] at hb
      cases hb
    obtain ⟨l', h', hl, -, -⟩ := h.resolveOutputPath ob
    funext ob'
    by_cases he : ob' = ob
    · subst he
      simp [sessions, hl]
    · obtain ⟨hFrame, hState⟩ := h.resolveOutputPath_frame he
      rw [update_noteq he]
      simp only [sessions, hFrame]
      cases ho : d.outputBaseIDs.lookup ob' with
      | none => rfl
      | some other =>
        have hne : other ≠ (d.resolveOutputPath ob).1 := by
          rintro rfl
          exact he (h'.outputBaseID_inj (hFrame.trans ho) hl)
        simp [update_noteq hne, hState other ho]

/-- `FinalizeBuild` never panics on a well-formed registry, and is the abstract
`finalize`. -/
theorem WellFormed.sessions_finalizeBuild (h : WellFormed d l) (buildId : String) :
    ∃ d', d.finalizeBuild buildId = some d' ∧ d'.sessions = d.sessions.finalize buildId := by
  unfold RemoteOutputServiceDirectory.finalizeBuild
  split
  · rename_i hb
    refine ⟨d, rfl, funext fun ob => ?_⟩
    have hNot : d.sessions ob ≠ some (some buildId) := fun hob => by
      obtain ⟨other, ho⟩ := (h.active_iff buildId).mp ⟨ob, hob⟩
      rw [ho] at hb
      cases hb
    simp [Sessions.finalize, hNot]
  · rename_i state hb
    obtain ⟨hr, b, hbs, rfl⟩ := h.indexed.1 _ _ hb
    refine ⟨d.closeBuild state, by simp [hbs], funext fun ob => ?_⟩
    simp only [sessions, Sessions.finalize, closeBuild_outputBaseIDs]
    cases ho : d.outputBaseIDs.lookup ob with
    | none => rfl
    | some other =>
      by_cases he : other = state
      · subst he
        simp [hbs]
      · have hNot : (d.buildState other).map BuildState.id ≠ some b.id := by
          intro hm
          obtain ⟨b', hb', hid⟩ := Option.map_eq_some'.mp hm
          have := h.indexed.2 _ _ ⟨ob, ho⟩ hb'
          rw [hid, hb] at this
          exact he (Option.some.inj this).symm
        simp [closeBuild_buildState_ne he, hNot]

theorem WellFormed.previous_ne (h : WellFormed d l) {state : Nat} (hs : d.Registered state) :
    d.previous state ≠ state := by
  obtain ⟨l₁, l₂, rfl⟩ := List.append_of_mem ((h.mem_iff state).mpr hs)
  intro he
  have hm := he ▸ h.ring.previous_mem
  have hnd := h.nodup
  rw [← List.cons_append] at hnd
  exact (List.nodup_cons.mp (List.nodup_middle.mp hnd)).1 (List.mem_append_left _ hm)

/-- A `Clean` that commits the state it looked up is the abstract `clean`. -/
theorem WellFormed.sessions_cleanCommit (h : WellFormed d l) {ob : Component} {state : Nat}
    (hl : d.outputBaseIDs.lookup ob = some state) :
    (d.cleanCommit ob state).sessions = d.sessions.clean ob := by
  rw [cleanCommit_eq hl (h.previous_ne ⟨ob, hl⟩)]
  funext ob'
  by_cases he : ob' = ob
  · subst he
    simp [sessions, Sessions.clean, AList.lookup_erase]
  · simp only [sessions, Sessions.clean, closeBuild_outputBaseIDs, update_noteq he,
      AList.lookup_erase_ne he]
    cases ho : d.outputBaseIDs.lookup ob' with
    | none => rfl
    | some other =>
      have hne : other ≠ state := by
        rintro rfl
        exact he (h.outputBaseID_inj ho hl)
      simp [closeBuild_buildState_ne hne]

theorem WellFormed.sessions_clean (h : WellFormed d l) (ob : Component) :
    (d.clean ob).sessions = d.sessions.clean ob := by
  unfold clean cleanLookup
  split
  · rename_i state hl
    exact h.sessions_cleanCommit hl
  · rename_i hl
    funext ob'
    by_cases he : ob' = ob
    · subst he
      simp [sessions, Sessions.clean, hl]
    · simp [Sessions.clean, update_noteq he]

/-- `getOutputPathAndBuildState` succeeds exactly for the active builds. -/
theorem WellFormed.getOutputPathAndBuildState_ok_iff (h : WellFormed d l) (buildId : String) :
    (∃ r, d.getOutputPathAndBuildState buildId = .ok r) ↔ d.sessions.Active buildId := by
  rw [h.active_iff]
  unfold getOutputPathAndBuildState
  split <;> simp_all

/-- What `getOutputPathAndBuildState` returns: the state of the base the build
is active on, and that build. -/
theorem WellFormed.getOutputPathAndBuildState_eq (h : WellFormed d l) {buildId : String}
    {state : Nat} {buildState : Option BuildState}
    (hg : d.getOutputPathAndBuildState buildId = .ok (state, buildState)) :
    ∃ ob b, d.outputBaseIDs.lookup ob = some state ∧ d.sessions ob = some (some buildId) ∧
      buildState = some b ∧ b.id = buildId := by
  unfold getOutputPathAndBuildState at hg
  split at hg
  · cases hg
  · rename_i other hl
    cases hg
    obtain ⟨⟨ob, hob⟩, b, hb, rfl⟩ := h.indexed.1 _ _ hl
    exact ⟨ob, b, hob, by simp [sessions, hob, hb], hb, rfl⟩

theorem getOutputPathAndBuildState_of_not_active (h : WellFormed d l) {buildId : String}
    (hNot : ¬d.sessions.Active buildId) :
    d.getOutputPathAndBuildState buildId =
      .error ⟨.failedPrecondition, "Build ID is not associated with any running build"⟩ := by
  unfold getOutputPathAndBuildState
  split
  · rfl
  · rename_i state hl
    exact absurd ((h.active_iff buildId).mpr ⟨state, hl⟩) hNot

end RemoteOutputServiceDirectory

namespace System

open RemoteOutputServiceDirectory

/-- The two critical sections of a `Clean` that finds a state, run back to
back, are `clean`. -/
theorem run_clean {s : System} {ob : Component} {state : Nat}
    (hl : s.directory.cleanLookup ob = some state) :
    s.run [.cleanLookup ob, .cleanCommit ob state] = some ⟨s.directory.clean ob, s.cleaning⟩ := by
  simp [run_cons, step, hl, clean]

/-- Every critical section of any interleaving is a step of the session
machine or leaves the sessions as they are. -/
theorem sessions_step {s s' : System} {a : Action} (hs : s.Reachable)
    (h : s.step a = some s') :
    Sessions.Step s.directory.sessions s'.directory.sessions ∨
      s'.directory.sessions = s.directory.sessions := by
  obtain ⟨l, hw⟩ := hs.wellFormed
  rcases step_directory h with he | ⟨ob, buildId, digestFunction, scopeWalkerFactory, he⟩ | ⟨buildId, hf⟩ |
    ⟨ob, state, he⟩
  · exact .inr (by rw [he])
  · rw [he]
    exact .inl (.start ob buildId (hw.sessions_startBuild ob buildId digestFunction scopeWalkerFactory))
  · obtain ⟨d', hf', hd⟩ := hw.sessions_finalizeBuild buildId
    rw [hf] at hf'
    cases hf'
    exact .inl (hd ▸ .finalize _ buildId)
  · rw [he]
    by_cases hl : s.directory.outputBaseIDs.lookup ob = some state
    · exact .inl (hw.sessions_cleanCommit hl ▸ .clean _ ob)
    · exact .inr (by rw [cleanCommit_of_ne hl])

/-- The refinement laws at a state: every critical section is an abstract
step or a stutter; `StartBuild`, `FinalizeBuild` (which does not panic) and an
uninterleaved `Clean` are `start`, `finalize` and `clean`;
`getOutputPathAndBuildState`, hence `BatchCreate` and `BatchStat`, succeeds
exactly for active builds and then returns the state of the base the build is
active on and a build state with that ID; `buildIDs` indexes exactly the
builds of registered states. -/
def RefinesSessions (s : System) : Prop :=
  (∀ a s', s.step a = some s' →
    Sessions.Step s.directory.sessions s'.directory.sessions ∨
      s'.directory.sessions = s.directory.sessions) ∧
  (∀ ob buildId digestFunction scopeWalkerFactory, Sessions.Start ob buildId s.directory.sessions
    (s.directory.startBuild ob buildId digestFunction scopeWalkerFactory).2.sessions) ∧
  (∀ buildId, ∃ d', s.directory.finalizeBuild buildId = some d' ∧
    d'.sessions = s.directory.sessions.finalize buildId) ∧
  (∀ ob, (s.directory.clean ob).sessions = s.directory.sessions.clean ob) ∧
  (∀ buildId, (∃ r, s.directory.getOutputPathAndBuildState buildId = .ok r) ↔
    s.directory.sessions.Active buildId) ∧
  (∀ buildId, ¬s.directory.sessions.Active buildId →
    s.directory.getOutputPathAndBuildState buildId =
      .error ⟨.failedPrecondition, "Build ID is not associated with any running build"⟩) ∧
  (∀ buildId state buildState,
    s.directory.getOutputPathAndBuildState buildId = .ok (state, buildState) →
      ∃ ob b, s.directory.outputBaseIDs.lookup ob = some state ∧
        s.directory.sessions ob = some (some buildId) ∧ buildState = some b ∧ b.id = buildId) ∧
  (∀ buildId state, s.directory.buildIDs.lookup buildId = some state →
    ∃ b, s.directory.buildState state = some b ∧ b.id = buildId) ∧
  (∀ state b, s.directory.Registered state → s.directory.buildState state = some b →
    s.directory.buildIDs.lookup b.id = some state)

/-- Every reachable state of any interleaving satisfies the refinement laws:
the registry refines the session machine under `sessions`. -/
theorem registry_refines_sessions {s : System} (hs : s.Reachable) : s.RefinesSessions := by
  obtain ⟨l, hw⟩ := hs.wellFormed
  exact ⟨fun _ _ => sessions_step hs, hw.sessions_startBuild, hw.sessions_finalizeBuild,
    hw.sessions_clean, hw.getOutputPathAndBuildState_ok_iff,
    fun _ => getOutputPathAndBuildState_of_not_active hw,
    fun _ _ _ => hw.getOutputPathAndBuildState_eq,
    fun _ _ hl => (hw.indexed.1 _ _ hl).2, hw.indexed.2⟩

/-- The refinement laws hold after a first `StartBuild`. -/
theorem refinesSessions_after_startBuild :
    (⟨(newRemoteOutputServiceDirectory.startBuild ⟨"ob1", rfl⟩ "b1" ⟨"", 1⟩ ⟨"/o", []⟩).2, []⟩ :
      System).Reachable ∧
    (⟨(newRemoteOutputServiceDirectory.startBuild ⟨"ob1", rfl⟩ "b1" ⟨"", 1⟩ ⟨"/o", []⟩).2, []⟩ :
      System).RefinesSessions :=
  ⟨⟨[.startBuild ⟨"ob1", rfl⟩ "b1" ⟨"", 1⟩ ⟨"/o", []⟩], rfl⟩,
    registry_refines_sessions ⟨[.startBuild ⟨"ob1", rfl⟩ "b1" ⟨"", 1⟩ ⟨"/o", []⟩], rfl⟩⟩

end System

end RemoteOutputService
