import RemoteOutputService.Registry.StartBuild
import RemoteOutputService.Registry.ReadDir

/-! Calls that overlap, and calls that are repeated.

`Clean` empties the tree of the output path it looked up without holding the
lock, so other calls run between its two critical sections; its commit acts
only if the same `outputPathState` is still registered under the name. Objects
are allocated at `fresh` and never reused, so an object that was unregistered
stays unregistered: a commit whose object another `Clean` removed in the
meantime changes nothing, even after a `StartBuild` has registered the name
again. A `StartBuild` that comes while the name is still registered reuses the
object, and the commit ends its build.

A build ID gets a session only from a `StartBuild` that names it, and
`FinalizeBuild` and `Clean`, repeated, change nothing the second time. -/
namespace RemoteOutputService

open Function

/-- What a lookup finds after an erase was there before, under another key. -/
theorem lookup_of_lookup_erase {α : Type} {β : α → Type} [DecidableEq α] {a a' : α} {s : AList β}
    {b : β a} (h : (s.erase a').lookup a = some b) : a ≠ a' ∧ s.lookup a = some b := by
  by_cases he : a = a'
  · subst he
    simp [AList.lookup_erase] at h
  · exact ⟨he, by rwa [AList.lookup_erase_ne he] at h⟩

namespace Sessions

variable {a a' : Sessions} {ob : Component} {buildId other : String}

theorem Active.of_clean (h : (clean ob a).Active buildId) : a.Active buildId := by
  obtain ⟨ob', h⟩ := h
  by_cases he : ob' = ob
  · subst he
    simp [clean] at h
  · exact ⟨ob', by rwa [clean, update_noteq he] at h⟩

theorem Active.of_finalize (h : (finalize other a).Active buildId) : a.Active buildId := by
  obtain ⟨ob', h⟩ := h
  refine ⟨ob', ?_⟩
  simp only [finalize] at h
  split at h
  · cases h
  · exact h

theorem Active.of_start (hStart : Start ob other a a') (hne : other ≠ buildId)
    (h : a'.Active buildId) : a.Active buildId := by
  rcases hStart with ⟨-, rfl⟩ | ⟨-, rfl⟩
  · exact h
  · obtain ⟨ob', h⟩ := h
    by_cases he : ob' = ob
    · subst he
      simp only [update_same, Option.some.injEq] at h
      exact absurd h hne
    · exact ⟨ob', by rwa [update_noteq he] at h⟩

end Sessions

namespace RemoteOutputServiceDirectory

variable {d d' d'' : RemoteOutputServiceDirectory} {l : List Nat}

/-- Every object allocated in `d` and not registered there is not registered in
`d'` either, and `fresh` does not go back: objects are never reused. -/
def Retires (d d' : RemoteOutputServiceDirectory) : Prop :=
  d.fresh ≤ d'.fresh ∧ ∀ state < d.fresh, ¬d.Registered state → ¬d'.Registered state

section Retires

theorem Retires.refl (d : RemoteOutputServiceDirectory) : Retires d d :=
  ⟨le_rfl, fun _ _ h => h⟩

theorem Retires.trans (h : Retires d d') (h' : Retires d' d'') : Retires d d'' :=
  ⟨h.1.trans h'.1, fun state hs hr => h'.2 state (hs.trans_le h.1) (h.2 state hs hr)⟩

theorem retires_closeBuild (state : Nat) : Retires d (d.closeBuild state) := by
  simp [Retires]

theorem retires_startBuild (ob : Component) (buildId : String) (digestFunction : DigestFunction)
    (scopeWalkerFactory : ScopeWalkerFactory) :
    Retires d (d.startBuild ob buildId digestFunction scopeWalkerFactory).2 := by
  unfold RemoteOutputServiceDirectory.startBuild RemoteOutputServiceDirectory.resolveOutputPath
  split
  · exact Retires.refl d
  · split
    · exact retires_closeBuild _
    · rename_i hob
      exact ⟨Nat.le_succ _, fun state hs hr hr' =>
        hr (((registered_insert_iff hob).mp hr').resolve_left hs.ne)⟩

theorem retires_finalizeBuild {buildId : String} (h : d.finalizeBuild buildId = some d') :
    Retires d d' := by
  unfold RemoteOutputServiceDirectory.finalizeBuild at h
  split at h
  · cases h; exact Retires.refl d
  · split at h
    · cases h
    · cases h; exact retires_closeBuild _

theorem retires_cleanCommit (ob : Component) (state : Nat) :
    Retires d (d.cleanCommit ob state) := by
  unfold RemoteOutputServiceDirectory.cleanCommit
  split
  · dsimp only
    refine ⟨by simp, fun other _ hr ⟨ob', hl⟩ => hr ⟨ob', ?_⟩⟩
    rw [closeBuild_outputBaseIDs] at hl
    exact (lookup_of_lookup_erase hl).2
  · exact Retires.refl d

end Retires

section Repeated

/-- `FinalizeBuild` takes its build ID out of the index. -/
theorem WellFormed.finalizeBuild_lookup (h : WellFormed d l) {buildId : String}
    (hf : d.finalizeBuild buildId = some d') : d'.buildIDs.lookup buildId = none := by
  unfold RemoteOutputServiceDirectory.finalizeBuild at hf
  split at hf
  · cases hf; assumption
  · rename_i state hl
    obtain ⟨-, b, hb, rfl⟩ := h.indexed.1 _ _ hl
    rw [hb] at hf
    cases hf
    simp [closeBuild_buildIDs_lookup, hb]

theorem finalizeBuild_of_lookup_none {buildId : String} (h : d.buildIDs.lookup buildId = none) :
    d.finalizeBuild buildId = some d := by
  simp [finalizeBuild, h]

/-- After an uninterleaved `Clean` its output base ID is not registered. -/
theorem clean_lookup_self (d : RemoteOutputServiceDirectory) (ob : Component) :
    (d.clean ob).outputBaseIDs.lookup ob = none := by
  unfold clean cleanLookup
  split
  · rename_i state hl
    simp [cleanCommit, hl, AList.lookup_erase]
  · assumption

theorem clean_of_lookup_none {ob : Component} (h : d.outputBaseIDs.lookup ob = none) :
    d.clean ob = d := by
  simp [clean, cleanLookup, h]

/-- A `StartBuild` for a build ID without a session on an output base without
an output path allocates a new object at `fresh`, named after the output base,
with the change ID as its cookie. -/
theorem startBuild_of_unregistered {ob : Component} {buildId : String} (digestFunction : DigestFunction)
    (scopeWalkerFactory : ScopeWalkerFactory) (hb : d.buildIDs.lookup buildId = none)
    (hob : d.outputBaseIDs.lookup ob = none) :
    (d.startBuild ob buildId digestFunction scopeWalkerFactory).2.outputBaseIDs.lookup ob = some d.fresh ∧
      (d.startBuild ob buildId digestFunction scopeWalkerFactory).2.cookie d.fresh = d.changeID ∧
      (d.startBuild ob buildId digestFunction scopeWalkerFactory).2.outputBaseID d.fresh = ob := by
  simp [startBuild, resolveOutputPath, hb, hob, AList.lookup_insert, createOutputPath]

/-- A build ID without a session has no entry in `buildIDs`. -/
theorem WellFormed.buildIDs_lookup_of_not_active (h : WellFormed d l) {buildId : String}
    (hNot : ¬d.sessions.Active buildId) : d.buildIDs.lookup buildId = none :=
  Option.eq_none_iff_forall_not_mem.mpr fun _ hState => hNot ((h.active_iff buildId).mpr ⟨_, hState⟩)

/-- A listing from `firstCookie` that accepts every entry reports each
registered object whose cookie is at least `firstCookie`. -/
theorem WellFormed.virtualReadDir_reports (h : WellFormed d l) {state firstCookie : Nat} (hs : state ∈ l)
    (hCookie : firstCookie ≤ d.cookie state) :
    d.virtualReadDir firstCookie (fun _ _ => true) = some (d.offered l firstCookie) ∧
      d.directoryEntry state ∈ d.offered l firstCookie :=
  ⟨by rw [h.virtualReadDir_eq, reportEntries_accept, List.nil_append],
    List.mem_map_of_mem _ (List.mem_filter.mpr ⟨hs, decide_eq_true hCookie⟩)⟩

/-- The commit of a `Clean` of a registered output base leaves no name leading
to its object. -/
theorem WellFormed.cleanCommit_lookup_ne (h : WellFormed d l) {ob : Component} {state : Nat}
    (hl : d.outputBaseIDs.lookup ob = some state) (name : Component) :
    (d.cleanCommit ob state).outputBaseIDs.lookup name ≠ some state := fun hName => by
  rw [cleanCommit_eq hl (h.previous_ne ⟨ob, hl⟩), closeBuild_outputBaseIDs] at hName
  obtain ⟨hne, hName⟩ := lookup_of_lookup_erase hName
  exact hne (h.outputBaseID_inj hName hl)

/-- The commit of a `Clean` of a registered output base takes the build that
ran on it out of the index. -/
theorem WellFormed.cleanCommit_buildIDs (h : WellFormed d l) {ob : Component} {state : Nat}
    {buildId : String} (hl : d.outputBaseIDs.lookup ob = some state)
    (hSession : d.sessions ob = some (some buildId)) :
    (d.cleanCommit ob state).buildIDs.lookup buildId = none := by
  obtain ⟨b, hb, hid⟩ : ∃ b, d.buildState state = some b ∧ b.id = buildId := by
    simpa [sessions, hl] using hSession
  rw [cleanCommit_eq hl (h.previous_ne ⟨ob, hl⟩), closeBuild_buildIDs_lookup]
  simp [hb, hid]

end Repeated

end RemoteOutputServiceDirectory

/-- Whether an action is the critical section of a `StartBuild` for `buildId`. -/
def Action.startsBuild (buildId : String) : Action → Bool
  | .startBuild _ other _ _ => decide (other = buildId)
  | _ => false

namespace System

open RemoteOutputServiceDirectory

theorem retires_run {s₁ s₂ : System} {as : List Action} (h : s₁.run as = some s₂) :
    Retires s₁.directory s₂.directory :=
  run_relates_directory Retires.refl (fun _ _ _ h h' => h.trans h')
    (fun _ => retires_startBuild) (fun _ _ _ => retires_finalizeBuild)
    (fun _ => retires_cleanCommit) h

/-- A `Clean` whose output path was unregistered at some point after its lookup
commits nothing, whatever ran since: in particular it leaves alone an output
path that a later `StartBuild` registered under the same name. -/
theorem cleanCommit_noop_after_removal {s₀ s₁ s₂ : System} {as bs : List Action} {ob : Component}
    {state : Nat} (hs : s₀.Reachable) (hl : s₀.directory.cleanLookup ob = some state)
    (hRun : s₀.run as = some s₁) (hGone : ¬s₁.directory.Registered state)
    (hRun' : s₁.run bs = some s₂) :
    s₂.directory.cleanCommit ob state = s₂.directory := by
  obtain ⟨l, hw⟩ := hs.wellFormed
  have hFresh : state < s₁.directory.fresh :=
    (hw.registered_lt_fresh ⟨ob, hl⟩).trans_le (retires_run hRun).1
  exact cleanCommit_of_ne fun h => (retires_run hRun').2 state hFresh hGone ⟨ob, h⟩

/-- Two `Clean` calls of `ob1` look up object 1; one commits, and a `StartBuild`
registers `ob1` again as object 2. The other commit leaves object 2 alone. -/
theorem cleanCommit_noop_after_recreate :
    let first := (newRemoteOutputServiceDirectory.startBuild ⟨"ob1", rfl⟩ "b1" ⟨"", 1⟩ ⟨"/o", []⟩).2
    let again := ((first.cleanCommit ⟨"ob1", rfl⟩ 1).startBuild ⟨"ob1", rfl⟩ "b2" ⟨"", 1⟩ ⟨"/o", []⟩).2
    again.virtualLookup ⟨"ob1", rfl⟩ = some 2 ∧ again.cleanCommit ⟨"ob1", rfl⟩ 1 = again := by
  intro first again
  have hGone : ¬(first.cleanCommit ⟨"ob1", rfl⟩ 1).Registered 1 := fun ⟨ob, h⟩ => by
    rw [show (first.cleanCommit ⟨"ob1", rfl⟩ 1).outputBaseIDs = ∅ from rfl, AList.lookup_empty] at h
    cases h
  exact ⟨rfl, @cleanCommit_noop_after_removal ⟨first, []⟩ ⟨first.cleanCommit ⟨"ob1", rfl⟩ 1, []⟩
    ⟨again, []⟩ [.cleanLookup ⟨"ob1", rfl⟩, .cleanCommit ⟨"ob1", rfl⟩ 1]
    [.startBuild ⟨"ob1", rfl⟩ "b2" ⟨"", 1⟩ ⟨"/o", []⟩] ⟨"ob1", rfl⟩ 1
    ⟨[.startBuild ⟨"ob1", rfl⟩ "b1" ⟨"", 1⟩ ⟨"/o", []⟩], rfl⟩ rfl rfl hGone rfl⟩

/-- A critical section other than a `StartBuild` for `buildId` gives it no
session. -/
theorem step_not_active {s s' : System} {a : Action} {buildId : String} (hs : s.Reachable)
    (h : s.step a = some s') (ha : a.startsBuild buildId = false)
    (hNot : ¬s.directory.sessions.Active buildId) : ¬s'.directory.sessions.Active buildId := by
  obtain ⟨l, hw⟩ := hs.wellFormed
  cases a with
  | startBuild ob other digestFunction scopeWalkerFactory =>
    cases h
    have hne : other ≠ buildId := by simpa [Action.startsBuild] using ha
    exact fun hA => hNot (Sessions.Active.of_start (hw.sessions_startBuild ob other _ _) hne hA)
  | finalizeBuild other =>
    obtain ⟨d', hf, rfl⟩ := Option.map_eq_some'.mp h
    obtain ⟨d'', hf', hd⟩ := hw.sessions_finalizeBuild other
    rw [hf] at hf'
    cases hf'
    exact fun hA => hNot (Sessions.Active.of_finalize (hd ▸ hA))
  | cleanLookup ob =>
    cases h
    split <;> exact hNot
  | cleanCommit ob state =>
    simp only [step] at h
    split at h
    · cases h
      by_cases hl : s.directory.outputBaseIDs.lookup ob = some state
      · exact fun hA => hNot (Sessions.Active.of_clean (hw.sessions_cleanCommit hl ▸ hA))
      · rwa [cleanCommit_of_ne hl]
    · cases h
  | getOutputPathAndBuildState _ =>
    cases h
    exact hNot

/-- Along any interleaving without a `StartBuild` for `buildId`, a build ID
without a session gets none. -/
theorem run_not_active {s s' : System} {as : List Action} {buildId : String} (hs : s.Reachable)
    (h : s.run as = some s') (has : ∀ a ∈ as, a.startsBuild buildId = false)
    (hNot : ¬s.directory.sessions.Active buildId) : ¬s'.directory.sessions.Active buildId := by
  induction as generalizing s with
  | nil => cases h; exact hNot
  | cons a as ih =>
    rw [run_cons] at h
    obtain ⟨t, ht, h⟩ := Option.bind_eq_some.mp h
    exact ih (hs.step ht) h (fun a' ha' => has a' (List.mem_cons_of_mem _ ha'))
      (step_not_active hs ht (has a (List.mem_cons_self _ _)) hNot)

/-- `FinalizeBuild` and an uninterleaved `Clean` are idempotent: in every
reachable registry `FinalizeBuild` succeeds, and a second `FinalizeBuild` for
the same build ID, or a second `Clean` of the same output base, leaves what the
first one left. -/
theorem finalizeBuild_clean_idempotent {s : System} (hs : s.Reachable) (buildId : String)
    (ob : Component) :
    (∃ d, s.directory.finalizeBuild buildId = some d ∧ d.finalizeBuild buildId = some d) ∧
    (s.directory.clean ob).clean ob = s.directory.clean ob := by
  obtain ⟨l, hw⟩ := hs.wellFormed
  obtain ⟨d, hf, -⟩ := hw.sessions_finalizeBuild buildId
  exact ⟨⟨d, hf, finalizeBuild_of_lookup_none (hw.finalizeBuild_lookup hf)⟩,
    clean_of_lookup_none (clean_lookup_self _ ob)⟩

/-- Both calls repeated after a first `StartBuild`. -/
theorem finalizeBuild_clean_idempotent_after_startBuild :
    let first := (newRemoteOutputServiceDirectory.startBuild ⟨"ob1", rfl⟩ "b1" ⟨"", 1⟩ ⟨"/o", []⟩).2
    (⟨first, []⟩ : System).Reachable ∧
    (∃ d, first.finalizeBuild "b1" = some d ∧ d.finalizeBuild "b1" = some d) ∧
    (first.clean ⟨"ob1", rfl⟩).clean ⟨"ob1", rfl⟩ = first.clean ⟨"ob1", rfl⟩ :=
  ⟨⟨[.startBuild ⟨"ob1", rfl⟩ "b1" ⟨"", 1⟩ ⟨"/o", []⟩], rfl⟩,
    finalizeBuild_clean_idempotent ⟨[.startBuild ⟨"ob1", rfl⟩ "b1" ⟨"", 1⟩ ⟨"/o", []⟩], rfl⟩ "b1" ⟨"ob1", rfl⟩⟩

/-- One name can be reported twice in a listing that is continued across
calls. In every reachable registry, a full `VirtualReadDir` reports each
output base. If that output base is cleaned and started again by a new build
before the listing goes on from the cookie reported with it, the continuation
reports the same name once more, for the new output path. -/
theorem virtualReadDir_repeats_recreated_name {s : System} (hs : s.Reachable) {ob : Component}
    {state : Nat} {buildId : String} (digestFunction : DigestFunction)
    (scopeWalkerFactory : ScopeWalkerFactory) (hl : s.directory.outputBaseIDs.lookup ob = some state)
    (hNew : ¬s.directory.sessions.Active buildId) :
    (∃ entries, s.directory.virtualReadDir 0 (fun _ _ => true) = some entries ∧
      s.directory.directoryEntry state ∈ entries) ∧
    ∃ s' entries, s.run [.cleanLookup ob, .cleanCommit ob state,
        .startBuild ob buildId digestFunction scopeWalkerFactory] = some s' ∧
      s'.directory.virtualReadDir (s.directory.directoryEntry state).nextCookie (fun _ _ => true) =
        some entries ∧
      ∃ entry ∈ entries, entry.name = ob ∧ entry.directory ≠ state := by
  obtain ⟨l, hw⟩ := hs.wellFormed
  have hMem : state ∈ l := (hw.mem_iff state).mpr ⟨ob, hl⟩
  refine ⟨⟨_, hw.virtualReadDir_reports hMem (Nat.zero_le _)⟩, ?_⟩
  set cleaned := s.directory.cleanCommit ob state
  have hCleaned := cleanCommit_eq hl (hw.previous_ne ⟨ob, hl⟩)
  obtain ⟨l₁, hw₁⟩ := hw.cleanCommit ob state
  have hb : cleaned.buildIDs.lookup buildId = none :=
    hw₁.buildIDs_lookup_of_not_active fun h => hNew (Sessions.Active.of_clean (hw.sessions_cleanCommit hl ▸ h))
  have hob : cleaned.outputBaseIDs.lookup ob = none := by simp [cleaned, hCleaned, AList.lookup_erase]
  obtain ⟨hNewLookup, hCookie, hName⟩ := startBuild_of_unregistered digestFunction scopeWalkerFactory hb hob
  set started := (cleaned.startBuild ob buildId digestFunction scopeWalkerFactory).2
  obtain ⟨l₂, hw₂⟩ := hw₁.startBuild ob buildId digestFunction scopeWalkerFactory
  -- the new output path's cookie is the change ID after the commit, above every earlier cookie
  have hLater : (s.directory.directoryEntry state).nextCookie ≤ started.cookie cleaned.fresh := by
    rw [hCookie, show cleaned.changeID = s.directory.changeID + 1 by simp [cleaned, hCleaned]]
    exact Nat.succ_le_succ (hw.cookie_lt state hMem).le
  obtain ⟨hRead, hReported⟩ := hw₂.virtualReadDir_reports ((hw₂.mem_iff _).mpr ⟨ob, hNewLookup⟩) hLater
  exact ⟨⟨started, s.cleaning⟩, _, by simp [run_cons, step, cleanLookup, hl, cleaned, started], hRead, _,
    hReported, hName,
    ne_of_eq_of_ne (show cleaned.fresh = s.directory.fresh by simp [cleaned, hCleaned])
      (hw.registered_lt_fresh ⟨ob, hl⟩).ne'⟩

/-- After a first `StartBuild` of `b1` on `ob1`, a full listing reports `ob1`;
once `ob1` is cleaned and started again by `b2`, the listing continued from
that entry's cookie reports `ob1` again. -/
theorem virtualReadDir_repeats_first_output_base :
    let first := (newRemoteOutputServiceDirectory.startBuild ⟨"ob1", rfl⟩ "b1" ⟨"", 1⟩ ⟨"/o", []⟩).2
    (⟨first, []⟩ : System).Reachable ∧ first.outputBaseIDs.lookup ⟨"ob1", rfl⟩ = some 1 ∧
    ¬first.sessions.Active "b2" ∧
    (∃ entries, first.virtualReadDir 0 (fun _ _ => true) = some entries ∧
      first.directoryEntry 1 ∈ entries) ∧
    ∃ s' entries, (⟨first, []⟩ : System).run [.cleanLookup ⟨"ob1", rfl⟩, .cleanCommit ⟨"ob1", rfl⟩ 1,
        .startBuild ⟨"ob1", rfl⟩ "b2" ⟨"", 1⟩ ⟨"/o", []⟩] = some s' ∧
      s'.directory.virtualReadDir (first.directoryEntry 1).nextCookie (fun _ _ => true) = some entries ∧
      ∃ entry ∈ entries, entry.name = ⟨"ob1", rfl⟩ ∧ entry.directory ≠ 1 := by
  intro first
  have hs : (⟨first, []⟩ : System).Reachable := ⟨[.startBuild ⟨"ob1", rfl⟩ "b1" ⟨"", 1⟩ ⟨"/o", []⟩], rfl⟩
  exact ⟨hs, rfl, not_active_after_first_startBuild (by decide),
    virtualReadDir_repeats_recreated_name hs ⟨"", 1⟩ ⟨"/o", []⟩ rfl (not_active_after_first_startBuild (by decide))⟩

end System

end RemoteOutputService
