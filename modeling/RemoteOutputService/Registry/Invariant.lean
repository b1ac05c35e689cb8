import RemoteOutputService.Registry.System
import RemoteOutputService.Registry.Ring

/-! The invariant of the registry, and that every critical section keeps it.
`WellFormed d l` ties the two maps to the ring `l`; everything the FUSE surface
and the RPCs read from the registry is derived from it. -/
namespace RemoteOutputService

open Function

namespace RemoteOutputServiceDirectory

/-- `buildIDs` indexes exactly the builds of the objects that `registered`
holds. -/
def Indexed (registered : Nat → Prop) (buildIDs : GoMap String Nat)
    (buildState : Nat → Option BuildState) : Prop :=
  (∀ buildId state, buildIDs.lookup buildId = some state →
      registered state ∧ ∃ b, buildState state = some b ∧ b.id = buildId) ∧
  (∀ state b, registered state → buildState state = some b → buildIDs.lookup b.id = some state)

/-- The registry's invariant; `l` lists the ring from the sentinel. -/
structure WellFormed (d : RemoteOutputServiceDirectory) (l : List Nat) : Prop where
  ring : IsRing d.previous d.next l
  nodup : (outputPaths :: l).Nodup
  lt_fresh : ∀ state ∈ outputPaths :: l, state < d.fresh
  mem_iff : ∀ state, state ∈ l ↔ d.Registered state
  outputBaseID_eq : ∀ ob state, d.outputBaseIDs.lookup ob = some state → d.outputBaseID state = ob
  sorted : (l.map d.cookie).Pairwise (· < ·)
  cookie_lt : ∀ state ∈ l, d.cookie state < d.changeID
  indexed : Indexed d.Registered d.buildIDs d.buildState

variable {d : RemoteOutputServiceDirectory} {l : List Nat} {state : Nat}

theorem wellFormed_new : WellFormed newRemoteOutputServiceDirectory [] where
  ring := ⟨rfl, rfl⟩
  nodup := List.nodup_singleton _
  lt_fresh := by simp [newRemoteOutputServiceDirectory, outputPaths]
  mem_iff := by simp [Registered, newRemoteOutputServiceDirectory, AList.lookup_empty]
  outputBaseID_eq := by simp [newRemoteOutputServiceDirectory, AList.lookup_empty]
  sorted := List.Pairwise.nil
  cookie_lt := by simp
  indexed := by simp [Indexed, Registered, newRemoteOutputServiceDirectory, AList.lookup_empty]

theorem WellFormed.registered_lt_fresh (h : WellFormed d l) (hs : d.Registered state) :
    state < d.fresh :=
  h.lt_fresh state (List.mem_cons_of_mem _ ((h.mem_iff state).mpr hs))

/-- Closing a build keeps the index, for any registration that loses at most
the closed object. -/
theorem Indexed.closeBuild {registered registered' : Nat → Prop}
    (h : Indexed registered d.buildIDs d.buildState)
    (hKeep : ∀ other, registered other → other ≠ state → registered' other)
    (hSub : ∀ other, registered' other → registered other) (hState : registered state) :
    Indexed registered' (d.closeBuild state).buildIDs (d.closeBuild state).buildState := by
  have hNot : ∀ buildId other, d.buildIDs.lookup buildId = some other →
      (d.buildState state).map BuildState.id ≠ some buildId → other ≠ state := by
    rintro buildId other hl hne rfl
    obtain ⟨-, b, hb, rfl⟩ := h.1 _ _ hl
    simp [hb] at hne
  constructor
  · intro buildId other hl
    rw [closeBuild_buildIDs_lookup] at hl
    split at hl
    · cases hl
    · rename_i hne
      have hOther := hNot _ _ hl hne
      obtain ⟨hr, b, hb, hid⟩ := h.1 _ _ hl
      exact ⟨hKeep _ hr hOther, b, by rw [closeBuild_buildState_ne hOther, hb], hid⟩
  · intro other b hr hb
    by_cases hOther : other = state
    · subst hOther; simp at hb
    · rw [closeBuild_buildState_ne hOther] at hb
      have hl := h.2 _ _ (hSub _ hr) hb
      rw [closeBuild_buildIDs_lookup, hl, if_neg]
      intro he
      obtain ⟨b', hb', hid⟩ := Option.map_eq_some'.mp he
      have hs := h.2 _ _ hState hb'
      rw [hid, hl] at hs
      exact hOther (Option.some.inj hs)

@[simp] theorem closeBuild_registered : (d.closeBuild state).Registered = d.Registered := by
  funext other
  simp [Registered]

/-- Closing the build of a registered object keeps the invariant. -/
theorem WellFormed.closeBuild (h : WellFormed d l) (hs : d.Registered state) :
    WellFormed (d.closeBuild state) l where
  ring := by simpa using h.ring
  nodup := h.nodup
  lt_fresh := by simpa using h.lt_fresh
  mem_iff := by simpa using h.mem_iff
  outputBaseID_eq := by simpa using h.outputBaseID_eq
  sorted := by simpa using h.sorted
  cookie_lt := by simpa using h.cookie_lt
  indexed := by
    rw [closeBuild_registered]
    exact h.indexed.closeBuild (fun _ hr _ => hr) (fun _ hr => hr) hs

theorem registered_insert_iff {s : GoMap Component Nat} {ob : Component} {n other : Nat}
    (hob : s.lookup ob = none) :
    (∃ ob', (s.insert ob n).lookup ob' = some other) ↔
      other = n ∨ ∃ ob', s.lookup ob' = some other := by
  constructor
  · rintro ⟨ob', h'⟩
    by_cases he : ob' = ob
    · subst he
      rw [AList.lookup_insert] at h'
      exact .inl (Option.some.inj h').symm
    · rw [AList.lookup_insert_ne he] at h'
      exact .inr ⟨ob', h'⟩
  · rintro (rfl | ⟨ob', h'⟩)
    · exact ⟨ob, AList.lookup_insert _⟩
    · have he : ob' ≠ ob := by rintro rfl; simp [hob] at h'
      exact ⟨ob', by rw [AList.lookup_insert_ne he, h']⟩

/-- Allocating the state of a new output base keeps the invariant, with the new
object at the ring's tail. -/
theorem WellFormed.createOutputPath (h : WellFormed d l) {ob : Component}
    (hob : d.outputBaseIDs.lookup ob = none) :
    WellFormed (d.createOutputPath ob).2 (l ++ [d.fresh]) := by
  have hne : d.previous outputPaths ≠ d.fresh :=
    Nat.ne_of_lt (h.lt_fresh _ h.ring.previous_outputPaths_mem)
  have hn : d.fresh ∉ outputPaths :: l := fun hm => lt_irrefl _ (h.lt_fresh _ hm)
  have hnl : d.fresh ∉ l := fun hm => hn (List.mem_cons_of_mem _ hm)
  have hOld : ∀ other, d.Registered other → other ≠ d.fresh := fun _ hr =>
    Nat.ne_of_lt (h.registered_lt_fresh hr)
  rw [createOutputPath_eq hne]
  constructor <;> try dsimp only
  case ring => exact h.ring.append h.nodup hn
  case nodup =>
    rw [← List.cons_append]
    exact List.nodup_append.mpr ⟨h.nodup, List.nodup_singleton _, by simpa using hn⟩
  case lt_fresh =>
    intro other hm
    rw [← List.cons_append, List.mem_append, List.mem_singleton] at hm
    rcases hm with hm | rfl
    · exact Nat.lt_succ_of_lt (h.lt_fresh _ hm)
    · exact Nat.lt_succ_self _
  case mem_iff =>
    intro other
    rw [List.mem_append, List.mem_singleton, h.mem_iff other]
    exact or_comm.trans (registered_insert_iff hob).symm
  case outputBaseID_eq =>
    intro ob' other hl
    by_cases he : ob' = ob
    · subst he
      rw [AList.lookup_insert] at hl
      cases hl
      exact update_same _ _ _
    · rw [AList.lookup_insert_ne he] at hl
      rw [update_noteq (hOld _ ⟨ob', hl⟩), h.outputBaseID_eq _ _ hl]
  case sorted =>
    rw [List.map_append, map_update_of_not_mem hnl, List.pairwise_append]
    refine ⟨h.sorted, List.pairwise_singleton _ _, ?_⟩
    simp only [List.map_singleton, List.mem_singleton, update_same, forall_eq, List.mem_map]
    rintro _ ⟨x, hx, rfl⟩
    exact h.cookie_lt x hx
  case cookie_lt =>
    intro other hm
    rcases List.mem_append.mp hm with hm | hm
    · rw [update_noteq (ne_of_mem_of_not_mem hm hnl)]
      exact Nat.lt_succ_of_lt (h.cookie_lt _ hm)
    · rw [List.mem_singleton.mp hm, update_same]
      exact Nat.lt_succ_self _
  case indexed =>
    have hReg : ∀ other, (∃ ob', (d.outputBaseIDs.insert ob d.fresh).lookup ob' = some other) ↔
        other = d.fresh ∨ d.Registered other := fun _ => registered_insert_iff hob
    constructor
    · intro buildId other hl
      obtain ⟨hr, b, hb, hid⟩ := h.indexed.1 _ _ hl
      exact ⟨(hReg _).mpr (.inr hr), b, by rw [update_noteq (hOld _ hr), hb], hid⟩
    · intro other b hr hb
      rcases (hReg _).mp hr with rfl | hr
      · simp at hb
      · rw [update_noteq (hOld _ hr)] at hb
        exact h.indexed.2 _ _ hr hb

/-- The output path `StartBuild` settles on is registered under `ob`, has no
build, and no build ID was added to the index. -/
theorem WellFormed.resolveOutputPath (h : WellFormed d l) (ob : Component) :
    ∃ l', WellFormed (d.resolveOutputPath ob).2 l' ∧
      (d.resolveOutputPath ob).2.outputBaseIDs.lookup ob = some (d.resolveOutputPath ob).1 ∧
      (d.resolveOutputPath ob).2.buildState (d.resolveOutputPath ob).1 = none ∧
      ∀ buildId, d.buildIDs.lookup buildId = none →
        (d.resolveOutputPath ob).2.buildIDs.lookup buildId = none := by
  unfold RemoteOutputServiceDirectory.resolveOutputPath
  split
  · rename_i state hl
    refine ⟨l, h.closeBuild ⟨ob, hl⟩, by simpa using hl, by simp, fun buildId hb => ?_⟩
    rw [closeBuild_buildIDs_lookup, hb]
    split <;> rfl
  · rename_i hl
    exact ⟨_, h.createOutputPath hl, by simp [AList.lookup_insert], by simp, fun _ hb => hb⟩

/-- Settling on an output path changes no other registration and no other
registered object's build. -/
theorem WellFormed.resolveOutputPath_frame (h : WellFormed d l) {ob ob' : Component}
    (hne : ob' ≠ ob) :
    (d.resolveOutputPath ob).2.outputBaseIDs.lookup ob' = d.outputBaseIDs.lookup ob' ∧
      ∀ other, d.outputBaseIDs.lookup ob' = some other →
        (d.resolveOutputPath ob).2.buildState other = d.buildState other := by
  unfold RemoteOutputServiceDirectory.resolveOutputPath
  split
  · rename_i state hl
    refine ⟨by simp, fun other ho => closeBuild_buildState_ne ?_⟩
    rintro rfl
    exact hne ((h.outputBaseID_eq _ _ ho).symm.trans (h.outputBaseID_eq _ _ hl))
  · refine ⟨by simp [AList.lookup_insert_ne hne], fun other ho => ?_⟩
    rw [createOutputPath_buildState, update_noteq (Nat.ne_of_lt (h.registered_lt_fresh ⟨ob', ho⟩))]

/-- Installing a new build on a registered object without one keeps the
invariant. -/
theorem WellFormed.installBuild (h : WellFormed d l) (hs : d.Registered state)
    (hNone : d.buildState state = none) (b : BuildState) (hb : d.buildIDs.lookup b.id = none) :
    WellFormed { d with buildState := update d.buildState state (some b),
                        buildIDs := d.buildIDs.insert b.id state } l where
  ring := h.ring
  nodup := h.nodup
  lt_fresh := h.lt_fresh
  mem_iff := h.mem_iff
  outputBaseID_eq := h.outputBaseID_eq
  sorted := h.sorted
  cookie_lt := h.cookie_lt
  indexed := by
    show Indexed d.Registered (d.buildIDs.insert b.id state) (update d.buildState state (some b))
    constructor
    · intro buildId other hl
      by_cases he : buildId = b.id
      · subst he
        rw [AList.lookup_insert] at hl
        cases hl
        exact ⟨hs, b, update_same _ _ _, rfl⟩
      · rw [AList.lookup_insert_ne he] at hl
        obtain ⟨hr, b', hb', hid⟩ := h.indexed.1 _ _ hl
        have hOther : other ≠ state := by rintro rfl; simp [hNone] at hb'
        exact ⟨hr, b', by rw [update_noteq hOther, hb'], hid⟩
    · intro other b' hr hb'
      by_cases hOther : other = state
      · subst hOther
        rw [update_same] at hb'
        cases hb'
        exact AList.lookup_insert _
      · rw [update_noteq hOther] at hb'
        have hl := h.indexed.2 _ _ hr hb'
        have hid : b'.id ≠ b.id := by rintro he; rw [he, hb] at hl; cases hl
        rw [AList.lookup_insert_ne hid, hl]

/-- The critical section of `StartBuild` keeps the invariant. -/
theorem WellFormed.startBuild (h : WellFormed d l) (ob : Component) (buildId : String)
    (digestFunction : DigestFunction) (scopeWalkerFactory : ScopeWalkerFactory) :
    ∃ l', WellFormed (d.startBuild ob buildId digestFunction scopeWalkerFactory).2 l' := by
  unfold RemoteOutputServiceDirectory.startBuild
  split
  · exact ⟨l, h⟩
  · rename_i hb
    obtain ⟨l', h', hl, hNone, hIds⟩ := h.resolveOutputPath ob
    exact ⟨l', h'.installBuild ⟨ob, hl⟩ hNone ⟨buildId, digestFunction, scopeWalkerFactory⟩
      (hIds buildId hb)⟩

/-- `FinalizeBuild` keeps the invariant whenever it does not panic. -/
theorem WellFormed.finalizeBuild (h : WellFormed d l) {buildId : String}
    {d' : RemoteOutputServiceDirectory} (hf : d.finalizeBuild buildId = some d') :
    WellFormed d' l := by
  unfold RemoteOutputServiceDirectory.finalizeBuild at hf
  split at hf
  · cases hf; exact h
  · rename_i state hl
    split at hf
    · cases hf
    · cases hf
      exact h.closeBuild (h.indexed.1 _ _ hl).1

/-- Unlinking and unregistering the state registered under `ob` keeps the
invariant, with the state gone from the ring. -/
theorem WellFormed.unregister {l₁ l₂ : List Nat} {x : Nat} {ob : Component}
    (h : WellFormed d (l₁ ++ x :: l₂)) (hl : d.outputBaseIDs.lookup ob = some x) :
    WellFormed
      (({ d with outputBaseIDs := d.outputBaseIDs.erase ob,
                 next := update d.next (d.previous x) (d.next x),
                 previous := update d.previous (d.next x) (d.previous x),
                 changeID := d.changeID + 1 } : RemoteOutputServiceDirectory).closeBuild x)
      (l₁ ++ l₂) := by
  have hSub : List.Sublist (l₁ ++ l₂) (l₁ ++ x :: l₂) :=
    (List.sublist_cons_self x l₂).append_left l₁
  have hx : x ∈ l₁ ++ x :: l₂ := List.mem_append_right _ (List.mem_cons_self _ _)
  have hNotMem : ∀ y ∈ l₁ ++ l₂, y ≠ x := by
    rintro y hy rfl
    have hnd := List.nodup_middle.mp (List.nodup_cons.mp h.nodup).2
    exact (List.nodup_cons.mp hnd).1 hy
  have hReg : ∀ y, (∃ ob', (d.outputBaseIDs.erase ob).lookup ob' = some y) ↔
      y ≠ x ∧ d.Registered y := by
    intro y
    constructor
    · rintro ⟨ob', hy⟩
      have hne : ob' ≠ ob := by rintro rfl; simp [AList.lookup_erase] at hy
      rw [AList.lookup_erase_ne hne] at hy
      refine ⟨?_, ob', hy⟩
      rintro rfl
      exact hne ((h.outputBaseID_eq _ _ hy).symm.trans (h.outputBaseID_eq _ _ hl))
    · rintro ⟨hne, ob', hy⟩
      have hob : ob' ≠ ob := by rintro rfl; exact hne (Option.some.inj (hy.symm.trans hl))
      exact ⟨ob', by rw [AList.lookup_erase_ne hob, hy]⟩
  constructor <;> try simp only [closeBuild_previous, closeBuild_next, closeBuild_fresh,
    closeBuild_outputBaseIDs, closeBuild_outputBaseID, closeBuild_cookie, closeBuild_changeID,
    closeBuild_registered]
  case ring => exact h.ring.unlink h.nodup
  case nodup => exact (hSub.cons₂ outputPaths).nodup h.nodup
  case lt_fresh => exact fun y hy => h.lt_fresh y ((hSub.cons₂ outputPaths).subset hy)
  case mem_iff =>
    intro y
    refine ⟨fun hy => (hReg y).mpr ⟨hNotMem y hy, (h.mem_iff y).mp (hSub.subset hy)⟩, fun hy => ?_⟩
    obtain ⟨hne, hr⟩ := (hReg y).mp hy
    simpa [hne] using (h.mem_iff y).mpr hr
  case outputBaseID_eq =>
    intro ob' y hy
    have hne : ob' ≠ ob := by rintro rfl; simp [AList.lookup_erase] at hy
    exact h.outputBaseID_eq _ _ (by rwa [AList.lookup_erase_ne hne] at hy)
  case sorted => exact h.sorted.sublist (hSub.map _)
  case cookie_lt => exact fun y hy => Nat.lt_succ_of_lt (h.cookie_lt y (hSub.subset hy))
  case indexed =>
    refine Indexed.closeBuild ?_ (fun y hr hne => (hReg y).mpr ⟨hne, hr⟩)
      (fun y hr => ((hReg y).mp hr).2) ⟨ob, hl⟩
    exact h.indexed

/-- The commit of `Clean` keeps the invariant, whether or not its state is
still registered. -/
theorem WellFormed.cleanCommit (h : WellFormed d l) (ob : Component) (state : Nat) :
    ∃ l', WellFormed (d.cleanCommit ob state) l' := by
  by_cases hl : d.outputBaseIDs.lookup ob = some state
  · obtain ⟨l₁, l₂, rfl⟩ := List.append_of_mem ((h.mem_iff state).mpr ⟨ob, hl⟩)
    have hne : d.previous state ≠ state := by
      intro he
      have hm := he ▸ h.ring.previous_mem
      have hnd := h.nodup
      rw [← List.cons_append] at hnd
      exact (List.nodup_cons.mp (List.nodup_middle.mp hnd)).1 (List.mem_append_left _ hm)
    rw [cleanCommit_eq hl hne]
    exact ⟨_, h.unregister hl⟩
  · exact ⟨l, by rwa [cleanCommit_of_ne hl]⟩

/-- The registry laws that every reachable state satisfies: the ring from the
sentinel lists each registered state once and returns, `previous` inverts
`next` on it, each registered state is registered under its own name, cookies
increase along the ring and stay below `changeID`; and a `Clean` commit whose
state is no longer registered under its name changes nothing. -/
def RingInvariant (d : RemoteOutputServiceDirectory) : Prop :=
  (∃ l : List Nat,
    (∀ k (hk : k < (outputPaths :: l).length), d.next^[k] outputPaths = (outputPaths :: l)[k]) ∧
    d.next^[l.length + 1] outputPaths = outputPaths ∧
    (outputPaths :: l).Nodup ∧
    (∀ state, state ∈ l ↔ d.Registered state) ∧
    (∀ x ∈ outputPaths :: l, d.previous (d.next x) = x ∧ d.next (d.previous x) = x) ∧
    (l.map d.cookie).Pairwise (· < ·) ∧
    (∀ state ∈ l, d.cookie state < d.changeID)) ∧
  (∀ state, d.Registered state → d.outputBaseIDs.lookup (d.outputBaseID state) = some state) ∧
  (∀ ob state, d.outputBaseIDs.lookup ob ≠ some state → d.cleanCommit ob state = d)

end RemoteOutputServiceDirectory

namespace System

open RemoteOutputServiceDirectory

/-- Every critical section keeps the registry well formed. -/
theorem step_wellFormed {s s' : System} {a : Action} (h : ∃ l, s.directory.WellFormed l)
    (hs : s.step a = some s') : ∃ l, s'.directory.WellFormed l := by
  obtain ⟨l, h⟩ := h
  rcases step_directory hs with he | ⟨ob, buildId, digestFunction, scopeWalkerFactory, he⟩ | ⟨_, hf⟩ |
    ⟨ob, state, he⟩ <;> try rw [he]
  · exact ⟨l, h⟩
  · exact h.startBuild ob buildId digestFunction scopeWalkerFactory
  · exact ⟨l, h.finalizeBuild hf⟩
  · exact h.cleanCommit ob state

theorem Reachable.wellFormed {s : System} (hs : s.Reachable) :
    ∃ l, s.directory.WellFormed l :=
  Reachable.induction ⟨[], wellFormed_new⟩ (fun _ _ _ h hs => step_wellFormed h hs) hs

/-- Every interleaving of `StartBuild`, `FinalizeBuild` and the two halves of
`Clean` keeps the ring laws. -/
theorem reachable_registry_wellFormed {s : System} (hs : s.Reachable) :
    s.directory.RingInvariant := by
  obtain ⟨l, h⟩ := hs.wellFormed
  refine ⟨⟨l, h.ring.iterate_next, h.ring.iterate_next_length, h.nodup, h.mem_iff,
    h.ring.previous_next, h.sorted, h.cookie_lt⟩, ?_, fun _ _ => cleanCommit_of_ne⟩
  rintro state ⟨ob, hl⟩
  rwa [h.outputBaseID_eq _ _ hl]

/-- Two output paths after a stale `Clean`. `ob1` and `ob2` are started; a
`Clean` of `ob1` looks up object 1; a second `Clean` of `ob1` runs to the end;
`ob1` is started again as object 3; then the first `Clean` commits on object
1, which is no longer registered, and changes nothing. -/
theorem ringInvariant_after_stale_clean :
    let actions : List Action := [.startBuild ⟨"ob1", rfl⟩ "b1" ⟨"", 1⟩ ⟨"/o", []⟩,
      .startBuild ⟨"ob2", rfl⟩ "b2" ⟨"", 1⟩ ⟨"/o", []⟩, .cleanLookup ⟨"ob1", rfl⟩, .cleanLookup ⟨"ob1", rfl⟩,
      .cleanCommit ⟨"ob1", rfl⟩ 1, .startBuild ⟨"ob1", rfl⟩ "b3" ⟨"", 1⟩ ⟨"/o", []⟩, .cleanCommit ⟨"ob1", rfl⟩ 1]
    ∃ s : System, initial.run actions = some s ∧
      s.directory.virtualLookup ⟨"ob1", rfl⟩ = some 3 ∧ s.directory.virtualLookup ⟨"ob2", rfl⟩ = some 2 ∧
      s.directory.RingInvariant := by
  intro actions
  exact ⟨_, rfl, rfl, rfl, reachable_registry_wellFormed ⟨actions, rfl⟩⟩

end System

end RemoteOutputService
