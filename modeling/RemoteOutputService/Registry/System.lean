import RemoteOutputService.Registry.Operations

/-! Interleavings of the lock-protected steps. RPCs run concurrently, and the
lock is the only thing that orders them: each step below is one critical
section. `Clean` takes two steps, its lookup and its commit, with any steps of
other calls in between while it empties the tree without the lock; a `Clean`
that has looked up its state and not yet committed is kept in `cleaning`.
Critical sections that only read (`getOutputPathAndBuildState` for `BatchCreate`
and `BatchStat`, `VirtualLookup`, `VirtualReadDir`, `VirtualGetAttributes`)
leave the state as it is. -/
namespace RemoteOutputService

/-- The registry with the `Clean` calls between their two critical sections. -/
structure System where
  directory : RemoteOutputServiceDirectory
  cleaning : List (Component × Nat)

/-- One critical section. -/
inductive Action
  | startBuild (outputBaseID : Component) (buildId : String)
      (digestFunction : DigestFunction) (scopeWalkerFactory : ScopeWalkerFactory)
  | finalizeBuild (buildId : String)
  | cleanLookup (outputBaseID : Component)
  | cleanCommit (outputBaseID : Component) (state : Nat)
  | getOutputPathAndBuildState (buildId : String)

namespace System

/-- A system with no call in progress. -/
def initial : System := ⟨newRemoteOutputServiceDirectory, []⟩

/-- Take one critical section. `none` when the step cannot be taken: a commit
without its lookup, or a panicking `FinalizeBuild`. A lookup that finds no
state falls back to `outputPathFactory.Clean`, which the registry does not
see. -/
def step (s : System) : Action → Option System
  | .startBuild ob buildId digestFunction scopeWalkerFactory =>
    some { s with directory := (s.directory.startBuild ob buildId digestFunction scopeWalkerFactory).2 }
  | .finalizeBuild buildId =>
    (s.directory.finalizeBuild buildId).map fun d => { s with directory := d }
  | .cleanLookup ob =>
    some (match s.directory.cleanLookup ob with
      | some state => { s with cleaning := (ob, state) :: s.cleaning }
      | none => s)
  | .cleanCommit ob state =>
    if (ob, state) ∈ s.cleaning then
      some ⟨s.directory.cleanCommit ob state, s.cleaning.erase (ob, state)⟩
    else none
  | .getOutputPathAndBuildState _ => some s

/-- Take the critical sections in order. -/
def run (s : System) : List Action → Option System
  | [] => some s
  | a :: as => (s.step a).bind fun s => s.run as

/-- States that some interleaving reaches from `NewRemoteOutputServiceDirectory`. -/
def Reachable (s : System) : Prop :=
  ∃ as, initial.run as = some s

@[simp] theorem run_nil (s : System) : s.run [] = some s := rfl

theorem run_cons (s : System) (a : Action) (as : List Action) :
    s.run (a :: as) = (s.step a).bind fun s => s.run as := rfl

theorem run_append (s : System) (as bs : List Action) :
    s.run (as ++ bs) = (s.run as).bind fun s => s.run bs := by
  induction as generalizing s with
  | nil => rfl
  | cons a as ih =>
    simp only [List.cons_append, run_cons]
    cases s.step a <;> simp [ih]

/-- A property kept by every step holds along every run. -/
theorem run_preserves {P : System → Prop} (hStep : ∀ s a s', P s → s.step a = some s' → P s')
    {s s' : System} {as : List Action} (hs : P s) (hRun : s.run as = some s') : P s' := by
  induction as generalizing s with
  | nil => cases hRun; exact hs
  | cons a as ih =>
    rw [run_cons] at hRun
    obtain ⟨t, ht, hRun⟩ := Option.bind_eq_some.mp hRun
    exact ih (hStep s a t hs ht) hRun

/-- A relation that every step establishes between its two states, and that
composes, holds between the ends of every run. -/
theorem run_relates {R : System → System → Prop} (hRefl : ∀ s, R s s)
    (hTrans : ∀ s t u, R s t → R t u → R s u)
    (hStep : ∀ s a s', s.step a = some s' → R s s')
    {s s' : System} {as : List Action} (hRun : s.run as = some s') : R s s' := by
  induction as generalizing s with
  | nil => cases hRun; exact hRefl _
  | cons a as ih =>
    rw [run_cons] at hRun
    obtain ⟨t, ht, hRun⟩ := Option.bind_eq_some.mp hRun
    exact hTrans _ _ _ (hStep s a t ht) (ih hRun)

/-- What a step does to the registry: nothing, or one of the three critical
sections that write it. -/
theorem step_directory {s s' : System} {a : Action} (h : s.step a = some s') :
    s'.directory = s.directory ∨
    (∃ ob buildId digestFunction scopeWalkerFactory,
      s'.directory = (s.directory.startBuild ob buildId digestFunction scopeWalkerFactory).2) ∨
    (∃ buildId, s.directory.finalizeBuild buildId = some s'.directory) ∨
    (∃ ob state, s'.directory = s.directory.cleanCommit ob state) := by
  cases a with
  | startBuild ob buildId digestFunction scopeWalkerFactory =>
    cases h; exact .inr (.inl ⟨_, _, _, _, rfl⟩)
  | finalizeBuild buildId =>
    obtain ⟨d', hf, rfl⟩ := Option.map_eq_some'.mp h
    exact .inr (.inr (.inl ⟨_, hf⟩))
  | cleanLookup ob =>
    cases h; split <;> exact .inl rfl
  | cleanCommit ob state =>
    simp only [step] at h
    split at h
    · cases h; exact .inr (.inr (.inr ⟨_, _, rfl⟩))
    · cases h
  | getOutputPathAndBuildState _ =>
    cases h; exact .inl rfl

/-- A relation between registries that composes and that each writing critical
section establishes holds between the registries at the ends of every run. -/
theorem run_relates_directory
    {R : RemoteOutputServiceDirectory → RemoteOutputServiceDirectory → Prop}
    (hRefl : ∀ d, R d d) (hTrans : ∀ d d' d'', R d d' → R d' d'' → R d d'')
    (hStart : ∀ d ob buildId digestFunction scopeWalkerFactory,
      R d (d.startBuild ob buildId digestFunction scopeWalkerFactory).2)
    (hFinalize : ∀ d d' buildId, d.finalizeBuild buildId = some d' → R d d')
    (hClean : ∀ d ob state, R d (d.cleanCommit ob state))
    {s s' : System} {as : List Action} (hRun : s.run as = some s') : R s.directory s'.directory := by
  refine @run_relates (fun s t => R s.directory t.directory) (fun _ => hRefl _)
    (fun _ _ _ h h' => hTrans _ _ _ h h') (fun s a t h => ?_) _ _ _ hRun
  rcases step_directory h with he | ⟨_, _, _, _, he⟩ | ⟨_, hf⟩ | ⟨_, _, he⟩
  · exact he ▸ hRefl _
  · exact he ▸ hStart _ _ _ _ _
  · exact hFinalize _ _ _ hf
  · exact he ▸ hClean _ _ _

theorem reachable_initial : Reachable initial := ⟨[], rfl⟩

theorem Reachable.step {s s' : System} {a : Action} (h : Reachable s)
    (hStep : s.step a = some s') : Reachable s' := by
  obtain ⟨as, hs⟩ := h
  exact ⟨as ++ [a], by simp [run_append, hs, run_cons, hStep]⟩

theorem Reachable.run {s s' : System} {as : List Action} (h : Reachable s)
    (hRun : s.run as = some s') : Reachable s' := by
  obtain ⟨bs, hs⟩ := h
  exact ⟨bs ++ as, by simp [run_append, hs, hRun]⟩

/-- Every reachable state satisfies a property that holds initially and that
every step keeps. -/
theorem Reachable.induction {P : System → Prop} (hInit : P initial)
    (hStep : ∀ s a s', P s → s.step a = some s' → P s') {s : System}
    (h : Reachable s) : P s := by
  obtain ⟨as, hs⟩ := h
  exact run_preserves hStep hInit hs

end System

end RemoteOutputService
