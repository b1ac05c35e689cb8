import RemoteOutputService.BatchCreate.Model

/-! Where `BatchCreate` puts an entry. A directory handle on a walker's stack is
tied to a path of components from the output path's root by the
`CreateAndEnterPrepopulatedDirectory` calls that returned it (`Along`); a walk
moves that path by `applySteps`, and leaves the root only by failing. -/
namespace RemoteOutputService

/-- The directory that `steps` reach from the directory at `path`: `..` moves to
the parent and a name to the child; `none` when a `..` would leave the root. -/
def applySteps : List Component → List Step → Option (List Component)
  | path, [] => some path
  | path, .up :: steps => if path = [] then none else applySteps path.dropLast steps
  | path, .directory name :: steps => applySteps (path ++ [name]) steps

/-- `stack` holds the directories that `CreateAndEnterPrepopulatedDirectory`
calls among `calls` returned along `path` from the root directory `root`: its
top is the directory reached by `path`, and below it are those reached by the
shorter prefixes of `path`. -/
inductive Along (calls : List TreeCall) (root : Nat) : NonEmptyStack → List Component → Prop
  | root : Along calls root ⟨root, []⟩ []
  | enter {stack : NonEmptyStack} {path : List Component} {name : Component} {child : Nat} :
      Along calls root stack path →
      .createAndEnterPrepopulatedDirectory stack.peek name (.ok child) ∈ calls →
      Along calls root (stack.push child) (path ++ [name])

/-- The last call of `made` is a failed `CreateAndEnterPrepopulatedDirectory`
that returned `err`. -/
def EnterFailed (made : List TreeCall) (err : Status) : Prop :=
  ∃ directory name, made.getLast? = some (.createAndEnterPrepopulatedDirectory directory name (.error err))

section Along

variable {calls calls' : List TreeCall} {root : Nat} {stack stack' : NonEmptyStack} {path : List Component}

theorem Along.mono (h : Along calls root stack path) (hPrefix : calls <+: calls') :
    Along calls' root stack path := by
  induction h with
  | root => exact .root
  | enter _ hCall ih => exact .enter ih (hPrefix.subset hCall)

theorem Along.path_eq_nil (h : Along calls root stack path) (hPop : stack.popSingle = none) : path = [] := by
  cases h with
  | root => rfl
  | enter => cases hPop

theorem Along.pop (h : Along calls root stack path) (hPop : stack.popSingle = some stack') :
    path ≠ [] ∧ Along calls root stack' path.dropLast := by
  cases h with
  | root => cases hPop
  | enter h _ =>
    cases hPop
    exact ⟨by simp, by simpa using h⟩

end Along

/-- What a walk along `steps` from a stack along `path` did: it appended calls,
and either reached the directory of `applySteps path steps`, or failed at the
root where a `..` would leave it, or failed in a
`CreateAndEnterPrepopulatedDirectory` call. -/
def WalkOutcome (root : Nat) (path : List Component) (steps : List Step) (calls : List TreeCall)
    (result : List TreeCall × Except Status NonEmptyStack) : Prop :=
  ∃ made, result.1 = calls ++ made ∧
    ((∃ stack path', result.2 = .ok stack ∧ applySteps path steps = some path' ∧ Along result.1 root stack path') ∨
      (result.2 = .error outsideOutputPath ∧ applySteps path steps = none) ∨
      (∃ err, result.2 = .error err ∧ EnterFailed made err))

theorem walk_outcome (dirs : Directories) (root : Nat) :
    ∀ (steps : List Step) (calls : List TreeCall) (stack : NonEmptyStack) (path : List Component),
      Along calls root stack path → WalkOutcome root path steps calls (walk dirs calls stack steps)
  | [], calls, stack, path, h => ⟨[], (List.append_nil _).symm, .inl ⟨stack, path, rfl, rfl, h⟩⟩
  | .up :: steps, calls, stack, path, h => by
    cases hPop : stack.popSingle with
    | none =>
      simp only [walk, onUp, hPop]
      exact ⟨[], (List.append_nil _).symm, .inr (.inl ⟨rfl, by simp [applySteps, h.path_eq_nil hPop]⟩)⟩
    | some stack' =>
      obtain ⟨hNe, h'⟩ := h.pop hPop
      simp only [walk, onUp, hPop]
      obtain ⟨made, hMade, hOut⟩ := walk_outcome dirs root steps calls stack' _ h'
      exact ⟨made, hMade, by rwa [applySteps, if_neg hNe]⟩
  | .directory name :: steps, calls, stack, path, h => by
    simp only [walk, onDirectory]
    cases dirs.createAndEnterPrepopulatedDirectory calls stack.peek name with
    | error err => exact ⟨[_], rfl, .inr (.inr ⟨err, rfl, _, _, rfl⟩)⟩
    | ok child =>
      have hAlong : Along (calls ++ [.createAndEnterPrepopulatedDirectory stack.peek name (.ok child)]) root
          (stack.push child) (path ++ [name]) :=
        .enter (h.mono (List.prefix_append _ _)) (List.mem_append_right _ (List.mem_singleton_self _))
      obtain ⟨made, hMade, hOut⟩ := walk_outcome dirs root steps _ _ _ hAlong
      refine ⟨_ :: made, by rw [hMade, List.append_assoc, List.singleton_append], ?_⟩
      rcases hOut with hOk | hOutside | ⟨err, hErr, directory, name', hLast⟩
      · exact .inl hOk
      · exact .inr (.inl hOutside)
      · refine .inr (.inr ⟨err, hErr, directory, name', ?_⟩)
        rw [← List.singleton_append, List.getLast?_append, hLast]
        rfl

/-- What creating a child at `outputPath` from a stack along `path` did: it
appended calls and either a `CreateAndEnterPrepopulatedDirectory` on the way
failed, or it refused an absolute path, or refused a path leaving the root with
`OnUp`'s error, or refused a path without a final name with "Path resolves to a
directory", or created the node under the final name in the directory reached
by the other components, and returned that call's outcome. -/
def ChildOutcome (root : Nat) (path : List Component) (outputPath : String) (node : CreatedNode)
    (calls : List TreeCall) (result : List TreeCall × Option Status) : Prop :=
  ∃ made, result.1 = calls ++ made ∧
    ((∃ err, EnterFailed made err ∧ result.2 = some (err.wrap "Failed to resolve path")) ∨
      (∃ err, resolve outputPath = .error err ∧ result.2 = some (err.wrap "Failed to resolve path")) ∨
      (∃ steps terminal, resolve outputPath = .ok (steps, terminal) ∧ applySteps path steps = none ∧
        result.2 = some (outsideOutputPath.wrap "Failed to resolve path")) ∨
      (∃ steps parentPath, resolve outputPath = .ok (steps, none) ∧ applySteps path steps = some parentPath ∧
        result.2 = some ⟨.invalidArgument, "Path resolves to a directory"⟩) ∨
      (∃ steps name parentPath parent, resolve outputPath = .ok (steps, some name) ∧
        applySteps path steps = some parentPath ∧ Along result.1 root parent parentPath ∧
        made.getLast? = some (.createChildren parent.peek name node result.2)))

theorem createChild_outcome (dirs : Directories) {root : Nat} {calls : List TreeCall} {stack : NonEmptyStack}
    {path : List Component} (h : Along calls root stack path) (outputPath : String) (node : CreatedNode) :
    ChildOutcome root path outputPath node calls (createChild dirs calls stack outputPath node) := by
  unfold createChild
  cases hResolve : resolve outputPath with
  | error err => exact ⟨[], (List.append_nil _).symm, .inr (.inl ⟨err, hResolve, rfl⟩)⟩
  | ok resolved =>
    obtain ⟨steps, terminal⟩ := resolved
    obtain ⟨made, hMade, hOut⟩ := walk_outcome dirs root steps calls stack path h
    dsimp only
    generalize walk dirs calls stack steps = walked at hMade hOut ⊢
    obtain ⟨_, result⟩ := walked
    dsimp only at hMade hOut ⊢
    subst hMade
    rcases hOut with ⟨parent, parentPath, rfl, hApply, hAlong⟩ | ⟨rfl, hApply⟩ | ⟨err, rfl, hFailed⟩
    · cases terminal with
      | none => exact ⟨made, rfl, .inr (.inr (.inr (.inl ⟨steps, parentPath, hResolve, hApply, rfl⟩)))⟩
      | some name =>
        exact ⟨made ++ [_], List.append_assoc _ _ _, .inr (.inr (.inr (.inr
          ⟨steps, name, parentPath, parent, hResolve, hApply, hAlong.mono (List.prefix_append _ _), by simp⟩)))⟩
    · exact ⟨made, rfl, .inr (.inr (.inl ⟨steps, terminal, hResolve, hApply, rfl⟩))⟩
    · exact ⟨made, rfl, .inl ⟨err, hFailed, rfl⟩⟩

end RemoteOutputService
