import RemoteOutputService.BatchStat.Model

/-! What the virtual root is for. A build client writes absolute symbolic links
that point into its output path; `BatchStat` must resolve such a path from the
output path's root. An absolute path that spells the output path followed by a
relative path is resolved as that relative path is. Resolution takes the same
steps from the same walker, so it enters the same directories, finds the same
file status and meets the same error. The two differ only in the path the
builder recorded, which `BatchStat` reports as an external location's next
path and in its error messages.

The proof has three parts. Splitting at slashes and reading the components
distribute over joining two paths with a slash. The virtual root lets in a
path whose steps begin with the output path's steps, and goes on with the
rest. Resolution never reads the recorded path, so two states that differ
only there take the same course. -/
namespace RemoteOutputService

/-! ### Paths joined with a slash -/

theorem splitSlash_ne_nil : ∀ cs : List Char, splitSlash cs ≠ []
  | [] => List.cons_ne_nil _ _
  | c :: cs => by
    unfold splitSlash
    split
    · exact List.cons_ne_nil _ _
    · split <;> exact List.cons_ne_nil _ _

/-- The components of `a/b` are those of `a` followed by those of `b`. -/
theorem splitSlash_append_slash (b : List Char) :
    ∀ a : List Char, splitSlash (a ++ '/' :: b) = splitSlash a ++ splitSlash b
  | [] => rfl
  | c :: a => by
    obtain ⟨x, xs, hx⟩ := List.exists_cons_of_ne_nil (splitSlash_ne_nil a)
    rw [List.cons_append, splitSlash.eq_2, splitSlash.eq_2, splitSlash_append_slash b a, hx]
    by_cases hc : c = '/' <;> simp [hc]

/-- Reading the components of `xs ++ ys`: every component of `xs` is a step,
its last one included, and `ys` supplies the last name. -/
theorem resolveComponents_append {ys : List (List Char)} (hys : ys ≠ []) :
    ∀ {xs : List (List Char)}, xs ≠ [] →
      resolveComponents (xs ++ ys) =
        ((resolveComponents xs).1 ++ (resolveComponents xs).2.toList.map .directory ++
          (resolveComponents ys).1, (resolveComponents ys).2)
  | [x], _ => by
    rw [List.singleton_append, resolveComponents.eq_3 x ys hys]
    rcases h : componentStep x with _ | _ | name <;> simp [resolveComponents, h]
  | x :: x' :: xs, _ => by
    show resolveComponents (x :: (x' :: xs ++ ys)) = _
    rw [resolveComponents.eq_3 x (x' :: xs ++ ys) (List.cons_ne_nil _ _),
      resolveComponents_append hys (List.cons_ne_nil x' xs),
      resolveComponents.eq_3 x (x' :: xs) (List.cons_ne_nil _ _)]
    simp

/-- The virtual root lets in a path whose steps begin with the output path's
steps, and goes on from the root with the rest. -/
theorem ScopeWalkerFactory.enter_rootSteps_append (f : ScopeWalkerFactory) (steps : List Step)
    (terminal : Option Component) : f.enter (f.rootSteps ++ steps) terminal = some (steps, terminal) := by
  have hPrefix : f.rootSteps.isPrefixOf (f.rootSteps ++ steps ++ terminal.toList.map .directory) := by
    rw [List.isPrefixOf_iff_prefix, List.append_assoc]
    exact List.prefix_append _ _
  simp [ScopeWalkerFactory.enter, hPrefix]

/-! ### Paths the builder writes -/

theorem splitSlash_of_not_mem : ∀ {cs : List Char}, '/' ∉ cs → splitSlash cs = [cs]
  | [], _ => rfl
  | c :: cs, h => by
    rw [List.mem_cons, not_or] at h
    rw [splitSlash.eq_2, if_neg fun e => h.1 e.symm, splitSlash_of_not_mem h.2]

theorem intercalate_go_append (x y s : String) :
    ∀ l, String.intercalate.go (x ++ y) s l = x ++ String.intercalate.go y s l
  | [] => rfl
  | a :: l => by
    simp only [String.intercalate.go, String.append_assoc]
    exact intercalate_go_append x (y ++ (s ++ a)) s l

theorem intercalate_cons_cons (s a b : String) (l : List String) :
    String.intercalate s (a :: b :: l) = a ++ s ++ String.intercalate s (b :: l) := by
  simp only [String.intercalate, String.intercalate.go]
  exact intercalate_go_append (a ++ s) b s l

theorem intercalate_append_singleton (s x : String) :
    ∀ l : List String, l ≠ [] → String.intercalate s (l ++ [x]) = String.intercalate s l ++ s ++ x
  | [a], _ => rfl
  | a :: b :: l, _ => by
    rw [List.cons_append, List.cons_append, intercalate_cons_cons, ← List.cons_append,
      intercalate_append_singleton s x (b :: l) (List.cons_ne_nil _ _), intercalate_cons_cons]
    simp only [String.append_assoc]

/-- Splitting names joined with slashes gives the names back. -/
theorem splitSlash_intercalate :
    ∀ l : List String, l ≠ [] → (∀ x ∈ l, '/' ∉ x.data) →
      splitSlash (String.intercalate "/" l).data = l.map String.data
  | [x], _, h => splitSlash_of_not_mem (h x (List.mem_singleton_self x))
  | x :: y :: l, _, h => by
    rw [intercalate_cons_cons, String.append_assoc, String.data_append,
      show ("/" ++ String.intercalate "/" (y :: l)).data = '/' :: (String.intercalate "/" (y :: l)).data from rfl,
      splitSlash_append_slash, splitSlash_of_not_mem (h x (List.mem_cons_self _ _)),
      splitSlash_intercalate (y :: l) (List.cons_ne_nil _ _) fun z hz => h z (List.mem_cons_of_mem _ hz)]
    rfl

theorem Component.slash_not_mem (name : Component) : '/' ∉ name.name.data := by
  have h := name.valid
  simp only [isValidComponent, Bool.and_eq_true, Bool.not_eq_true', bne_iff_ne, ne_eq] at h
  exact fun hm => Bool.false_ne_true (h.2.symm.trans (List.elem_eq_true_of_mem hm))

/-- A name is a step into the directory of that name. -/
theorem componentStep_name (name : Component) : componentStep name.name.data = some (.directory name) := by
  have h := name.valid
  simp only [isValidComponent, Bool.and_eq_true, bne_iff_ne, ne_eq] at h
  simp [componentStep, h.1.2, newComponent, name.valid]

/-- The steps of names joined with slashes: a directory for each name but the
last, which is the last name. -/
theorem resolveComponents_names :
    ∀ names : List Component, names ≠ [] →
      resolveComponents (names.map fun name => name.name.data) = (names.dropLast.map .directory, names.getLast?)
  | [name], _ => by simp [resolveComponents, componentStep_name]
  | name :: name' :: names, _ => by
    rw [List.map_cons, resolveComponents.eq_3 _ _ (List.map_cons _ _ _ ▸ List.cons_ne_nil _ _),
      resolveComponents_names (name' :: names) (List.cons_ne_nil _ _), componentStep_name]
    simp

/-! ### Resolution does not read the recorded path -/

/-- Two resolution states that differ at most in the path the builder
recorded. -/
def StatResolution.SameWalk (r r' : StatResolution) : Prop :=
  r.walker = r'.walker ∧ r.walking = r'.walking

/-- Two ends of resolution that differ at most in the path the builder
recorded. -/
def SameOutcome (p q : StatResolution × Option ResolveError) : Prop :=
  p.1.SameWalk q.1 ∧ p.2 = q.2

theorem StatResolution.SameWalk.of_eq {w : StatWalker} {walking : Bool} {b b' : ResolvedPath} :
    StatResolution.SameWalk ⟨w, walking, b⟩ ⟨w, walking, b'⟩ :=
  ⟨rfl, rfl⟩

theorem StatResolution.onScope_sameWalk (f : ScopeWalkerFactory) {r r' : StatResolution}
    (h : r.SameWalk r') (absolute : Bool) (steps : List Step) (terminal : Option Component) :
    (r.onScope f absolute steps terminal).1.SameWalk (r'.onScope f absolute steps terminal).1 ∧
      (r.onScope f absolute steps terminal).2 = (r'.onScope f absolute steps terminal).2 := by
  obtain ⟨w, walking, b⟩ := r
  obtain ⟨w', walking', b'⟩ := r'
  obtain ⟨rfl, rfl⟩ := h
  unfold StatResolution.onScope
  split
  · split <;> exact ⟨StatResolution.SameWalk.of_eq, rfl⟩
  · exact ⟨StatResolution.SameWalk.of_eq, rfl⟩

theorem StatResolution.follow_sameWalk (f : ScopeWalkerFactory) {r r' : StatResolution}
    (h : r.SameWalk r') (target : String) (rest : Option (List Step × Option Component)) :
    (r.follow f target rest).1.SameWalk (r'.follow f target rest).1 ∧
      (r.follow f target rest).2 = (r'.follow f target rest).2 := by
  unfold StatResolution.follow
  split <;> exact StatResolution.onScope_sameWalk f h _ _ _

/-- `path.Resolve` takes the same course from two states that differ only in
the recorded path, given symbolic link expansions that do. -/
theorem walkStat_sameOutcome (tree : StatTree)
    {expand expand' : StatResolution → String → Option (List Step × Option Component) →
      StatResolution × Option ResolveError}
    (hExpand : ∀ r r' target rest, r.SameWalk r' → SameOutcome (expand r target rest) (expand' r' target rest)) :
    ∀ (steps : List Step) (terminal : Option Component) (r r' : StatResolution), r.SameWalk r' →
      SameOutcome (walkStat tree expand r steps terminal) (walkStat tree expand' r' steps terminal) := by
  intro steps
  induction steps with
  | nil =>
    rintro (_ | name) ⟨w, walking, b⟩ ⟨w', walking', b'⟩ ⟨rfl, rfl⟩
    · exact ⟨StatResolution.SameWalk.of_eq, rfl⟩
    · cases walking
      · exact ⟨StatResolution.SameWalk.of_eq, rfl⟩
      · simp only [walkStat, if_true]
        rcases w.onTerminal tree name with err | (w₁ | ⟨w₁, target⟩)
        · exact ⟨StatResolution.SameWalk.of_eq, rfl⟩
        · exact ⟨StatResolution.SameWalk.of_eq, rfl⟩
        · exact hExpand _ _ _ _ StatResolution.SameWalk.of_eq
  | cons step steps ih =>
    rintro terminal ⟨w, walking, b⟩ ⟨w', walking', b'⟩ ⟨rfl, rfl⟩
    cases step with
    | up =>
      cases walking <;> exact ih _ _ _ StatResolution.SameWalk.of_eq
    | directory name =>
      cases walking
      · exact ih _ _ _ StatResolution.SameWalk.of_eq
      · simp only [walkStat, if_true]
        rcases w.onDirectory tree name with err | (w₁ | ⟨w₁, target⟩)
        · exact ⟨StatResolution.SameWalk.of_eq, rfl⟩
        · exact ih _ _ _ StatResolution.SameWalk.of_eq
        · exact hExpand _ _ _ _ StatResolution.SameWalk.of_eq

/-- Resolution with symbolic links takes the same course from two states that
differ only in the recorded path. -/
theorem resolveStat_sameOutcome (tree : StatTree) (f : ScopeWalkerFactory) :
    ∀ (symlinks : Nat) (r r' : StatResolution) (steps : List Step) (terminal : Option Component),
      r.SameWalk r' →
      SameOutcome (resolveStat tree f symlinks r steps terminal) (resolveStat tree f symlinks r' steps terminal)
  | 0, r, r', steps, terminal, h => by
    simp only [resolveStat]
    exact @walkStat_sameOutcome tree (fun r _ _ => (r, some .eloop)) (fun r _ _ => (r, some .eloop))
      (fun _ _ _ _ h => ⟨h, rfl⟩) steps terminal r r' h
  | symlinks + 1, r, r', steps, terminal, h => by
    simp only [resolveStat]
    exact walkStat_sameOutcome tree (fun r r' target rest h => by
      obtain ⟨hWalk, hRest⟩ := StatResolution.follow_sameWalk f h target rest
      rw [hRest]
      exact resolveStat_sameOutcome tree f symlinks _ _ _ _ hWalk) steps terminal r r' h

section Response

variable {tree : StatTree} {maximumSymlinks root : Nat} {buildState : BuildState}
  {followSymlinks includeFileDigest : Bool}

/-- The response for a path reads its resolution only through the walker and
the error, as long as the location is inside the output path and resolution
ends without an error or with `ENOENT`. -/
theorem batchStatPath_eq_of_sameOutcome {path path' : String}
    (hSame : SameOutcome
      (resolveStatPath tree maximumSymlinks root buildState followSymlinks includeFileDigest path)
      (resolveStatPath tree maximumSymlinks root buildState followSymlinks includeFileDigest path'))
    (hInside : ∀ nextPath, (resolveStatPath tree maximumSymlinks root buildState followSymlinks
      includeFileDigest path').1.walker.fileStatus ≠ .external nextPath)
    (hErr : (resolveStatPath tree maximumSymlinks root buildState followSymlinks includeFileDigest path').2 =
        none ∨
      (resolveStatPath tree maximumSymlinks root buildState followSymlinks includeFileDigest path').2 =
        some .enoent) :
    batchStatPath tree maximumSymlinks root buildState followSymlinks includeFileDigest path =
      batchStatPath tree maximumSymlinks root buildState followSymlinks includeFileDigest path' := by
  obtain ⟨⟨hWalker, -⟩, hError⟩ := hSame
  unfold batchStatPath
  generalize resolveStatPath tree maximumSymlinks root buildState followSymlinks includeFileDigest path = p
    at hWalker hError
  generalize resolveStatPath tree maximumSymlinks root buildState followSymlinks includeFileDigest path' = q
    at hWalker hError hInside hErr
  obtain ⟨r, e⟩ := p
  obtain ⟨r', e'⟩ := q
  dsimp only at hWalker hError hInside hErr
  subst hError
  rcases hErr with rfl | rfl
  · dsimp only
    rw [hWalker]
    cases hFile : r'.walker.fileStatus with
    | external nextPath => exact absurd hFile (hInside nextPath)
    | _ => rfl
  · rfl

end Response

/-! ### Absolute paths into the output path -/

/-- The steps of `outputPath/rel` are the output path's steps followed by
those of `rel`, and its last name is that of `rel`. -/
theorem resolveComponents_outputPath_append (f : ScopeWalkerFactory) (rel : String) :
    resolveComponents (splitSlash (f.outputPath ++ "/" ++ rel).data) =
      (f.rootSteps ++ (resolveComponents (splitSlash rel.data)).1,
        (resolveComponents (splitSlash rel.data)).2) := by
  rw [String.append_assoc, String.data_append, show ("/" ++ rel).data = '/' :: rel.data from rfl,
    splitSlash_append_slash, resolveComponents_append (splitSlash_ne_nil _) (splitSlash_ne_nil _)]
  rfl

/-- In `BatchStat`, an absolute path that spells the build's output path
followed by a relative path is resolved as that relative path is, from the
output path's root. The same walker state is reached, so the same directories
are entered and the same file status is found, and the same error is met;
only the recorded path differs. So the response is the same, unless the
location ends up outside the output path or resolution fails with an error
other than `ENOENT`, where only the path reported differs. -/
theorem resolveStatPath_outputPath_append (tree : StatTree) (maximumSymlinks root : Nat)
    (buildState : BuildState) (followSymlinks includeFileDigest : Bool) {rel : String}
    (hAbs : isAbsolute buildState.scopeWalkerFactory.outputPath = true) (hRel : isAbsolute rel = false) :
    SameOutcome
      (resolveStatPath tree maximumSymlinks root buildState followSymlinks includeFileDigest
        (buildState.scopeWalkerFactory.outputPath ++ "/" ++ rel))
      (resolveStatPath tree maximumSymlinks root buildState followSymlinks includeFileDigest rel) ∧
    ((∀ nextPath, (resolveStatPath tree maximumSymlinks root buildState followSymlinks includeFileDigest
        rel).1.walker.fileStatus ≠ .external nextPath) →
      ((resolveStatPath tree maximumSymlinks root buildState followSymlinks includeFileDigest rel).2 = none ∨
        (resolveStatPath tree maximumSymlinks root buildState followSymlinks includeFileDigest rel).2 =
          some .enoent) →
      batchStatPath tree maximumSymlinks root buildState followSymlinks includeFileDigest
          (buildState.scopeWalkerFactory.outputPath ++ "/" ++ rel) =
        batchStatPath tree maximumSymlinks root buildState followSymlinks includeFileDigest rel) := by
  have hAbsolute : isAbsolute (buildState.scopeWalkerFactory.outputPath ++ "/" ++ rel) = true := by
    obtain ⟨cs, hcs⟩ : ∃ cs, buildState.scopeWalkerFactory.outputPath.data = '/' :: cs := by
      simp only [isAbsolute, decide_eq_true_eq] at hAbs
      exact ⟨_, (List.eq_cons_of_mem_head? hAbs).trans rfl⟩
    simp [isAbsolute, String.append_assoc, hcs]
  have hSame : SameOutcome
      (resolveStatPath tree maximumSymlinks root buildState followSymlinks includeFileDigest
        (buildState.scopeWalkerFactory.outputPath ++ "/" ++ rel))
      (resolveStatPath tree maximumSymlinks root buildState followSymlinks includeFileDigest rel) := by
    unfold resolveStatPath
    simp only [StatResolution.onScope, hAbsolute, hRel, resolveComponents_outputPath_append,
      ScopeWalkerFactory.enter_rootSteps_append, if_true, Bool.false_eq_true, if_false]
    exact resolveStat_sameOutcome tree _ _ _ _ _ _ ⟨by simp [StatWalker.onScope, newStatWalker,
      NonEmptyStack.popAll], rfl⟩
  exact ⟨hSame, batchStatPath_eq_of_sameOutcome hSame⟩

/-- The output path `/o/ob1` holds a directory `a`: the path `/o/ob1/a` gets
the response `a` gets. -/
theorem resolveStatPath_outputPath_append_directory :
    let tree : StatTree := ⟨fun directory name => if directory = 1 ∧ name.name = "a" then .ok (.directory 2)
      else .error .enoent, fun _ => .error .einval, fun _ _ => .error .enoent, fun _ => some 7⟩
    let buildState : BuildState := ⟨"b1", ⟨"", 1⟩, ⟨"/o/ob1", []⟩⟩
    batchStatPath tree 0 1 buildState false false "/o/ob1/a" = batchStatPath tree 0 1 buildState false false "a" ∧
      batchStatPath tree 0 1 buildState false false "a" = some (.ok ⟨some (.directory (some 7))⟩) := by
  intro tree buildState
  exact ⟨(@resolveStatPath_outputPath_append tree 0 1 buildState false false "a" rfl rfl).2
    (fun _ h => nomatch (show FileStatus.directory none = _ from h)) (.inl rfl), rfl⟩

end RemoteOutputService
