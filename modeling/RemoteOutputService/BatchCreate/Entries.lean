import RemoteOutputService.BatchCreate.Paths

/-! The three loops of `BatchCreate`. Entries are checked one at a time, just
before each is created: a file or directory whose digest does not parse, or a
directory whose tree is too large, ends the call, and what the earlier steps
created stays. -/
namespace RemoteOutputService

section Loops

variable (dirs : Directories) (stack : NonEmptyStack) {α : Type} (kind : String) (path : α → String)
  (prepare : α → Except Status CreatedNode)

theorem walk_extends : ∀ (calls : List TreeCall) (stack : NonEmptyStack) (steps : List Step),
    calls <+: (walk dirs calls stack steps).1
  | _, _, [] => List.prefix_refl _
  | calls, stack, .up :: steps => by
    unfold walk
    cases onUp stack with
    | error _ => exact List.prefix_refl _
    | ok stack' => exact walk_extends calls stack' steps
  | calls, stack, .directory name :: steps => by
    unfold walk onDirectory
    cases dirs.createAndEnterPrepopulatedDirectory calls stack.peek name with
    | error _ => exact List.prefix_append _ _
    | ok child => exact (List.prefix_append _ _).trans (walk_extends _ (stack.push child) steps)

theorem createChild_extends (calls : List TreeCall) (outputPath : String) (node : CreatedNode) :
    calls <+: (createChild dirs calls stack outputPath node).1 := by
  unfold createChild
  split
  · exact List.prefix_refl _
  · have h := walk_extends dirs calls stack ‹List Step›
    revert h
    cases walk dirs calls stack ‹List Step› with
    | mk calls' result =>
      intro h
      cases result with
      | error _ => exact h
      | ok parent =>
        cases ‹Option Component› with
        | none => exact h
        | some _ => exact h.trans (List.prefix_append _ _)

/-- Every entry of `entries` was built and created from `stack` by a call of
`createChild` that succeeded, between `calls` and `calls'`. -/
def Created (calls : List TreeCall) (entries : List α) (calls' : List TreeCall) : Prop :=
  ∀ entry ∈ entries, ∃ node before after, prepare entry = .ok node ∧ calls <+: before ∧
    createChild dirs before stack (path entry) node = (after, none) ∧ after <+: calls'

theorem createEntries_ok :
    ∀ (calls : List TreeCall) (entries : List α) (calls' : List TreeCall),
      createEntries dirs stack kind path prepare calls entries = (calls', none) →
      calls <+: calls' ∧ Created dirs stack path prepare calls entries calls'
  | calls, [], _, h => by
    cases h
    exact ⟨List.prefix_refl _, fun _ h => absurd h (List.not_mem_nil _)⟩
  | calls, entry :: entries, calls', h => by
    unfold createEntries at h
    cases hPrepare : prepare entry with
    | error _ => rw [hPrepare] at h; cases h
    | ok node =>
      rw [hPrepare] at h
      dsimp only at h
      have hGrow := createChild_extends dirs stack calls (path entry) node
      rcases hChild : createChild dirs calls stack (path entry) node with ⟨after, _ | _⟩ <;>
        rw [hChild] at h hGrow
      · obtain ⟨hPrefix, hCreated⟩ := createEntries_ok after entries calls' h
        refine ⟨hGrow.trans hPrefix, fun e he => ?_⟩
        rcases List.mem_cons.mp he with rfl | he
        · exact ⟨node, calls, after, hPrepare, List.prefix_refl _, hChild, hPrefix⟩
        · obtain ⟨n, before, after', h₁, h₂, h₃, h₄⟩ := hCreated e he
          exact ⟨n, before, after', h₁, hGrow.trans h₂, h₃, h₄⟩
      · cases h

/-- An entry that cannot be built ends its loop: the loop does what it does on
the entries before it, and then returns the entry's error. -/
theorem createEntries_append_error {entry : α} {err : Status} (hEntry : prepare entry = .error err)
    (rest : List α) :
    ∀ (calls : List TreeCall) (entries : List α),
      createEntries dirs stack kind path prepare calls (entries ++ entry :: rest) =
        ((createEntries dirs stack kind path prepare calls entries).1,
          some ((createEntries dirs stack kind path prepare calls entries).2.getD err))
  | calls, [] => by simp [createEntries, hEntry]
  | calls, e :: entries => by
    simp only [List.cons_append, createEntries]
    cases prepare e with
    | error _ => rfl
    | ok node =>
      simp only
      cases createChild dirs calls stack (path e) node with
      | mk calls' result =>
        cases result with
        | some _ => rfl
        | none => exact createEntries_append_error hEntry rest calls' entries

end Loops

theorem Created.mono {dirs : Directories} {stack : NonEmptyStack} {α : Type} {path : α → String}
    {prepare : α → Except Status CreatedNode} {calls₀ calls calls' calls'' : List TreeCall} {entries : List α}
    (h : Created dirs stack path prepare calls entries calls') (hBefore : calls₀ <+: calls)
    (hAfter : calls' <+: calls'') : Created dirs stack path prepare calls₀ entries calls'' := by
  intro entry hEntry
  obtain ⟨node, before, after, hPrepare, hB, hChild, hA⟩ := h entry hEntry
  exact ⟨node, before, after, hPrepare, hBefore.trans hB, hChild, hA.trans hAfter⟩

/-- A successful `BatchCreate` resolved the prefix to a stack, then built and
created every file, directory and symbolic link from that stack. -/
theorem batchCreateOn_ok {dirs : Directories} {maximumTreeSizeBytes : Int} {root : Nat}
    {buildState : BuildState} {request : BatchCreateRequest}
    (h : (batchCreateOn dirs maximumTreeSizeBytes root buildState request).2 = none) :
    ∃ prefixCalls stack, resolvePrefix dirs [] ⟨root, []⟩ request.pathPrefix = (prefixCalls, .ok stack) ∧
      prefixCalls <+: (batchCreateOn dirs maximumTreeSizeBytes root buildState request).1 ∧
      (request.cleanPathPrefix = true →
        .removeAllChildren stack.peek none ∈ (batchCreateOn dirs maximumTreeSizeBytes root buildState request).1) ∧
      Created dirs stack OutputFile.path (prepareFile buildState.digestFunction) prefixCalls request.files
        (batchCreateOn dirs maximumTreeSizeBytes root buildState request).1 ∧
      Created dirs stack OutputDirectory.path (prepareDirectory buildState.digestFunction maximumTreeSizeBytes)
        prefixCalls request.directories (batchCreateOn dirs maximumTreeSizeBytes root buildState request).1 ∧
      Created dirs stack OutputSymlink.path prepareSymlink prefixCalls request.symlinks
        (batchCreateOn dirs maximumTreeSizeBytes root buildState request).1 := by
  revert h
  unfold batchCreateOn
  rcases hPrefix : resolvePrefix dirs [] ⟨root, []⟩ request.pathPrefix with ⟨prefixCalls, _ | stack⟩
  · intro h; cases h
  · simp only
    generalize hCleaned : (if request.cleanPathPrefix = true then _ else _ : List TreeCall × Option Status) = cleaned
    have hClean : prefixCalls <+: cleaned.1 := by
      rw [← hCleaned]
      split
      · exact List.prefix_append _ _
      · exact List.prefix_refl _
    have hCleanCall : request.cleanPathPrefix = true → cleaned.2 = none →
        .removeAllChildren stack.peek none ∈ cleaned.1 := by
      rw [← hCleaned]
      intro hFlag
      cases hRemove : dirs.removeAllChildren prefixCalls stack.peek <;> simp [hFlag, hRemove]
    rcases cleaned with ⟨cleanCalls, _ | _⟩
    · simp only at hClean hCleanCall ⊢
      rcases hFiles : createEntries dirs stack "file" OutputFile.path (prepareFile buildState.digestFunction)
        cleanCalls request.files with ⟨fileCalls, _ | _⟩
      · obtain ⟨hFilesPrefix, hFilesCreated⟩ := createEntries_ok dirs stack _ _ _ _ _ _ hFiles
        simp only
        rcases hDirs : createEntries dirs stack "directory" OutputDirectory.path
          (prepareDirectory buildState.digestFunction maximumTreeSizeBytes) fileCalls request.directories with
          ⟨dirCalls, _ | _⟩
        · obtain ⟨hDirsPrefix, hDirsCreated⟩ := createEntries_ok dirs stack _ _ _ _ _ _ hDirs
          simp only
          rcases hLinks : createEntries dirs stack "symbolic link" OutputSymlink.path prepareSymlink dirCalls
            request.symlinks with ⟨linkCalls, _ | _⟩
          · obtain ⟨hLinksPrefix, hLinksCreated⟩ := createEntries_ok dirs stack _ _ _ _ _ _ hLinks
            intro _
            have hToFiles := hClean.trans hFilesPrefix
            have hToDirs := hToFiles.trans hDirsPrefix
            exact ⟨prefixCalls, stack, rfl, hToDirs.trans hLinksPrefix,
              fun hFlag => (hFilesPrefix.trans (hDirsPrefix.trans hLinksPrefix)).subset (hCleanCall hFlag trivial),
              hFilesCreated.mono hClean (hDirsPrefix.trans hLinksPrefix),
              hDirsCreated.mono hToFiles hLinksPrefix, hLinksCreated.mono hToDirs (List.prefix_refl _)⟩
          · intro h; cases h
        · intro h; cases h
      · intro h; cases h
    · intro h; cases h

/-- A directory entry that cannot be built ends `BatchCreate` there: the calls
are those of the request cut before that entry and without symbolic links, and
the error is that request's error, or else the entry's. -/
theorem batchCreateOn_directory_error {dirs : Directories} {maximumTreeSizeBytes : Int} {root : Nat}
    {buildState : BuildState} {request : BatchCreateRequest} {pre post : List OutputDirectory}
    {entry : OutputDirectory} {err : Status} (hDirs : request.directories = pre ++ entry :: post)
    (hEntry : prepareDirectory buildState.digestFunction maximumTreeSizeBytes entry = .error err) :
    batchCreateOn dirs maximumTreeSizeBytes root buildState request =
      ((batchCreateOn dirs maximumTreeSizeBytes root buildState { request with directories := pre, symlinks := [] }).1,
        some ((batchCreateOn dirs maximumTreeSizeBytes root buildState
          { request with directories := pre, symlinks := [] }).2.getD err)) := by
  simp only [batchCreateOn, hDirs, createEntries_append_error _ _ _ _ _ hEntry]
  rcases resolvePrefix dirs [] ⟨root, []⟩ request.pathPrefix with ⟨calls, _ | stack⟩
  · rfl
  · simp only
    generalize (if request.cleanPathPrefix = true then _ else _ : List TreeCall × Option Status) = cleaned
    rcases cleaned with ⟨calls, _ | _⟩
    · simp only
      rcases createEntries dirs stack "file" OutputFile.path (prepareFile buildState.digestFunction) calls
        request.files with ⟨calls, _ | _⟩
      · simp only
        rcases createEntries dirs stack "directory" OutputDirectory.path
          (prepareDirectory buildState.digestFunction maximumTreeSizeBytes) calls pre with ⟨calls, _ | _⟩ <;> rfl
      · rfl
    · rfl

theorem newDigestFromProto_sizeBytes {digestFunction : DigestFunction} {proto : DigestProto} {digest : Digest}
    (h : digestFunction.newDigestFromProto proto = .ok digest) : digest.sizeBytes = proto.sizeBytes := by
  unfold DigestFunction.newDigestFromProto at h
  split at h
  · cases h
  · cases h
    rfl

end RemoteOutputService
