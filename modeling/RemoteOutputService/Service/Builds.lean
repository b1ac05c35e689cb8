import RemoteOutputService.Registry.Races
import RemoteOutputService.Registry.StartBuild
import RemoteOutputService.BatchCreate.Placement
import RemoteOutputService.BatchStat.Laws
import RemoteOutputService.Filter.Model
import RemoteOutputService.BatchStat.VirtualRoot

/-! A build as a client runs it: `StartBuild`, batches of `BatchCreate` and
`BatchStat`, then `FinalizeBuild`.

`StartBuild` does its checks before taking the lock. It resolves the output
path prefix, checks the output base ID, builds the virtual root from the
output path and the client's aliases, and parses the instance name and the
digest function. A failure there is returned with the registry untouched.
Then comes the critical section. After the lock, `filterMissingChildren` runs
on the root directory of the output path that the critical section settled on.
A failure of the filtering is returned, but the critical section is not
undone, so the session stays.

The prefix is resolved by `path.Resolve` on an absolute scope walker over
`path.VoidComponentWalker`, recorded by a `path.Builder`. The output path is
the prefix with the output base ID appended, and the suffix returned is the
output base ID alone. The void walkers never fail, so the two "Failed to
resolve output path" branches cannot be taken. The bb-storage functions that
build the virtual root and parse the instance name and digest function are
modelled by their outcomes (`StartBuildParsers`).

`FinalizeBuild` ends a build's batches for good: until a `StartBuild` names
the build again, every `BatchCreate` and `BatchStat` for it fails. -/
namespace RemoteOutputService

/-- `StartBuildRequest`. -/
structure StartBuildRequest where
  outputBaseId : String
  buildId : String
  outputPathPrefix : String
  outputPathAliases : List (String × String)
  instanceName : String
  digestFunction : Nat

/-- `StartBuildResponse`. `InitialOutputPathContents` is never filled in. -/
structure StartBuildResponse where
  outputPathSuffix : String
  deriving DecidableEq

/-- The outcomes of the bb-storage calls `StartBuild` makes before the lock:
the error of `path.NewVirtualRootScopeWalkerFactory` for an output path and
aliases, if any; `digest.NewInstanceName`; and `InstanceName.GetDigestFunction`
for the request's digest function. -/
structure StartBuildParsers where
  newVirtualRootScopeWalkerFactory : ScopeWalkerFactory → Option Status
  newInstanceName : String → Except Status String
  getDigestFunction : String → Nat → Except Status DigestFunction

/-- What `StartBuild` has settled when it takes the lock. -/
structure PreparedBuild where
  outputBaseID : Component
  scopeWalkerFactory : ScopeWalkerFactory
  digestFunction : DigestFunction
  outputPathSuffix : String

/-- The builder after recording the steps and last name of a path. -/
def ResolvedPath.record (b : ResolvedPath) : List Step → Option Component → ResolvedPath
  | [], none => b
  | [], some name => b.push name
  | .up :: steps, terminal => b.onUp.record steps terminal
  | .directory name :: steps, terminal => (b.push name).record steps terminal

/-- `path.Resolve` of the output path prefix on
`path.NewAbsoluteScopeWalker(path.VoidComponentWalker)`, recorded by
`path.EmptyBuilder`: a relative prefix is refused, and every other is accepted. -/
def resolveOutputPathPrefix (outputPathPrefix : String) : Except Status ResolvedPath :=
  if isAbsolute outputPathPrefix then
    .ok ((⟨true, []⟩ : ResolvedPath).record (resolveComponents (splitSlash outputPathPrefix.data)).1
      (resolveComponents (splitSlash outputPathPrefix.data)).2)
  else .error ⟨.invalidArgument, "Path is relative, while an absolute path was expected"⟩

/-- The part of `StartBuild` before the lock, in the order of the code. -/
def prepareStartBuild (parsers : StartBuildParsers) (request : StartBuildRequest) :
    Except Status PreparedBuild :=
  match resolveOutputPathPrefix request.outputPathPrefix with
  | .error err => .error (err.wrap "Failed to resolve output path prefix")
  | .ok outputPath =>
    match newComponent request.outputBaseId with
    | none => .error ⟨.invalidArgument, "Output base ID is not a valid filename"⟩
    | some outputBaseID =>
      let scopeWalkerFactory : ScopeWalkerFactory :=
        ⟨(outputPath.push outputBaseID).toString, request.outputPathAliases⟩
      match parsers.newVirtualRootScopeWalkerFactory scopeWalkerFactory with
      | some err => .error err
      | none =>
        match parsers.newInstanceName request.instanceName with
        | .error err => .error (err.wrap ("Failed to parse instance name " ++ goQuote request.instanceName))
        | .ok instanceName =>
          match parsers.getDigestFunction instanceName request.digestFunction with
          | .error err => .error err
          | .ok digestFunction =>
            .ok ⟨outputBaseID, scopeWalkerFactory, digestFunction,
              ((⟨false, []⟩ : ResolvedPath).push outputBaseID).toString⟩

/-- The part of `StartBuild` after the lock: `filterMissingChildren` on the
output path's root directory, whose `FilterChildren` presents `children` and
returns `filterChildrenErr`, then the reply. -/
def finishStartBuild (c : Collaborators) (batchSize : Nat) (prepared : PreparedBuild)
    (children : List InitialNode) (filterChildrenErr : Option Status) :
    List Call × Except Status StartBuildResponse :=
  match filterMissingChildren c batchSize prepared.digestFunction children filterChildrenErr with
  | (calls, some err) => (calls, .error (err.wrap "Failed to filter contents of the output path"))
  | (calls, none) => (calls, .ok ⟨prepared.outputPathSuffix⟩)

/-- `StartBuild` with no other call overlapping it. `roots state` is what
`FilterChildren` of the root directory of the output path `state` presents,
and its own error. The result is the registry left behind, the calls of the
filtering, and the reply. -/
def RemoteOutputServiceDirectory.startBuildCall (d : RemoteOutputServiceDirectory)
    (parsers : StartBuildParsers) (c : Collaborators) (batchSize : Nat)
    (roots : Nat → List InitialNode × Option Status) (request : StartBuildRequest) :
    RemoteOutputServiceDirectory × List Call × Except Status StartBuildResponse :=
  match prepareStartBuild parsers request with
  | .error err => (d, [], .error err)
  | .ok prepared =>
    let started := d.startBuild prepared.outputBaseID request.buildId prepared.digestFunction
      prepared.scopeWalkerFactory
    (started.2, finishStartBuild c batchSize prepared (roots started.1).1 (roots started.1).2)

section Prepare

variable {parsers : StartBuildParsers} {request : StartBuildRequest}

/-- The errors `StartBuild` returns before the lock: a relative prefix's,
wrapped; the output base ID's; the virtual root's; the instance name's,
wrapped with the name; or the digest function's. -/
theorem prepareStartBuild_error {err : Status} (h : prepareStartBuild parsers request = .error err) :
    (isAbsolute request.outputPathPrefix = false ∧ err = ⟨.invalidArgument,
      "Failed to resolve output path prefix: Path is relative, while an absolute path was expected"⟩) ∨
    (newComponent request.outputBaseId = none ∧
      err = ⟨.invalidArgument, "Output base ID is not a valid filename"⟩) ∨
    (∃ f, parsers.newVirtualRootScopeWalkerFactory f = some err) ∨
    (∃ e, parsers.newInstanceName request.instanceName = .error e ∧
      err = e.wrap ("Failed to parse instance name " ++ goQuote request.instanceName)) ∨
    (∃ instanceName, parsers.getDigestFunction instanceName request.digestFunction = .error err) := by
  unfold prepareStartBuild resolveOutputPathPrefix at h
  dsimp only at h
  split at h
  · rename_i e he
    split at he
    · cases he
    · rename_i hAbs
      cases he
      cases h
      exact .inl ⟨by simpa using hAbs, rfl⟩
  · split at h
    · cases h
      exact .inr (.inl ⟨by assumption, rfl⟩)
    · split at h
      · cases h
        exact .inr (.inr (.inl ⟨_, by assumption⟩))
      · split at h
        · cases h
          exact .inr (.inr (.inr (.inl ⟨_, by assumption, rfl⟩)))
        · split at h
          · cases h
            exact .inr (.inr (.inr (.inr ⟨_, by assumption⟩)))
          · cases h

/-- A `StartBuild` that passes the checks before the lock resolved its prefix
and took a valid output base ID; the virtual root is built on the prefix with
the output base ID appended, and the suffix is the output base ID alone. -/
theorem prepareStartBuild_ok {prepared : PreparedBuild}
    (h : prepareStartBuild parsers request = .ok prepared) :
    ∃ outputPath, resolveOutputPathPrefix request.outputPathPrefix = .ok outputPath ∧
      newComponent request.outputBaseId = some prepared.outputBaseID ∧
      prepared.scopeWalkerFactory =
        ⟨(outputPath.push prepared.outputBaseID).toString, request.outputPathAliases⟩ ∧
      prepared.outputPathSuffix = ((⟨false, []⟩ : ResolvedPath).push prepared.outputBaseID).toString := by
  unfold prepareStartBuild at h
  dsimp only at h
  split at h
  · cases h
  · rename_i outputPath hResolved
    split at h
    · cases h
    · rename_i outputBaseID hob
      split at h
      · cases h
      · split at h
        · cases h
        · split at h
          · cases h
          · cases h
            exact ⟨outputPath, hResolved, hob, rfl, rfl⟩

/-- The suffix `StartBuild` returns is the output base ID. -/
theorem prepareStartBuild_outputPathSuffix {prepared : PreparedBuild}
    (h : prepareStartBuild parsers request = .ok prepared) :
    prepared.outputPathSuffix = prepared.outputBaseID.name := by
  obtain ⟨-, -, -, -, hSuffix⟩ := prepareStartBuild_ok h
  simp [hSuffix, ResolvedPath.push, ResolvedPath.toString, String.intercalate, String.intercalate.go]

theorem newComponent_name {name : String} {component : Component}
    (h : newComponent name = some component) : component.name = name := by
  unfold newComponent at h
  split at h
  · cases h; rfl
  · cases h

/-- Recording names, then a last name: the builder appends them all. -/
theorem ResolvedPath.record_names (b : ResolvedPath) :
    ∀ (names : List Component) (last : Component),
      b.record (names.map .directory) (some last) =
        ⟨b.absolute, b.components ++ names.map Component.name ++ [last.name]⟩
  | [], last => by simp [ResolvedPath.record, ResolvedPath.push]
  | name :: names, last => by
    rw [List.map_cons, ResolvedPath.record, ResolvedPath.record_names (b.push name) names last]
    simp [ResolvedPath.push]

/-- A prefix written as names after a slash resolves to those names. -/
theorem resolveOutputPathPrefix_names {names : List Component} (hNames : names ≠ []) :
    resolveOutputPathPrefix ("/" ++ String.intercalate "/" (names.map Component.name)) =
      .ok ⟨true, names.map Component.name⟩ := by
  have hSplit : splitSlash ("/" ++ String.intercalate "/" (names.map Component.name)).data =
      [] :: names.map fun name => name.name.data := by
    rw [show ("/" ++ String.intercalate "/" (names.map Component.name)).data =
        '/' :: (String.intercalate "/" (names.map Component.name)).data from rfl,
      splitSlash.eq_2, if_pos rfl, splitSlash_intercalate _ (by simpa using hNames)
        (by simpa using fun name _ => Component.slash_not_mem name), List.map_map]
    rfl
  have hSteps : resolveComponents ([] :: names.map fun name => name.name.data) =
      (names.dropLast.map .directory, some (names.getLast hNames)) := by
    rw [resolveComponents.eq_3 _ _ (by simpa using hNames), resolveComponents_names names hNames,
      List.getLast?_eq_getLast names hNames]
    simp [componentStep, newComponent, isValidComponent]
  have hAbs : isAbsolute ("/" ++ String.intercalate "/" (names.map Component.name)) = true := by
    simp [isAbsolute, show ("/" ++ String.intercalate "/" (names.map Component.name)).data =
      '/' :: (String.intercalate "/" (names.map Component.name)).data from rfl]
  rw [resolveOutputPathPrefix, if_pos hAbs, hSplit, hSteps, ResolvedPath.record_names, List.nil_append]
  conv_rhs => rw [← List.dropLast_append_getLast hNames]
  simp

/-- For a request whose output path prefix is written as names after a slash,
and that passes the checks before the lock, the output path of the virtual
root is the prefix followed by the suffix returned to the client. `BatchStat`
resolves absolute paths against that output path. The suffix is the output
base ID as the request sent it. -/
theorem prepareStartBuild_outputPath {names : List Component} (hNames : names ≠ [])
    (hPrefix : request.outputPathPrefix = "/" ++ String.intercalate "/" (names.map Component.name))
    {prepared : PreparedBuild} (h : prepareStartBuild parsers request = .ok prepared) :
    prepared.scopeWalkerFactory.outputPath = request.outputPathPrefix ++ "/" ++ prepared.outputPathSuffix ∧
      prepared.outputPathSuffix = request.outputBaseId := by
  obtain ⟨outputPath, hResolved, hob, hFactory, -⟩ := prepareStartBuild_ok h
  have hSuffix := prepareStartBuild_outputPathSuffix h
  rw [hPrefix, resolveOutputPathPrefix_names hNames] at hResolved
  cases hResolved
  refine ⟨?_, hSuffix.trans (newComponent_name hob)⟩
  rw [hFactory, hSuffix, hPrefix]
  simp only [ResolvedPath.push, ResolvedPath.toString, if_true]
  rw [intercalate_append_singleton _ _ _ (by simpa using hNames)]
  simp only [String.append_assoc]

/-- The prefix `/home/out` and the output base ID `ob1`. -/
theorem prepareStartBuild_outputPath_home :
    let parsers : StartBuildParsers :=
      ⟨fun _ => none, .ok, fun instanceName hashFunction => .ok ⟨instanceName, hashFunction⟩⟩
    let request : StartBuildRequest := ⟨"ob1", "b1", "/home/out", [], "", 1⟩
    let prepared : PreparedBuild := ⟨⟨"ob1", rfl⟩, ⟨"/home/out/ob1", []⟩, ⟨"", 1⟩, "ob1"⟩
    prepareStartBuild parsers request = .ok prepared ∧
      prepared.scopeWalkerFactory.outputPath = request.outputPathPrefix ++ "/" ++ prepared.outputPathSuffix ∧
      prepared.outputPathSuffix = request.outputBaseId := by
  intro parsers request prepared
  have h : prepareStartBuild parsers request = .ok prepared := rfl
  exact ⟨h, @prepareStartBuild_outputPath parsers request [⟨"home", rfl⟩, ⟨"out", rfl⟩] (by simp) rfl prepared h⟩

end Prepare

namespace RemoteOutputServiceDirectory

variable {d : RemoteOutputServiceDirectory} {l : List Nat}

/-- After the critical section of `StartBuild`, new or retried, the build has
a session on the output path returned for filtering. -/
theorem WellFormed.startBuild_session_state (h : WellFormed d l) (ob : Component) (buildId : String)
    (digestFunction : DigestFunction) (scopeWalkerFactory : ScopeWalkerFactory) :
    ∃ b, (d.startBuild ob buildId digestFunction scopeWalkerFactory).2.getOutputPathAndBuildState buildId =
      .ok ((d.startBuild ob buildId digestFunction scopeWalkerFactory).1, some b) ∧ b.id = buildId := by
  obtain ⟨hNew, hRetry⟩ := h.startBuild_postcondition ob buildId digestFunction scopeWalkerFactory
  by_cases hActive : d.sessions.Active buildId
  · obtain ⟨hSame, hl⟩ := hRetry hActive
    obtain ⟨-, b, hb, hid⟩ := h.indexed.1 _ _ hl
    refine ⟨b, ?_, hid⟩
    rw [hSame]
    simp [getOutputPathAndBuildState, hl, hb]
  · exact ⟨_, (hNew hActive).1, rfl⟩

/-- Every `BatchCreate` and every `BatchStat` for `buildId` on `d` fails with
`FailedPrecondition` without touching a tree. -/
def BatchesRefused (d : RemoteOutputServiceDirectory) (buildId : String) :
    Prop :=
  (∀ (dirs : Directories) (maximumTreeSizeBytes : Int) (request : BatchCreateRequest),
    request.buildId = buildId →
    d.batchCreate dirs maximumTreeSizeBytes request =
      some ([], some ⟨.failedPrecondition, "Build ID is not associated with any running build"⟩)) ∧
  ∀ (tree : StatTree) (maximumSymlinks : Nat) (request : BatchStatRequest), request.buildId = buildId →
    d.batchStat tree maximumSymlinks request =
      some (.error ⟨.failedPrecondition, "Build ID is not associated with any running build"⟩)

end RemoteOutputServiceDirectory

namespace System

open RemoteOutputServiceDirectory

/-- How a `StartBuild` call on the registry of `s` ends. Either it fails before
the lock: it returns the error of the check that failed, makes no call, and
leaves the registry as it was. Or it takes its critical section, after which
the build has a session on the output path that was filtered, whatever the
filtering returned. In that case the reply is the output base ID as the output
path suffix when the filtering returned no error. Otherwise it is the
filtering's error, with its code, under "Failed to filter contents of the
output path". -/
def StartBuildOutcome (s : System) (parsers : StartBuildParsers) (c : Collaborators) (batchSize : Nat)
    (roots : Nat → List InitialNode × Option Status) (request : StartBuildRequest) : Prop :=
  (∃ err, prepareStartBuild parsers request = .error err ∧
    s.directory.startBuildCall parsers c batchSize roots request = (s.directory, [], .error err)) ∨
  ∃ prepared state b, prepareStartBuild parsers request = .ok prepared ∧
    s.run [.startBuild prepared.outputBaseID request.buildId prepared.digestFunction
      prepared.scopeWalkerFactory] =
      some ⟨(s.directory.startBuildCall parsers c batchSize roots request).1, s.cleaning⟩ ∧
    (s.directory.startBuildCall parsers c batchSize roots request).1.getOutputPathAndBuildState
      request.buildId = .ok (state, some b) ∧ b.id = request.buildId ∧
    (s.directory.startBuildCall parsers c batchSize roots request).2.1 =
      (filterMissingChildren c batchSize prepared.digestFunction (roots state).1 (roots state).2).1 ∧
    ((filterMissingChildren c batchSize prepared.digestFunction (roots state).1 (roots state).2).2 = none →
      (s.directory.startBuildCall parsers c batchSize roots request).2.2 =
        .ok ⟨prepared.outputBaseID.name⟩) ∧
    ∀ err, (filterMissingChildren c batchSize prepared.digestFunction (roots state).1 (roots state).2).2 =
      some err → (s.directory.startBuildCall parsers c batchSize roots request).2.2 =
        .error (err.wrap "Failed to filter contents of the output path")

/-- In every reachable registry, every `StartBuild` call ends as
`StartBuildOutcome` says: a failure after the lock keeps the session. -/
theorem startBuildCall_outcome {s : System} (hs : s.Reachable) (parsers : StartBuildParsers)
    (c : Collaborators) (batchSize : Nat) (roots : Nat → List InitialNode × Option Status)
    (request : StartBuildRequest) : s.StartBuildOutcome parsers c batchSize roots request := by
  unfold StartBuildOutcome
  cases hp : prepareStartBuild parsers request with
  | error err => exact .inl ⟨err, rfl, by simp [startBuildCall, hp]⟩
  | ok prepared =>
    obtain ⟨l, hw⟩ := hs.wellFormed
    obtain ⟨b, hb, hid⟩ := hw.startBuild_session_state prepared.outputBaseID request.buildId
      prepared.digestFunction prepared.scopeWalkerFactory
    refine .inr ⟨prepared, _, b, rfl, by simp [startBuildCall, hp, run_cons, step],
      by simpa [startBuildCall, hp] using hb, hid, ?_⟩
    simp only [startBuildCall, hp, finishStartBuild, prepareStartBuild_outputPathSuffix hp]
    obtain ⟨calls, _ | err⟩ := filterMissingChildren c batchSize prepared.digestFunction
      (roots (s.directory.startBuild prepared.outputBaseID request.buildId prepared.digestFunction
        prepared.scopeWalkerFactory).1).1
      (roots (s.directory.startBuild prepared.outputBaseID request.buildId prepared.digestFunction
        prepared.scopeWalkerFactory).1).2 <;> simp

/-- A first `StartBuild`, with parsers that accept everything and an empty
output path. -/
theorem startBuildCall_outcome_first :
    initial.Reachable ∧
    initial.StartBuildOutcome ⟨fun _ => none, .ok, fun instanceName hashFunction => .ok ⟨instanceName, hashFunction⟩⟩
      ⟨fun _ _ => .ok [], fun _ _ => none⟩ 1 (fun _ => ([], none)) ⟨"ob1", "b1", "/out", [], "", 1⟩ :=
  ⟨reachable_initial, startBuildCall_outcome reachable_initial _ _ _ _ _⟩

/-- `FinalizeBuild` of a build without a session gives none. -/
theorem Sessions.not_active_finalize (a : Sessions) (buildId : String) :
    ¬(a.finalize buildId).Active buildId := by
  rintro ⟨ob, h⟩
  simp only [Sessions.finalize] at h
  split at h <;> simp_all

/-- In a reachable registry, a build ID without a session has every batch
refused. -/
theorem batchesRefused_of_not_active {s : System} (hs : s.Reachable) {buildId : String}
    (h : ¬s.directory.sessions.Active buildId) : s.directory.BatchesRefused buildId :=
  ⟨fun dirs maximumTreeSizeBytes request hId => (batchCreate_eq hs dirs maximumTreeSizeBytes request).2 (hId ▸ h),
    fun tree maximumSymlinks request hId => (batchStat_eq hs tree maximumSymlinks request).2 (hId ▸ h)⟩

/-- Once `FinalizeBuild` has run for a build, every `BatchCreate` and every
`BatchStat` for it fails with `FailedPrecondition` without touching a tree,
along any interleaving of critical sections until a `StartBuild` names the
build again. -/
theorem finalizeBuild_ends_batches {s s₁ s₂ : System} {as : List Action} {buildId : String}
    (hs : s.Reachable) (hf : s.step (.finalizeBuild buildId) = some s₁) (hRun : s₁.run as = some s₂)
    (has : ∀ a ∈ as, a.startsBuild buildId = false) : s₂.directory.BatchesRefused buildId := by
  obtain ⟨l, hw⟩ := hs.wellFormed
  obtain ⟨d', hf', hd⟩ := hw.sessions_finalizeBuild buildId
  obtain ⟨d'', hf'', rfl⟩ := Option.map_eq_some'.mp hf
  rw [hf'] at hf''
  cases hf''
  exact batchesRefused_of_not_active ((hs.step hf).run hRun)
    (run_not_active (hs.step hf) hRun has (hd ▸ Sessions.not_active_finalize _ buildId))

/-- `b1` is finalized, then `b2` starts on another output base: the batches of
`b1` are refused. -/
theorem finalizeBuild_ends_batches_of_b1 :
    let first := (newRemoteOutputServiceDirectory.startBuild ⟨"ob1", rfl⟩ "b1" ⟨"", 1⟩ ⟨"/o", []⟩).2
    ((first.closeBuild 1).startBuild ⟨"ob2", rfl⟩ "b2" ⟨"", 1⟩ ⟨"/o", []⟩).2.BatchesRefused "b1" :=
  @finalizeBuild_ends_batches ⟨_, []⟩ ⟨_, []⟩ ⟨_, []⟩ [.startBuild ⟨"ob2", rfl⟩ "b2" ⟨"", 1⟩ ⟨"/o", []⟩] "b1"
    ⟨[.startBuild ⟨"ob1", rfl⟩ "b1" ⟨"", 1⟩ ⟨"/o", []⟩], rfl⟩ rfl rfl (by simp [Action.startsBuild])

/-- A `StartBuild` for a new build on an output base whose `Clean` has looked up
its output path and not yet committed settles on that output path, the one the
`Clean` is emptying, and the commit ends the build: the output base is gone,
the build ID has no session, and every batch of the build is refused. -/
theorem startBuild_during_clean_loses_session {s : System} (hs : s.Reachable) {ob : Component}
    {state : Nat} {buildId : String} (digestFunction : DigestFunction)
    (scopeWalkerFactory : ScopeWalkerFactory) (hl : s.directory.cleanLookup ob = some state)
    (hNew : ¬s.directory.sessions.Active buildId) :
    (s.directory.startBuild ob buildId digestFunction scopeWalkerFactory).1 = state ∧
    ∃ s', s.run [.cleanLookup ob, .startBuild ob buildId digestFunction scopeWalkerFactory,
        .cleanCommit ob state] = some s' ∧
      s'.directory.virtualLookup ob = none ∧
      s'.directory.getOutputPathAndBuildState buildId =
        .error ⟨.failedPrecondition, "Build ID is not associated with any running build"⟩ ∧
      s'.directory.BatchesRefused buildId := by
  obtain ⟨l, hw⟩ := hs.wellFormed
  have hl' : s.directory.outputBaseIDs.lookup ob = some state := hl
  set started := s.directory.startBuild ob buildId digestFunction scopeWalkerFactory
  have hStarted : started.1 = state ∧ started.2.outputBaseIDs.lookup ob = some state := by
    simp [started, startBuild, resolveOutputPath, hw.buildIDs_lookup_of_not_active hNew, hl']
  obtain ⟨l₁, hw₁⟩ := hw.startBuild ob buildId digestFunction scopeWalkerFactory
  -- the new session was opened on `ob`, which the commit drops
  have hSessions : (started.2.cleanCommit ob state).sessions = s.directory.sessions.clean ob := by
    rw [hw₁.sessions_cleanCommit hStarted.2,
      ((hw.sessions_startBuild ob buildId _ _).resolve_left fun h => hNew h.1).2]
    exact Function.update_idem _ _ _
  obtain ⟨l₂, hw₂⟩ := hw₁.cleanCommit ob state
  have hRun : s.run [.cleanLookup ob, .startBuild ob buildId digestFunction scopeWalkerFactory,
      .cleanCommit ob state] = some ⟨started.2.cleanCommit ob state, s.cleaning⟩ := by
    simp [run_cons, step, hl, started]
  have hNot : ¬(started.2.cleanCommit ob state).sessions.Active buildId :=
    fun h => hNew (Sessions.Active.of_clean (hSessions ▸ h))
  have hNone : (started.2.cleanCommit ob state).sessions ob = none := by simp [hSessions, Sessions.clean]
  exact ⟨hStarted.1, _, hRun, Option.map_eq_none'.mp hNone, getOutputPathAndBuildState_of_not_active hw₂ hNot,
    batchesRefused_of_not_active (hs.run hRun) hNot⟩

/-- After a first `StartBuild` of `b1` on `ob1`, a `Clean` of `ob1` that has
looked up object 1, a `StartBuild` of `b2` on `ob1`, and the commit. -/
theorem startBuild_during_clean_first_output_path :
    let first := (newRemoteOutputServiceDirectory.startBuild ⟨"ob1", rfl⟩ "b1" ⟨"", 1⟩ ⟨"/o", []⟩).2
    (⟨first, []⟩ : System).Reachable ∧ ¬first.sessions.Active "b2" ∧
    (first.startBuild ⟨"ob1", rfl⟩ "b2" ⟨"", 1⟩ ⟨"/o", []⟩).1 = 1 ∧
    ∃ s', (⟨first, []⟩ : System).run [.cleanLookup ⟨"ob1", rfl⟩,
        .startBuild ⟨"ob1", rfl⟩ "b2" ⟨"", 1⟩ ⟨"/o", []⟩, .cleanCommit ⟨"ob1", rfl⟩ 1] = some s' ∧
      s'.directory.virtualLookup ⟨"ob1", rfl⟩ = none ∧
      s'.directory.getOutputPathAndBuildState "b2" =
        .error ⟨.failedPrecondition, "Build ID is not associated with any running build"⟩ ∧
      s'.directory.BatchesRefused "b2" := by
  intro first
  have hs : (⟨first, []⟩ : System).Reachable := ⟨[.startBuild ⟨"ob1", rfl⟩ "b1" ⟨"", 1⟩ ⟨"/o", []⟩], rfl⟩
  exact ⟨hs, not_active_after_first_startBuild (by decide), startBuild_during_clean_loses_session hs ⟨"", 1⟩
    ⟨"/o", []⟩ rfl (not_active_after_first_startBuild (by decide))⟩

/-- A `BatchCreate` works on the output path its critical section found, even
when a `Clean` of that output base commits before the tree calls run. In every
reachable registry, a `BatchCreate` for a build with a session makes its calls
from the root directory of the output path of the build's output base. After
its critical section and both of a `Clean` of that output base, no name leads
to that directory any more and the build has no session, so what the
`BatchCreate` goes on to create cannot be reached through the root directory. -/
theorem batchCreate_during_clean_unreachable {s : System} (hs : s.Reachable) (dirs : Directories)
    (maximumTreeSizeBytes : Int) {request : BatchCreateRequest}
    (hActive : s.directory.sessions.Active request.buildId) :
    ∃ ob state buildState s', s.directory.outputBaseIDs.lookup ob = some state ∧
      s.directory.batchCreate dirs maximumTreeSizeBytes request =
        some (batchCreateOn dirs maximumTreeSizeBytes state buildState request) ∧
      s.run [.getOutputPathAndBuildState request.buildId, .cleanLookup ob, .cleanCommit ob state] =
        some s' ∧
      (∀ name, s'.directory.virtualLookup name ≠ some state) ∧
      ¬s'.directory.sessions.Active request.buildId := by
  obtain ⟨l, hw⟩ := hs.wellFormed
  obtain ⟨ob, state, buildState, hl, hSession, -, hCreate⟩ :=
    (batchCreate_eq hs dirs maximumTreeSizeBytes request).1 hActive
  obtain ⟨l₁, hw₁⟩ := hw.cleanCommit ob state
  refine ⟨ob, state, buildState, ⟨s.directory.cleanCommit ob state, s.cleaning⟩, hl, hCreate,
    by simp [run_cons, step, cleanLookup, hl], hw.cleanCommit_lookup_ne hl, fun hAfter => ?_⟩
  obtain ⟨st, hst⟩ := (hw₁.active_iff _).mp hAfter
  rw [hw.cleanCommit_buildIDs hl hSession] at hst
  cases hst

/-- A `BatchCreate` of `b1` racing a `Clean` of `ob1` after a first `StartBuild`. -/
theorem batchCreate_during_clean_of_b1 :
    let first := (newRemoteOutputServiceDirectory.startBuild ⟨"ob1", rfl⟩ "b1" ⟨"", 1⟩ ⟨"/o", []⟩).2
    let dirs : Directories := ⟨fun calls _ _ => .ok (calls.length + 5), fun _ _ => none, fun _ _ _ _ => none⟩
    (⟨first, []⟩ : System).Reachable ∧ first.sessions.Active "b1" ∧
    ∃ ob state buildState s', first.outputBaseIDs.lookup ob = some state ∧
      first.batchCreate dirs 5 ⟨"b1", "p", false, [], [], []⟩ =
        some (batchCreateOn dirs 5 state buildState ⟨"b1", "p", false, [], [], []⟩) ∧
      (⟨first, []⟩ : System).run [.getOutputPathAndBuildState "b1", .cleanLookup ob, .cleanCommit ob state] =
        some s' ∧
      (∀ name, s'.directory.virtualLookup name ≠ some state) ∧ ¬s'.directory.sessions.Active "b1" := by
  intro first dirs
  have hs : (⟨first, []⟩ : System).Reachable := ⟨[.startBuild ⟨"ob1", rfl⟩ "b1" ⟨"", 1⟩ ⟨"/o", []⟩], rfl⟩
  have hActive : first.sessions.Active "b1" := ⟨⟨"ob1", rfl⟩, rfl⟩
  exact ⟨hs, hActive, @batchCreate_during_clean_unreachable _ hs dirs 5 ⟨"b1", "p", false, [], [], []⟩ hActive⟩

end System

end RemoteOutputService
