import RemoteOutputService.BatchStat.Model
import RemoteOutputService.Registry.Sessions

/-! `BatchStat` resolves each path with a fresh walker over a tree that reading
does not change, so a request splits at any point: a request for `ps ++ qs`
succeeds exactly when the requests for `ps` and for `qs` both do, and answers
with their responses one after the other. Hence each path is answered, in
order, as a request for it alone is answered. -/
namespace RemoteOutputService

section Loop

variable (tree : StatTree) (maximumSymlinks root : Nat) (buildState : BuildState)
  (followSymlinks includeFileDigest : Bool)

/-- The loop over `ps ++ qs` is the loop over `ps` and then, if that succeeded,
the loop over `qs` from its responses. -/
theorem batchStatPaths_append (qs : List String) :
    ∀ (ps : List String) (responses : List StatResponse),
      batchStatPaths tree maximumSymlinks root buildState followSymlinks includeFileDigest (ps ++ qs) responses =
        match batchStatPaths tree maximumSymlinks root buildState followSymlinks includeFileDigest ps responses with
        | some (.ok responses') =>
          batchStatPaths tree maximumSymlinks root buildState followSymlinks includeFileDigest qs responses'
        | result => result
  | [], _ => rfl
  | statPath :: ps, responses => by
    simp only [List.cons_append, batchStatPaths]
    cases batchStatPath tree maximumSymlinks root buildState followSymlinks includeFileDigest statPath with
    | none => rfl
    | some result =>
      cases result with
      | error _ => rfl
      | ok response => exact batchStatPaths_append qs ps _

/-- The responses gathered before the loop stay in front of its own. -/
theorem batchStatPaths_responses :
    ∀ (ps : List String) (responses : List StatResponse),
      batchStatPaths tree maximumSymlinks root buildState followSymlinks includeFileDigest ps responses =
        match batchStatPaths tree maximumSymlinks root buildState followSymlinks includeFileDigest ps [] with
        | some (.ok responses') => some (.ok (responses ++ responses'))
        | result => result
  | [], _ => by simp [batchStatPaths]
  | statPath :: ps, responses => by
    simp only [batchStatPaths, List.nil_append]
    cases batchStatPath tree maximumSymlinks root buildState followSymlinks includeFileDigest statPath with
    | none => rfl
    | some result =>
      cases result with
      | error _ => rfl
      | ok response =>
        dsimp only
        rw [batchStatPaths_responses ps (responses ++ [response]), batchStatPaths_responses ps [response]]
        rcases batchStatPaths tree maximumSymlinks root buildState followSymlinks includeFileDigest ps [] with
          _ | _ | _ <;> simp

/-- A loop over `ps ++ qs` succeeds exactly when the loops over `ps` and over
`qs` both do, with their responses one after the other. -/
theorem batchStatPaths_append_ok (ps qs : List String) (responses : List StatResponse) :
    batchStatPaths tree maximumSymlinks root buildState followSymlinks includeFileDigest (ps ++ qs) [] =
        some (.ok responses) ↔
      ∃ responses₁ responses₂,
        batchStatPaths tree maximumSymlinks root buildState followSymlinks includeFileDigest ps [] =
          some (.ok responses₁) ∧
        batchStatPaths tree maximumSymlinks root buildState followSymlinks includeFileDigest qs [] =
          some (.ok responses₂) ∧
        responses = responses₁ ++ responses₂ := by
  rw [batchStatPaths_append]
  rcases batchStatPaths tree maximumSymlinks root buildState followSymlinks includeFileDigest ps [] with
    _ | _ | responses₁
  · simp
  · simp
  · dsimp only
    rw [batchStatPaths_responses tree maximumSymlinks root buildState followSymlinks includeFileDigest qs]
    rcases batchStatPaths tree maximumSymlinks root buildState followSymlinks includeFileDigest qs [] with
      _ | _ | responses₂ <;> simp [eq_comm]

end Loop

/-- A run over lists of paths that splits at every point, gives no response to
no path and one to one path, answers each path of a list, in order, as it
answers that path alone. -/
theorem responses_of_split {run : List String → Option (Except Status (List StatResponse))}
    (hSplit : ∀ ps qs responses, run (ps ++ qs) = some (.ok responses) ↔
      ∃ responses₁ responses₂, run ps = some (.ok responses₁) ∧ run qs = some (.ok responses₂) ∧
        responses = responses₁ ++ responses₂)
    (hNil : ∀ responses, run [] = some (.ok responses) → responses = [])
    (hOne : ∀ statPath responses, run [statPath] = some (.ok responses) → ∃ response, responses = [response]) :
    ∀ ps responses, run ps = some (.ok responses) →
      responses.length = ps.length ∧ ∀ (i : Nat) statPath, ps[i]? = some statPath →
        ∃ response, responses[i]? = some response ∧ run [statPath] = some (.ok [response])
  | [], responses, h => by
    rw [hNil responses h]
    exact ⟨rfl, fun _ _ h => by simp at h⟩
  | statPath :: ps, responses, h => by
    obtain ⟨first, rest, hFirst, hRest, rfl⟩ := (hSplit [statPath] ps responses).mp h
    obtain ⟨response, rfl⟩ := hOne statPath first hFirst
    obtain ⟨hLength, hAt⟩ := responses_of_split hSplit hNil hOne ps rest hRest
    rw [List.singleton_append]
    refine ⟨by simp [hLength], fun i p hp => ?_⟩
    cases i with
    | zero =>
      rw [List.getElem?_cons_zero, Option.some.injEq] at hp
      subst hp
      exact ⟨response, List.getElem?_cons_zero, hFirst⟩
    | succ i =>
      rw [List.getElem?_cons_succ] at hp
      rw [List.getElem?_cons_succ]
      exact hAt i p hp

namespace RemoteOutputServiceDirectory

variable (d : RemoteOutputServiceDirectory) (tree : StatTree) (maximumSymlinks : Nat) (request : BatchStatRequest)

/-- `BatchStat` of a request for `ps ++ qs` succeeds exactly when those for `ps`
and for `qs` both do, with their responses one after the other. -/
theorem batchStat_append_ok (ps qs : List String) (responses : List StatResponse) :
    d.batchStat tree maximumSymlinks { request with paths := ps ++ qs } = some (.ok responses) ↔
      ∃ responses₁ responses₂,
        d.batchStat tree maximumSymlinks { request with paths := ps } = some (.ok responses₁) ∧
        d.batchStat tree maximumSymlinks { request with paths := qs } = some (.ok responses₂) ∧
        responses = responses₁ ++ responses₂ := by
  unfold batchStat
  rcases d.getOutputPathAndBuildState request.buildId with _ | ⟨state, _ | buildState⟩
  · simp
  · by_cases hps : ps = [] <;> simp [hps, eq_comm]
  · exact batchStatPaths_append_ok tree maximumSymlinks state buildState _ _ ps qs responses

theorem batchStat_nil (responses : List StatResponse)
    (h : d.batchStat tree maximumSymlinks { request with paths := [] } = some (.ok responses)) :
    responses = [] := by
  revert h
  unfold batchStat
  rcases d.getOutputPathAndBuildState request.buildId with _ | ⟨state, _ | buildState⟩ <;>
    simp [batchStatPaths, eq_comm]

theorem batchStat_singleton (statPath : String) (responses : List StatResponse)
    (h : d.batchStat tree maximumSymlinks { request with paths := [statPath] } = some (.ok responses)) :
    ∃ response, responses = [response] := by
  revert h
  unfold batchStat
  rcases d.getOutputPathAndBuildState request.buildId with _ | ⟨state, _ | buildState⟩
  · simp
  · simp
  · simp only [batchStatPaths]
    rcases batchStatPath tree maximumSymlinks state buildState request.followSymlinks request.includeFileDigest
      statPath with _ | _ | response
    · simp
    · simp
    · intro h
      simp only [batchStatPaths, List.nil_append, Option.some.injEq, Except.ok.injEq] at h
      exact ⟨response, h.symm⟩

/-- For an active build, a path that does not exist gets the empty response. -/
theorem batchStat_enoent {state : Nat} {buildState : BuildState} {statPath : String}
    (hBuild : d.getOutputPathAndBuildState request.buildId = .ok (state, some buildState))
    (hMissing : (resolveStatPath tree maximumSymlinks state buildState request.followSymlinks
      request.includeFileDigest statPath).2 = some .enoent) :
    d.batchStat tree maximumSymlinks { request with paths := [statPath] } = some (.ok [⟨none⟩]) := by
  have hPath : batchStatPath tree maximumSymlinks state buildState request.followSymlinks
      request.includeFileDigest statPath = some (.ok ⟨none⟩) := by
    unfold batchStatPath
    rcases hResolve : resolveStatPath tree maximumSymlinks state buildState request.followSymlinks
      request.includeFileDigest statPath with ⟨r, error⟩
    rw [hResolve] at hMissing
    cases hMissing
    rfl
  simp [batchStat, hBuild, batchStatPaths, hPath]

end RemoteOutputServiceDirectory

/-- The law of `BatchStat` over its paths, for the registry `d`, the tree of its
output paths and the requests that differ from `request` only in their paths: a
request for `ps ++ qs` succeeds exactly when the requests for `ps` and for `qs`
both do, and then answers with their responses one after the other; a request
that succeeds answers each of its paths, in order, with the response that a
request for that path alone gets; and for an active build, a path that does not
exist gets the empty response. -/
def StatLaw (d : RemoteOutputServiceDirectory) (tree : StatTree) (maximumSymlinks : Nat)
    (request : BatchStatRequest) : Prop :=
  (∀ ps qs responses,
    d.batchStat tree maximumSymlinks { request with paths := ps ++ qs } = some (.ok responses) ↔
      ∃ responses₁ responses₂,
        d.batchStat tree maximumSymlinks { request with paths := ps } = some (.ok responses₁) ∧
        d.batchStat tree maximumSymlinks { request with paths := qs } = some (.ok responses₂) ∧
        responses = responses₁ ++ responses₂) ∧
  (∀ ps responses, d.batchStat tree maximumSymlinks { request with paths := ps } = some (.ok responses) →
    responses.length = ps.length ∧ ∀ (i : Nat) statPath, ps[i]? = some statPath →
      ∃ response, responses[i]? = some response ∧
        d.batchStat tree maximumSymlinks { request with paths := [statPath] } = some (.ok [response])) ∧
  (∀ state buildState statPath, d.getOutputPathAndBuildState request.buildId = .ok (state, some buildState) →
    (resolveStatPath tree maximumSymlinks state buildState request.followSymlinks
      request.includeFileDigest statPath).2 = some .enoent →
    d.batchStat tree maximumSymlinks { request with paths := [statPath] } = some (.ok [⟨none⟩]))

namespace RemoteOutputServiceDirectory

/-- Every `BatchStat`, on every registry, tree and request, follows the law of
its paths. -/
theorem batchStat_concat (d : RemoteOutputServiceDirectory) (tree : StatTree) (maximumSymlinks : Nat)
    (request : BatchStatRequest) : StatLaw d tree maximumSymlinks request := by
  have hSplit := d.batchStat_append_ok tree maximumSymlinks request
  refine ⟨hSplit, ?_, fun _ _ _ hBuild hMissing => d.batchStat_enoent tree maximumSymlinks request hBuild hMissing⟩
  exact @responses_of_split (fun paths => d.batchStat tree maximumSymlinks { request with paths := paths })
    hSplit (d.batchStat_nil tree maximumSymlinks request) (d.batchStat_singleton tree maximumSymlinks request)

end RemoteOutputServiceDirectory

namespace System

open RemoteOutputServiceDirectory

/-- In every reachable state, `BatchStat` of an active build is the loop over its
paths on the root directory of the base the build is active on, with that
build's state; of any other build it fails with `FailedPrecondition`. -/
theorem batchStat_eq {s : System} (hs : s.Reachable) (tree : StatTree) (maximumSymlinks : Nat)
    (request : BatchStatRequest) :
    (s.directory.sessions.Active request.buildId →
      ∃ ob state buildState, s.directory.outputBaseIDs.lookup ob = some state ∧
        s.directory.sessions ob = some (some request.buildId) ∧ buildState.id = request.buildId ∧
        s.directory.batchStat tree maximumSymlinks request =
          batchStatPaths tree maximumSymlinks state buildState request.followSymlinks request.includeFileDigest
            request.paths []) ∧
    (¬s.directory.sessions.Active request.buildId →
      s.directory.batchStat tree maximumSymlinks request =
        some (.error ⟨.failedPrecondition, "Build ID is not associated with any running build"⟩)) := by
  obtain ⟨l, hw⟩ := hs.wellFormed
  refine ⟨fun hActive => ?_, fun hNot => by
    simp [batchStat, getOutputPathAndBuildState_of_not_active hw hNot]⟩
  obtain ⟨⟨state, buildState⟩, hGet⟩ := (hw.getOutputPathAndBuildState_ok_iff request.buildId).mpr hActive
  obtain ⟨ob, b, hLookup, hSession, rfl, hId⟩ := hw.getOutputPathAndBuildState_eq hGet
  exact ⟨ob, state, b, hLookup, hSession, hId, by simp [batchStat, hGet]⟩

end System

end RemoteOutputService
