import RemoteOutputService.Filter.Model

/-! How a run of `filterMissingChildren` fails. The callback and the flushes
inside it share `savedErr`; the callback returns false as soon as it sets an
error, and `FilterChildren` then stops. So the first failed call is the last
call of the run, and its error, wrapped, is what the run returns.

Each piece of the run is described by the calls it appends and the error it
ends with (`Records`), and the pieces compose. -/
namespace RemoteOutputService

/-- Whether a call failed: `GetContainingDigests` with another code than
`NotFound`, a remover, or `FindMissing`. -/
def Call.failed : Call → Bool
  | .getContainingDigests _ (.ok _) => false
  | .getContainingDigests _ (.error err) => err.code != .notFound
  | .remove _ result => result.isSome
  | .findMissing _ (.ok _) => false
  | .findMissing _ (.error _) => true

/-- No call of `calls` failed. -/
def Succeeded (calls : List Call) : Prop :=
  ∀ call ∈ calls, call.failed = false

/-- The calls a piece of a run made, next to the error it returns: on success
no call failed; on an error the last call failed and no other did. -/
def Outcome (calls : List Call) : Option Status → Prop
  | none => Succeeded calls
  | some _ => ∃ pre call, calls = pre ++ [call] ∧ Succeeded pre ∧ call.failed = true

/-- A piece of a run took the calls from `calls` to `calls'` and returned `result`. -/
def Records (calls calls' : List Call) (result : Option Status) : Prop :=
  ∃ made, calls' = calls ++ made ∧ Outcome made result

section Outcome

variable {calls calls' calls'' : List Call} {result : Option Status}

theorem Succeeded.append {made : List Call} (h : Succeeded calls) (h' : Succeeded made) :
    Succeeded (calls ++ made) :=
  List.forall_mem_append.mpr ⟨h, h'⟩

theorem Outcome.append_left {made : List Call} (h : Succeeded calls) (h' : Outcome made result) :
    Outcome (calls ++ made) result := by
  cases result with
  | none => exact h.append h'
  | some _ =>
    obtain ⟨pre, call, rfl, hPre, hCall⟩ := h'
    exact ⟨calls ++ pre, call, (List.append_assoc _ _ _).symm, h.append hPre, hCall⟩

/-- Only the last call of a piece can have failed. -/
theorem Outcome.dropLast (h : Outcome calls result) : Succeeded calls.dropLast := by
  cases result with
  | none => exact fun call hc => h call (List.dropLast_subset _ hc)
  | some _ =>
    obtain ⟨pre, call, rfl, hPre, -⟩ := h
    rwa [List.dropLast_concat]

/-- A piece returns no error exactly when none of its calls failed. -/
theorem Outcome.eq_none_iff (h : Outcome calls result) : result = none ↔ Succeeded calls := by
  cases result with
  | none => exact iff_of_true rfl h
  | some _ =>
    obtain ⟨pre, call, rfl, -, hCall⟩ := h
    exact iff_of_false (Option.some_ne_none _) fun hs => by
      rw [hs call (List.mem_append_right _ (List.mem_singleton_self _))] at hCall
      cases hCall

theorem Records.refl (calls : List Call) : Records calls calls none :=
  ⟨[], (List.append_nil _).symm, fun _ h => absurd h (List.not_mem_nil _)⟩

theorem Records.failed {call : Call} (hCall : call.failed = true) (err : Status) :
    Records calls (calls ++ [call]) (some err) :=
  ⟨[call], rfl, [], call, rfl, fun _ h => absurd h (List.not_mem_nil _), hCall⟩

theorem Records.succeeded {call : Call} (hCall : call.failed = false) :
    Records calls (calls ++ [call]) none :=
  ⟨[call], rfl, fun _ h => (List.mem_singleton.mp h) ▸ hCall⟩

theorem Records.trans (h : Records calls calls' none) (h' : Records calls' calls'' result) :
    Records calls calls'' result := by
  obtain ⟨made, rfl, hMade⟩ := h
  obtain ⟨made', rfl, hMade'⟩ := h'
  exact ⟨made ++ made', List.append_assoc _ _ _, hMade'.append_left hMade⟩

end Outcome

section Pieces

variable (c : Collaborators) (batchSize : Nat) (digestFunction : DigestFunction)

theorem removeEach_records (digest : Digest) :
    ∀ calls nodes, Records calls (removeEach c digest calls nodes).1 (removeEach c digest calls nodes).2
  | calls, [] => Records.refl calls
  | calls, node :: nodes => by
    unfold removeEach
    cases c.remove calls node with
    | some err => exact Records.failed (by rfl) _
    | none => exact (Records.succeeded (by rfl)).trans (removeEach_records digest _ nodes)

theorem removeMissing_records (batch : GoMap Digest (List Nat)) :
    ∀ calls missing,
      Records calls (removeMissing c batch calls missing).1 (removeMissing c batch calls missing).2
  | calls, [] => Records.refl calls
  | calls, digest :: missing => by
    have h := removeEach_records c digest calls ((batch.lookup digest).getD [])
    unfold removeMissing
    rcases hr : removeEach c digest calls ((batch.lookup digest).getD []) with ⟨calls', _ | err⟩ <;>
      rw [hr] at h
    · exact h.trans (removeMissing_records batch calls' missing)
    · exact h

theorem findMissingAndRemove_records (calls : List Call) (batch : GoMap Digest (List Nat)) :
    Records calls (findMissingAndRemove c calls batch).1 (findMissingAndRemove c calls batch).2 := by
  unfold findMissingAndRemove
  cases c.findMissing calls batch.keys with
  | error err => exact Records.failed (by rfl) _
  | ok missing => exact (Records.succeeded (by rfl)).trans (removeMissing_records c batch _ missing)

/-- What a callback step (a part of the callback, or all of it) does when run
with no saved error: it records its calls, and returns false exactly when it
saved an error. -/
def StepRecords (s : FilterState) (step : FilterState × Bool) : Prop :=
  Records s.calls step.1.calls step.1.savedErr ∧ (step.2 = true ↔ step.1.savedErr = none)

theorem enqueue_records (node : Nat) :
    ∀ digests (s : FilterState), s.savedErr = none →
      StepRecords s (enqueue c batchSize node digests s)
  | [], s, hs => ⟨hs ▸ Records.refl s.calls, iff_of_true rfl hs⟩
  | digest :: digests, s, hs => by
    unfold enqueue
    split
    · have h := findMissingAndRemove_records c s.calls s.queue
      rcases hr : findMissingAndRemove c s.calls s.queue with ⟨calls, _ | err⟩ <;> rw [hr] at h
      · obtain ⟨h', hb⟩ := enqueue_records node digests ⟨push ∅ digest node, none, calls⟩ rfl
        exact ⟨h.trans h', hb⟩
      · exact ⟨h, iff_of_false Bool.false_ne_true (Option.some_ne_none _)⟩
    · exact enqueue_records node digests { s with queue := push s.queue digest node } hs

theorem checkDigests_records (node : Nat) (digests : DigestSet) (s : FilterState)
    (hs : s.savedErr = none) :
    StepRecords s (checkDigests c batchSize digestFunction node digests s) := by
  unfold checkDigests
  split
  · cases c.remove s.calls node with
    | some err => exact ⟨Records.failed (by rfl) _, iff_of_false Bool.false_ne_true (Option.some_ne_none _)⟩
    | none => exact ⟨by rw [hs]; exact Records.succeeded (by rfl), iff_of_true rfl hs⟩
  · exact enqueue_records c batchSize node digests.items s hs

theorem visit_records (s : FilterState) (hs : s.savedErr = none) (node : Nat) (child : InitialNode) :
    StepRecords s (visit c batchSize digestFunction s node child) := by
  cases child with
  | leaf digests => exact checkDigests_records c batchSize digestFunction node digests s hs
  | directory result =>
    cases result with
    | ok digests =>
      obtain ⟨h, hb⟩ := checkDigests_records c batchSize digestFunction node digests
        { s with calls := s.calls ++ [.getContainingDigests node (.ok digests)], savedErr := none } rfl
      exact ⟨(Records.succeeded (by rfl)).trans h, hb⟩
    | error err =>
      dsimp only [visit]
      by_cases hCode : err.code = .notFound
      · rw [if_pos hCode]
        have hGet : Records s.calls (s.calls ++ [.getContainingDigests node (.error err)]) none :=
          Records.succeeded (by simp [Call.failed, hCode])
        cases c.remove (s.calls ++ [.getContainingDigests node (.error err)]) node with
        | some removeErr =>
          exact ⟨hGet.trans (Records.failed (by rfl) _), iff_of_false Bool.false_ne_true (Option.some_ne_none _)⟩
        | none => exact ⟨hGet.trans (Records.succeeded (by rfl)), iff_of_true rfl rfl⟩
      · rw [if_neg hCode]
        exact ⟨Records.failed (by simpa [Call.failed] using hCode) _,
          iff_of_false Bool.false_ne_true (Option.some_ne_none _)⟩

theorem filterChildren_records :
    ∀ (node : Nat) (children : List InitialNode) (s : FilterState), s.savedErr = none →
      Records s.calls (filterChildren (visit c batchSize digestFunction) node children s).calls
        (filterChildren (visit c batchSize digestFunction) node children s).savedErr
  | _, [], s, hs => hs ▸ Records.refl s.calls
  | node, child :: children, s, hs => by
    obtain ⟨h, hb⟩ := visit_records c batchSize digestFunction s hs node child
    unfold filterChildren
    rcases hv : visit c batchSize digestFunction s node child with ⟨s', _ | _⟩ <;>
      rw [hv] at h hb
    · exact h
    · have hs' := hb.mp rfl
      rw [hs'] at h
      exact h.trans (filterChildren_records (node + 1) children s' hs')

/-- The calls of a whole run end as one piece does, with the error of
`FilterChildren` itself, if any, taking precedence. -/
theorem filterMissingChildren_outcome (c : Collaborators) (batchSize : Nat)
    (digestFunction : DigestFunction) (children : List InitialNode) (filterChildrenErr : Option Status) :
    ∃ result, Outcome (filterMissingChildren c batchSize digestFunction children filterChildrenErr).1 result ∧
      (filterMissingChildren c batchSize digestFunction children filterChildrenErr).2 =
        filterChildrenErr.or result := by
  obtain ⟨made, hCalls, hOut⟩ := filterChildren_records c batchSize digestFunction 0 children ⟨∅, none, []⟩ rfl
  rw [List.nil_append] at hCalls
  unfold filterMissingChildren
  generalize filterChildren (visit c batchSize digestFunction) 0 children ⟨∅, none, []⟩ = s at hCalls hOut ⊢
  rw [← hCalls] at hOut
  cases filterChildrenErr with
  | some err => exact ⟨s.savedErr, hOut, rfl⟩
  | none =>
    cases hErr : s.savedErr with
    | some err =>
      rw [hErr] at hOut
      simp only [hErr]
      exact ⟨some err, hOut, rfl⟩
    | none =>
      rw [hErr] at hOut
      simp only [hErr]
      split
      · obtain ⟨made', hCalls', hOut'⟩ := findMissingAndRemove_records c s.calls s.queue
        exact ⟨_, hCalls' ▸ hOut'.append_left hOut, rfl⟩
      · exact ⟨none, hOut, rfl⟩

end Pieces

/-- A run of `filterMissingChildren` returns no error exactly when
`FilterChildren` returned none and no call failed: no `GetContainingDigests`
failed with another code than `NotFound`, and no remover and no `FindMissing`
failed. A failed call is the run's last call: after it no `FindMissing` request
is issued and no remover is called. -/
theorem filterMissingChildren_fails_last (c : Collaborators) (batchSize : Nat)
    (digestFunction : DigestFunction) (children : List InitialNode) (filterChildrenErr : Option Status) :
    ((filterMissingChildren c batchSize digestFunction children filterChildrenErr).2 = none ↔
      filterChildrenErr = none ∧ Succeeded (filterMissingChildren c batchSize digestFunction children filterChildrenErr).1) ∧
    ∀ pre call post, (filterMissingChildren c batchSize digestFunction children filterChildrenErr).1 =
      pre ++ call :: post → call.failed = true → post = [] := by
  obtain ⟨result, hOut, hRun⟩ := filterMissingChildren_outcome c batchSize digestFunction children filterChildrenErr
  refine ⟨?_, fun pre call post hEq hCall => ?_⟩
  · rw [hRun, ← hOut.eq_none_iff]
    cases filterChildrenErr <;> simp
  · have hDrop := hOut.dropLast
    rw [hEq] at hDrop
    cases post with
    | nil => rfl
    | cons next post =>
      have hMem : call ∈ (pre ++ call :: next :: post).dropLast := by
        rw [List.dropLast_append_cons]
        simp
      rw [hDrop call hMem] at hCall
      cases hCall

end RemoteOutputService
