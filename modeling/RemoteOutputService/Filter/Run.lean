import RemoteOutputService.Filter.Batches

/-! A successful run of `filterMissingChildren`, from the callback on one child
to the whole run: each callback that returns true is a `Queues` stretch, the
stretches compose along `FilterChildren`, and the final flush sends what is
left in the queue. -/
namespace RemoteOutputService

section Callback

variable (c : Collaborators) {batchSize : Nat} (hT : 0 < batchSize) (digestFunction : DigestFunction)
include hT

theorem enqueue_queues (node : Nat) :
    ∀ (digests : List Digest) (s s' : FilterState), s.savedErr = none → BatchBounded batchSize s.queue →
      enqueue c batchSize node digests s = (s', true) → Queues batchSize s s' (digests.map (node, ·)) []
  | [], s, _, hs, hq, h => by
    cases h
    exact Queues.refl hs hq
  | digest :: digests, s, s', hs, hq, h => by
    unfold enqueue at h
    split at h
    · rcases hr : findMissingAndRemove c s.calls s.queue with ⟨calls, _ | _⟩ <;> rw [hr] at h
      · have h₁ := Queues.flush c hT hq ‹_› hr digest node
        exact h₁.trans (enqueue_queues node digests _ s' h₁.1 h₁.2.1 h)
      · cases h
    · have h₁ := Queues.push hs hq (Nat.lt_of_not_le ‹_›) digest node
      exact h₁.trans (enqueue_queues node digests _ s' h₁.1 h₁.2.1 h)

theorem checkDigests_queues (node : Nat) (digests : DigestSet) {s s' : FilterState}
    (hs : s.savedErr = none) (hq : BatchBounded batchSize s.queue)
    (h : checkDigests c batchSize digestFunction node digests s = (s', true)) :
    Queues batchSize s s'
      (if digests.items.any (fun d => !d.usesDigestFunction digestFunction) then [] else digests.items.map (node, ·))
      (if digests.items.any (fun d => !d.usesDigestFunction digestFunction) then [node] else []) := by
  unfold checkDigests at h
  split at h
  · rename_i blobDigest hFind
    have hBad := List.find?_some hFind
    have hAny : digests.items.any (fun d => !d.usesDigestFunction digestFunction) = true :=
      List.any_eq_true.mpr ⟨blobDigest, List.mem_of_find?_eq_some hFind, hBad⟩
    rw [if_pos hAny, if_pos hAny]
    cases hr : c.remove s.calls node with
    | some _ => rw [hr] at h; cases h
    | none =>
      rw [hr] at h
      cases h
      exact Queues.remove hs hq node
  · rename_i hFind
    have hAny : ¬digests.items.any (fun d => !d.usesDigestFunction digestFunction) = true := by
      rw [List.any_eq_true]
      rintro ⟨d, hd, hb⟩
      exact List.find?_eq_none.mp hFind d hd hb
    rw [if_neg hAny, if_neg hAny]
    exact enqueue_queues c hT node digests.items s s' hs hq h

/-- A callback that returns true queued the child's pairs, removed the child if
it is dropped, and met a child whose closure is listed or `NotFound`. -/
theorem visit_queues {s s' : FilterState} (hs : s.savedErr = none) (hq : BatchBounded batchSize s.queue)
    (node : Nat) (child : InitialNode) (h : visit c batchSize digestFunction s node child = (s', true)) :
    Queues batchSize s s' (child.queued digestFunction node)
        (if child.dropped digestFunction then [node] else []) ∧
      (child.closure.isSome ∨ child.notFound = true) := by
  cases child with
  | leaf digests =>
    refine ⟨?_, .inl rfl⟩
    simpa [InitialNode.queued, InitialNode.dropped, InitialNode.usesOtherFunction, InitialNode.closure,
      InitialNode.notFound] using checkDigests_queues c hT digestFunction node digests hs hq h
  | directory result =>
    cases result with
    | ok digests =>
      refine ⟨?_, .inl rfl⟩
      have h₁ : Queues batchSize s _ [] [] := Queues.getContainingDigests hq node (.ok digests)
      have h₂ := checkDigests_queues c hT digestFunction node digests h₁.1 h₁.2.1 h
      simpa [InitialNode.queued, InitialNode.dropped, InitialNode.usesOtherFunction, InitialNode.closure,
        InitialNode.notFound] using h₁.trans h₂
    | error err =>
      dsimp only [visit] at h
      split at h
      · rename_i hCode
        refine ⟨?_, .inr (by simp [InitialNode.notFound, hCode])⟩
        cases hr : c.remove (s.calls ++ [.getContainingDigests node (.error err)]) node with
        | some _ => rw [hr] at h; cases h
        | none =>
          rw [hr] at h
          cases h
          have h₁ : Queues batchSize s _ [] [] := Queues.getContainingDigests hq node (.error err)
          simpa [InitialNode.queued, InitialNode.dropped, InitialNode.closure, InitialNode.notFound, hCode]
            using h₁.trans (Queues.remove h₁.1 h₁.2.1 node)
      · cases h

/-- When `FilterChildren` ends with no saved error, the callback returned true
on every child. -/
theorem filterChildren_queues :
    ∀ (node : Nat) (children : List InitialNode) (s : FilterState), s.savedErr = none →
      BatchBounded batchSize s.queue →
      (filterChildren (visit c batchSize digestFunction) node children s).savedErr = none →
      Queues batchSize s (filterChildren (visit c batchSize digestFunction) node children s)
          (queuedFrom digestFunction node children) (droppedFrom digestFunction node children) ∧
        ∀ child ∈ children, child.closure.isSome ∨ child.notFound = true
  | _, [], s, hs, hq, _ => ⟨Queues.refl hs hq, fun _ h => absurd h (List.not_mem_nil _)⟩
  | node, child :: children, s, hs, hq, hEnd => by
    have hStep := (visit_records c batchSize digestFunction s hs node child).2
    unfold filterChildren at hEnd ⊢
    rcases hv : visit c batchSize digestFunction s node child with ⟨s₁, _ | _⟩ <;> rw [hv] at hEnd hStep
    · exact absurd (hStep.mpr hEnd) Bool.false_ne_true
    · obtain ⟨h₁, hc₁⟩ := visit_queues c hT digestFunction hs hq node child hv
      obtain ⟨h₂, hc₂⟩ := filterChildren_queues (node + 1) children s₁ h₁.1 h₁.2.1 hEnd
      exact ⟨h₁.trans h₂, List.forall_mem_cons.mpr ⟨hc₁, hc₂⟩⟩

end Callback

/-- What the calls of a successful run show: every batch is non-empty and
bounded, all but the last are full, together they carry the pairs `queued`, and
the children removed are those at `dropped` and those reported missing. -/
def Batched (batchSize : Nat) (calls : List Call) (queued : List (Nat × Digest)) (dropped : List Nat) : Prop :=
  (∀ batch ∈ batches calls, 0 < batch.keys.length ∧ batch.keys.length ≤ batchSize ∧ Waiting batch) ∧
  (∀ batch ∈ (batches calls).dropLast, batch.keys.length = batchSize) ∧
  ((batches calls).flatMap pairs).Perm queued ∧
  ∀ node, Removed calls node ↔ node ∈ dropped ∨ ReportedMissing calls node

section Final

variable {batchSize : Nat} {s : FilterState} {queued : List (Nat × Digest)} {dropped : List Nat}

theorem Queues.batched_of_empty (hT : 0 < batchSize) (h : Queues batchSize ⟨∅, none, []⟩ s queued dropped)
    (hEmpty : s.queue.keys.length = 0) : Batched batchSize s.calls queued dropped := by
  obtain ⟨-, -, made, hCalls, hFull, hPerm, hRemoved⟩ := h
  rw [List.nil_append] at hCalls
  rw [hCalls]
  refine ⟨fun b hb => ?_, fun b hb => (hFull b (List.dropLast_subset _ hb)).1, ?_, hRemoved⟩
  · obtain ⟨hLen, hWaiting⟩ := hFull b hb
    exact ⟨hLen ▸ hT, hLen.le, hWaiting⟩
  · rw [pairs_eq_nil_of_keys (List.eq_nil_of_length_eq_zero hEmpty), List.append_nil] at hPerm
    simpa [pairs, AList.keys_empty] using hPerm

theorem Queues.batched_of_flush (c : Collaborators) (h : Queues batchSize ⟨∅, none, []⟩ s queued dropped)
    (hLen : 0 < s.queue.keys.length) {calls : List Call}
    (hFlush : findMissingAndRemove c s.calls s.queue = (calls, none)) :
    Batched batchSize calls queued dropped := by
  obtain ⟨-, hq, made, hCalls, hFull, hPerm, hRemoved⟩ := h
  rw [List.nil_append] at hCalls
  obtain ⟨missing, rfl⟩ := findMissingAndRemove_ok c hFlush
  have hBatches : batches (s.calls ++ .findMissing s.queue (.ok missing) :: removals s.queue missing) =
      batches made ++ [s.queue] := by
    rw [hCalls, ← List.singleton_append, batches_append, batches_append, batches_findMissing,
      batches_removals, List.append_nil]
  refine ⟨?_, ?_, ?_, fun node => ?_⟩
  · rw [hBatches]
    intro b hb
    rcases List.mem_append.mp hb with hb | hb
    · obtain ⟨hLen', hWaiting⟩ := hFull b hb
      exact ⟨hLen' ▸ hLen.trans_le hq.1, hLen'.le, hWaiting⟩
    · rw [List.mem_singleton.mp hb]
      exact ⟨hLen, hq⟩
  · rw [hBatches, List.dropLast_concat]
    exact fun b hb => (hFull b hb).1
  · rw [hBatches, List.flatMap_append, List.flatMap_cons, List.flatMap_nil, List.append_nil]
    simpa [pairs, AList.keys_empty] using hPerm
  · rw [removed_append, reportedMissing_append, flush_removed, hCalls, hRemoved]
    exact or_assoc

end Final

/-- A run that returns no error made no failed call, met only children whose
closure is listed or `NotFound`, and its calls are `Batched` with the pairs
queued for all children and the children dropped among them. -/
theorem filterMissingChildren_succeeds (c : Collaborators) {batchSize : Nat} (hT : 0 < batchSize)
    (digestFunction : DigestFunction) (children : List InitialNode) (filterChildrenErr : Option Status)
    (h : (filterMissingChildren c batchSize digestFunction children filterChildrenErr).2 = none) :
    Succeeded (filterMissingChildren c batchSize digestFunction children filterChildrenErr).1 ∧
      (∀ child ∈ children, child.closure.isSome ∨ child.notFound = true) ∧
      Batched batchSize (filterMissingChildren c batchSize digestFunction children filterChildrenErr).1
        (queuedFrom digestFunction 0 children) (droppedFrom digestFunction 0 children) := by
  obtain ⟨result, hOut, hRun⟩ := filterMissingChildren_outcome c batchSize digestFunction children filterChildrenErr
  have hNone : filterChildrenErr = none ∧ result = none := by
    rw [hRun] at h
    cases filterChildrenErr <;> simp_all
  obtain ⟨rfl, rfl⟩ := hNone
  refine ⟨hOut, ?_⟩
  clear hOut hRun
  unfold filterMissingChildren at h ⊢
  generalize hs : filterChildren (visit c batchSize digestFunction) 0 children ⟨∅, none, []⟩ = s at h ⊢
  cases hErr : s.savedErr with
  | some _ => simp [hErr] at h
  | none =>
    obtain ⟨hQueues, hListed⟩ := filterChildren_queues c hT digestFunction 0 children ⟨∅, none, []⟩ rfl
      ⟨Nat.zero_le _, waiting_empty⟩ (hs ▸ hErr)
    rw [hs] at hQueues
    refine ⟨hListed, ?_⟩
    simp only [hErr] at h ⊢
    by_cases hLen : 0 < s.queue.keys.length
    · rw [if_pos hLen] at h ⊢
      exact hQueues.batched_of_flush c hLen (Prod.ext rfl h)
    · rw [if_neg hLen] at h ⊢
      exact hQueues.batched_of_empty hT (Nat.eq_zero_of_not_pos hLen)

end RemoteOutputService
