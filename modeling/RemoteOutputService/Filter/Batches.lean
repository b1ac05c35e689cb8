import RemoteOutputService.Filter.Errors

/-! The batches of a successful run of `filterMissingChildren`. Every child
whose closure uses only the build's digest function is queued once for each
digest of its closure; a batch is flushed when a digest arrives while it holds
`batchSize` digests, and the last one after `FilterChildren` returns. So the
batches cut the sequence of queued (child, digest) pairs into pieces, all full
but the last.

A successful stretch of the callback is described by `Queues`: the pairs it
queued, the children it removed without asking the storage, and the batches it
flushed; stretches compose. -/
namespace RemoteOutputService

/-! ### What the specification speaks of -/

/-- The digests a child depends on, when `GetContainingDigests` yields them. -/
def InitialNode.closure : InitialNode → Option DigestSet
  | .leaf digests => some digests
  | .directory (.ok digests) => some digests
  | .directory (.error _) => none

/-- `GetContainingDigests` of a directory failed with `NotFound`. -/
def InitialNode.notFound : InitialNode → Bool
  | .directory (.error err) => err.code == .notFound
  | _ => false

/-- Some digest of the child's closure uses another digest function. -/
def InitialNode.usesOtherFunction (digestFunction : DigestFunction) (child : InitialNode) : Bool :=
  match child.closure with
  | some digests => digests.items.any fun blobDigest => !blobDigest.usesDigestFunction digestFunction
  | none => false

/-- The child is removed without asking the storage. -/
def InitialNode.dropped (digestFunction : DigestFunction) (child : InitialNode) : Bool :=
  child.notFound || child.usesOtherFunction digestFunction

/-- The (child, digest) pairs queued for the child at position `node`: one per
digest of its closure, unless the child is removed for its digest function. -/
def InitialNode.queued (digestFunction : DigestFunction) (node : Nat) (child : InitialNode) :
    List (Nat × Digest) :=
  match child.closure with
  | some digests => if child.usesOtherFunction digestFunction then [] else digests.items.map (node, ·)
  | none => []

/-- The pairs queued for the children from position `node` on. -/
def queuedFrom (digestFunction : DigestFunction) : Nat → List InitialNode → List (Nat × Digest)
  | _, [] => []
  | node, child :: children => child.queued digestFunction node ++ queuedFrom digestFunction (node + 1) children

/-- The positions, from `node` on, of the children removed without asking the storage. -/
def droppedFrom (digestFunction : DigestFunction) : Nat → List InitialNode → List Nat
  | _, [] => []
  | node, child :: children =>
    (if child.dropped digestFunction then [node] else []) ++ droppedFrom digestFunction (node + 1) children

/-- The batches of the `FindMissing` calls among `calls`, in order. -/
def batches (calls : List Call) : List (GoMap Digest (List Nat)) :=
  calls.filterMap fun
    | .findMissing batch _ => some batch
    | _ => none

/-- The children of a batch waiting for `digest`, as pairs. -/
def waitingPairs (batch : GoMap Digest (List Nat)) (digest : Digest) : List (Nat × Digest) :=
  ((batch.lookup digest).getD []).map (·, digest)

/-- The (child, digest) pairs a batch carries. -/
def pairs (batch : GoMap Digest (List Nat)) : List (Nat × Digest) :=
  batch.keys.flatMap (waitingPairs batch)

/-- Every digest of a batch has a child waiting for it. -/
def Waiting (batch : GoMap Digest (List Nat)) : Prop :=
  ∀ digest nodes, batch.lookup digest = some nodes → nodes ≠ []

/-- One of the child's removers was called. -/
def Removed (calls : List Call) (node : Nat) : Prop :=
  ∃ result, .remove node result ∈ calls

/-- A `FindMissing` call answered that a digest the child waits for in its batch is missing. -/
def ReportedMissing (calls : List Call) (node : Nat) : Prop :=
  ∃ batch missing digest, .findMissing batch (.ok missing) ∈ calls ∧ digest ∈ missing ∧
    node ∈ (batch.lookup digest).getD []

/-! ### Lemmas on the pieces -/

theorem InitialNode.queued_nodup (digestFunction : DigestFunction) (node : Nat) (child : InitialNode) :
    (child.queued digestFunction node).Nodup := by
  unfold InitialNode.queued
  split
  · split
    · exact List.nodup_nil
    · exact ‹DigestSet›.nodup.map fun _ _ h => (Prod.mk.inj h).2
  · exact List.nodup_nil

theorem InitialNode.fst_of_mem_queued {digestFunction : DigestFunction} {node : Nat} {child : InitialNode}
    {p : Nat × Digest} (hp : p ∈ child.queued digestFunction node) : p.1 = node := by
  unfold InitialNode.queued at hp
  split at hp
  · split at hp
    · exact absurd hp (List.not_mem_nil _)
    · obtain ⟨_, -, rfl⟩ := List.mem_map.mp hp
      rfl
  · exact absurd hp (List.not_mem_nil _)

theorem le_of_mem_queuedFrom {digestFunction : DigestFunction} :
    ∀ {node : Nat} {children : List InitialNode} {p : Nat × Digest},
      p ∈ queuedFrom digestFunction node children → node ≤ p.1
  | _, [], _, hp => absurd hp (List.not_mem_nil _)
  | _, _ :: _, _, hp => by
    rcases List.mem_append.mp hp with hp | hp
    · exact (InitialNode.fst_of_mem_queued hp).ge
    · exact Nat.le_of_succ_le (le_of_mem_queuedFrom hp)

/-- No pair is queued twice: children have distinct positions, and a closure
has distinct digests. -/
theorem queuedFrom_nodup (digestFunction : DigestFunction) :
    ∀ node children, (queuedFrom digestFunction node children).Nodup
  | _, [] => List.nodup_nil
  | node, child :: children => by
    refine List.nodup_append.mpr ⟨child.queued_nodup digestFunction node,
      queuedFrom_nodup digestFunction (node + 1) children, fun p hp hq => ?_⟩
    have h₁ := InitialNode.fst_of_mem_queued hp
    have h₂ := le_of_mem_queuedFrom hq
    omega

@[simp] theorem batches_nil : batches [] = [] := rfl

@[simp] theorem batches_append (calls calls' : List Call) :
    batches (calls ++ calls') = batches calls ++ batches calls' :=
  List.filterMap_append _ _ _

@[simp] theorem batches_findMissing (batch : GoMap Digest (List Nat)) (result : Except Status (List Digest)) :
    batches [.findMissing batch result] = [batch] := rfl

@[simp] theorem batches_remove (node : Nat) (result : Option Status) :
    batches [.remove node result] = [] := rfl

@[simp] theorem batches_getContainingDigests (node : Nat) (result : Except Status DigestSet) :
    batches [.getContainingDigests node result] = [] := rfl

theorem removed_append {calls calls' : List Call} {node : Nat} :
    Removed (calls ++ calls') node ↔ Removed calls node ∨ Removed calls' node := by
  simp only [Removed, List.mem_append, exists_or]

theorem reportedMissing_append {calls calls' : List Call} {node : Nat} :
    ReportedMissing (calls ++ calls') node ↔ ReportedMissing calls node ∨ ReportedMissing calls' node := by
  simp only [ReportedMissing, List.mem_append]
  constructor
  · rintro ⟨b, m, d, h | h, hd, hn⟩
    · exact .inl ⟨b, m, d, h, hd, hn⟩
    · exact .inr ⟨b, m, d, h, hd, hn⟩
  · rintro (⟨b, m, d, h, hd, hn⟩ | ⟨b, m, d, h, hd, hn⟩)
    · exact ⟨b, m, d, .inl h, hd, hn⟩
    · exact ⟨b, m, d, .inr h, hd, hn⟩

theorem mem_pairs {batch : GoMap Digest (List Nat)} {node : Nat} {digest : Digest} :
    (node, digest) ∈ pairs batch ↔ node ∈ (batch.lookup digest).getD [] := by
  simp only [pairs, waitingPairs, List.mem_flatMap, List.mem_map, Prod.mk.injEq]
  constructor
  · rintro ⟨d, -, _, hn, rfl, rfl⟩
    exact hn
  · intro hn
    refine ⟨digest, ?_, node, hn, rfl, rfl⟩
    cases hl : batch.lookup digest with
    | none => rw [hl] at hn; exact absurd hn (List.not_mem_nil _)
    | some _ => exact AList.mem_keys.mp (AList.lookup_isSome.mp (by rw [hl]; rfl))

theorem pairs_eq_nil_of_keys {batch : GoMap Digest (List Nat)} (h : batch.keys = []) : pairs batch = [] := by
  rw [pairs, h, List.flatMap_nil]

theorem pairs_perm_erase (batch : GoMap Digest (List Nat)) (digest : Digest) :
    (pairs batch).Perm (waitingPairs batch digest ++ (batch.keys.erase digest).flatMap (waitingPairs batch)) := by
  by_cases h : digest ∈ batch.keys
  · rw [← List.flatMap_cons]
    exact (List.perm_cons_erase h).flatMap_right _
  · rw [List.erase_of_not_mem h, waitingPairs,
      AList.lookup_eq_none.mpr fun hm => h (AList.mem_keys.mp hm)]
    rfl

/-- Queuing a child for a digest adds that one pair to the batch. -/
theorem pairs_push (queue : GoMap Digest (List Nat)) (digest : Digest) (node : Nat) :
    (pairs (push queue digest node)).Perm (pairs queue ++ [(node, digest)]) := by
  have hKeys : (push queue digest node).keys = digest :: queue.keys.erase digest := AList.keys_insert _
  have hHead : waitingPairs (push queue digest node) digest = waitingPairs queue digest ++ [(node, digest)] := by
    simp [waitingPairs, push, AList.lookup_insert]
  have hRest : (queue.keys.erase digest).flatMap (waitingPairs (push queue digest node)) =
      (queue.keys.erase digest).flatMap (waitingPairs queue) :=
    List.flatMap_congr fun d hd => by
      rw [waitingPairs, waitingPairs, push, AList.lookup_insert_ne (queue.keys_nodup.mem_erase_iff.mp hd).1]
  rw [pairs, hKeys, List.flatMap_cons, hHead, hRest, List.append_assoc]
  refine ((List.perm_append_comm.append_left _).trans ?_)
  rw [← List.append_assoc]
  exact (pairs_perm_erase queue digest).symm.append_right _

theorem keys_length_push (queue : GoMap Digest (List Nat)) (digest : Digest) (node : Nat) :
    (push queue digest node).keys.length ≤ queue.keys.length + 1 := by
  rw [push, AList.keys_insert, List.length_cons]
  exact Nat.succ_le_succ (List.length_erase_le _ _)

theorem Waiting.push {queue : GoMap Digest (List Nat)} (h : Waiting queue) (digest : Digest) (node : Nat) :
    Waiting (push queue digest node) := by
  intro d nodes hd
  by_cases he : d = digest
  · subst he
    rw [RemoteOutputService.push, AList.lookup_insert] at hd
    cases hd
    simp
  · rw [RemoteOutputService.push, AList.lookup_insert_ne he] at hd
    exact h d nodes hd

theorem waiting_empty : Waiting (∅ : GoMap Digest (List Nat)) := fun d nodes hd => by
  rw [AList.lookup_empty] at hd; cases hd

section Flush

variable (c : Collaborators)

theorem removeEach_ok (digest : Digest) :
    ∀ {calls calls' : List Call} {nodes : List Nat}, removeEach c digest calls nodes = (calls', none) →
      calls' = calls ++ nodes.map (Call.remove · none)
  | _, _, [], h => by cases h; simp
  | calls, _, node :: nodes, h => by
    unfold removeEach at h
    cases hr : c.remove calls node with
    | some _ => rw [hr] at h; cases h
    | none =>
      rw [hr] at h
      simp [removeEach_ok digest h]

/-- The removers called by a successful `findMissingAndRemove` for the missing
digests `missing`: all children waiting for each, in order. -/
def removals (batch : GoMap Digest (List Nat)) (missing : List Digest) : List Call :=
  missing.flatMap fun digest => ((batch.lookup digest).getD []).map (Call.remove · none)

theorem removeMissing_ok (batch : GoMap Digest (List Nat)) :
    ∀ {calls calls' : List Call} {missing : List Digest}, removeMissing c batch calls missing = (calls', none) →
      calls' = calls ++ removals batch missing
  | _, _, [], h => by cases h; simp [removals]
  | calls, _, digest :: missing, h => by
    unfold removeMissing at h
    rcases hr : removeEach c digest calls ((batch.lookup digest).getD []) with ⟨calls₁, _ | _⟩ <;>
      rw [hr] at h
    · rw [removeMissing_ok batch h, removeEach_ok c digest hr]
      simp [removals]
    · cases h

theorem findMissingAndRemove_ok {calls calls' : List Call} {batch : GoMap Digest (List Nat)}
    (h : findMissingAndRemove c calls batch = (calls', none)) :
    ∃ missing, calls' = calls ++ .findMissing batch (.ok missing) :: removals batch missing := by
  unfold findMissingAndRemove at h
  cases hr : c.findMissing calls batch.keys with
  | error _ => rw [hr] at h; cases h
  | ok missing =>
    rw [hr] at h
    exact ⟨missing, by simp [removeMissing_ok c batch h]⟩

@[simp] theorem batches_removals (batch : GoMap Digest (List Nat)) (missing : List Digest) :
    batches (removals batch missing) = [] := by
  simp [batches, removals, List.filterMap_flatMap, List.filterMap_map, Function.comp_def]

theorem removed_removals {batch : GoMap Digest (List Nat)} {missing : List Digest} {node : Nat} :
    Removed (removals batch missing) node ↔ ∃ digest ∈ missing, node ∈ (batch.lookup digest).getD [] := by
  simp only [Removed, removals, List.mem_flatMap, List.mem_map, Call.remove.injEq]
  constructor
  · rintro ⟨_, d, hd, n, hn, rfl, -⟩
    exact ⟨d, hd, hn⟩
  · rintro ⟨d, hd, hn⟩
    exact ⟨none, d, hd, node, hn, rfl, rfl⟩

theorem not_reportedMissing_removals (batch : GoMap Digest (List Nat)) (missing : List Digest) (node : Nat) :
    ¬ReportedMissing (removals batch missing) node := by
  rintro ⟨_, _, _, h, -⟩
  simp [removals] at h

/-- The calls of a successful flush: the batch is reported, and exactly the
children waiting for a missing digest are removed. -/
theorem flush_removed {batch : GoMap Digest (List Nat)} {missing : List Digest}
    {node : Nat} :
    Removed (.findMissing batch (.ok missing) :: removals batch missing) node ↔
      ReportedMissing (.findMissing batch (.ok missing) :: removals batch missing) node := by
  rw [← List.singleton_append, removed_append, reportedMissing_append, removed_removals]
  simp only [Removed, List.mem_singleton, reduceCtorEq, exists_false, false_or]
  constructor
  · rintro ⟨digest, hd, hn⟩
    exact .inl ⟨batch, missing, digest, List.mem_singleton_self _, hd, hn⟩
  · rintro (⟨b, m, d, h, hd, hn⟩ | h)
    · cases List.mem_singleton.mp h
      exact ⟨d, hd, hn⟩
    · exact absurd h (not_reportedMissing_removals _ _ _)

end Flush

/-! ### Successful stretches of the callback -/

/-- The queue holds at most `batchSize` digests, each with a waiting child. -/
def BatchBounded (batchSize : Nat) (queue : GoMap Digest (List Nat)) : Prop :=
  queue.keys.length ≤ batchSize ∧ Waiting queue

/-- A successful stretch of the run from `s` to `s'` that queued the pairs
`queued` and removed the children at `dropped` without asking the storage:
no error is saved, the queue stays bounded, every batch flushed was full, the
pairs flushed or still queued are those queued before and `queued`, and the
children removed are those at `dropped` and those reported missing. -/
def Queues (batchSize : Nat) (s s' : FilterState) (queued : List (Nat × Digest)) (dropped : List Nat) : Prop :=
  s'.savedErr = none ∧ BatchBounded batchSize s'.queue ∧ ∃ made, s'.calls = s.calls ++ made ∧
    (∀ batch ∈ batches made, batch.keys.length = batchSize ∧ Waiting batch) ∧
    ((batches made).flatMap pairs ++ pairs s'.queue).Perm (pairs s.queue ++ queued) ∧
    ∀ node, Removed made node ↔ node ∈ dropped ∨ ReportedMissing made node

section Queues

variable {batchSize : Nat} {s s₁ s₂ : FilterState} {queued queued' : List (Nat × Digest)}
  {dropped dropped' : List Nat}

theorem Queues.refl (hs : s.savedErr = none) (hq : BatchBounded batchSize s.queue) :
    Queues batchSize s s [] [] :=
  ⟨hs, hq, [], (List.append_nil _).symm, by simp, by simp, by simp [Removed, ReportedMissing]⟩

theorem Queues.trans (h : Queues batchSize s s₁ queued dropped) (h' : Queues batchSize s₁ s₂ queued' dropped') :
    Queues batchSize s s₂ (queued ++ queued') (dropped ++ dropped') := by
  obtain ⟨-, -, made, hCalls, hFull, hPerm, hRemoved⟩ := h
  obtain ⟨hs, hq, made', hCalls', hFull', hPerm', hRemoved'⟩ := h'
  refine ⟨hs, hq, made ++ made', by rw [hCalls', hCalls, List.append_assoc], ?_, ?_, fun node => ?_⟩
  · rw [batches_append]
    exact List.forall_mem_append.mpr ⟨hFull, hFull'⟩
  · rw [batches_append, List.flatMap_append, List.append_assoc, ← List.append_assoc (pairs s.queue)]
    exact (hPerm'.append_left _).trans (by rw [← List.append_assoc]; exact hPerm.append_right _)
  · rw [removed_append, hRemoved, hRemoved', reportedMissing_append, List.mem_append]
    exact or_or_or_comm

/-- A `GetContainingDigests` call, after which `savedErr` holds its (nil) error. -/
theorem Queues.getContainingDigests (hq : BatchBounded batchSize s.queue) (node : Nat)
    (result : Except Status DigestSet) :
    Queues batchSize s { s with calls := s.calls ++ [.getContainingDigests node result], savedErr := none } [] [] :=
  ⟨rfl, hq, _, rfl, by simp, by simp, by simp [Removed, ReportedMissing]⟩

theorem Queues.remove (hs : s.savedErr = none) (hq : BatchBounded batchSize s.queue) (node : Nat) :
    Queues batchSize s { s with calls := s.calls ++ [.remove node none] } [] [node] :=
  ⟨hs, hq, _, rfl, by simp, by simp, by simp [Removed, ReportedMissing]⟩

theorem Queues.push (hs : s.savedErr = none) (hq : BatchBounded batchSize s.queue)
    (hLt : s.queue.keys.length < batchSize) (digest : Digest) (node : Nat) :
    Queues batchSize s { s with queue := push s.queue digest node } [(node, digest)] [] :=
  ⟨hs, ⟨(keys_length_push _ _ _).trans hLt, hq.2.push digest node⟩, [], (List.append_nil _).symm,
    by simp, by simpa using pairs_push s.queue digest node, by simp [Removed, ReportedMissing]⟩

theorem Queues.flush (c : Collaborators) (hT : 0 < batchSize) (hq : BatchBounded batchSize s.queue)
    (hFull : batchSize ≤ s.queue.keys.length) {calls : List Call}
    (h : findMissingAndRemove c s.calls s.queue = (calls, none)) (digest : Digest) (node : Nat) :
    Queues batchSize s ⟨RemoteOutputService.push ∅ digest node, none, calls⟩ [(node, digest)] [] := by
  obtain ⟨missing, rfl⟩ := findMissingAndRemove_ok c h
  have hBatches : batches (.findMissing s.queue (.ok missing) :: removals s.queue missing) = [s.queue] := by
    rw [← List.singleton_append, batches_append, batches_findMissing, batches_removals, List.append_nil]
  refine ⟨rfl, ⟨(keys_length_push _ _ _).trans (by simpa using hT), waiting_empty.push digest node⟩, _, rfl,
    ?_, ?_, fun n => by rw [flush_removed]; simp⟩
  · rw [hBatches]
    rintro _ hb
    rw [List.mem_singleton.mp hb]
    exact ⟨le_antisymm hq.1 hFull, hq.2⟩
  · rw [hBatches, List.flatMap_cons, List.flatMap_nil, List.append_nil]
    refine ((pairs_push ∅ digest node).append_left _).trans ?_
    simp [pairs, AList.keys_empty]

end Queues

end RemoteOutputService
