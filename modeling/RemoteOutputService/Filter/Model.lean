import RemoteOutputService.Basic

/-! `filterMissingChildren`, which `StartBuild` runs on the output path before a
build starts: every child is checked against the Content Addressable Storage in
batches of `FindMissing` calls, and removed when a blob it needs is gone.

`FilterChildren` is modelled by the children it presents, in order, and the
error it returns, if any; the callback runs on each child in turn until it
returns false. The outcome of every other collaborator call (`FindMissing`, a
child's remover) is a function of the calls made before it, so results about
the model hold for every behaviour of the storage and of the tree. A run is
recorded as the list of these calls; a child's remover is named by the child's
position. The batch bound `batchSize` is `blobstore.RecommendedFindMissingDigestsCount`. -/
namespace RemoteOutputService

/-- A child that `FilterChildren` presents: a leaf with the digests it
contains, or a directory with what its `GetContainingDigests` returns. -/
inductive InitialNode
  | leaf (digests : DigestSet)
  | directory (digests : Except Status DigestSet)

/-- A collaborator call of a run, with its outcome. A `FindMissing` call is
recorded with the batch it was made for: its request is the batch's digests. -/
inductive Call
  | getContainingDigests (node : Nat) (result : Except Status DigestSet)
  | remove (node : Nat) (result : Option Status)
  | findMissing (batch : GoMap Digest (List Nat)) (result : Except Status (List Digest))

/-- The behaviour of the storage and of the removers: the outcome of each call,
given the calls made before it. -/
structure Collaborators where
  findMissing : List Call → List Digest → Except Status (List Digest)
  remove : List Call → Nat → Option Status

/-- The variables of `filterMissingChildren` that outlive one callback, and the
calls made so far. -/
structure FilterState where
  queue : GoMap Digest (List Nat)
  savedErr : Option Status
  calls : List Call

/-- `for _, removeFunc := range queue[digest]` in `findMissingAndRemove`: call
the removers in turn until one fails. -/
def removeEach (c : Collaborators) (digest : Digest) : List Call → List Nat → List Call × Option Status
  | calls, [] => (calls, none)
  | calls, node :: nodes =>
    match c.remove calls node with
    | some err => (calls ++ [.remove node (some err)],
        some (err.wrap ("Failed to remove file with digest " ++ goQuote digest.string)))
    | none => removeEach c digest (calls ++ [.remove node none]) nodes

/-- `for _, digest := range missing.Items()` in `findMissingAndRemove`. -/
def removeMissing (c : Collaborators) (batch : GoMap Digest (List Nat)) :
    List Call → List Digest → List Call × Option Status
  | calls, [] => (calls, none)
  | calls, digest :: missing =>
    match removeEach c digest calls ((batch.lookup digest).getD []) with
    | (calls, none) => removeMissing c batch calls missing
    | failed => failed

/-- `findMissingAndRemove`: ask which blobs of the batch are missing, then call
the removers of the children that wait for each of them. -/
def findMissingAndRemove (c : Collaborators) (calls : List Call) (batch : GoMap Digest (List Nat)) :
    List Call × Option Status :=
  match c.findMissing calls batch.keys with
  | .error err => (calls ++ [.findMissing batch (.error err)], some (err.wrap "Failed to find missing blobs"))
  | .ok missing => removeMissing c batch (calls ++ [.findMissing batch (.ok missing)]) missing

/-- `queue[blobDigest] = append(queue[blobDigest], removeFunc)`. -/
def push (queue : GoMap Digest (List Nat)) (digest : Digest) (node : Nat) : GoMap Digest (List Nat) :=
  queue.insert digest ((queue.lookup digest).getD [] ++ [node])

/-- The last loop of the callback: queue the child for each of its digests,
first flushing the batch when it already holds `batchSize` digests. -/
def enqueue (c : Collaborators) (batchSize node : Nat) : List Digest → FilterState → FilterState × Bool
  | [], s => (s, true)
  | digest :: digests, s =>
    if batchSize ≤ s.queue.keys.length then
      match findMissingAndRemove c s.calls s.queue with
      | (calls, some err) => ({ s with calls := calls, savedErr := some err }, false)
      | (calls, none) => enqueue c batchSize node digests ⟨push ∅ digest node, none, calls⟩
    else enqueue c batchSize node digests { s with queue := push s.queue digest node }

/-- The callback once the child's digests are known: remove the child if one of
them uses another digest function, else queue it for all of them. -/
def checkDigests (c : Collaborators) (batchSize : Nat) (digestFunction : DigestFunction)
    (node : Nat) (digests : DigestSet) (s : FilterState) : FilterState × Bool :=
  match digests.items.find? fun blobDigest => !blobDigest.usesDigestFunction digestFunction with
  | some blobDigest =>
    match c.remove s.calls node with
    | some err =>
      ({ s with calls := s.calls ++ [.remove node (some err)],
                savedErr := some (err.wrap ("Failed to remove file with different instance name or digest function with digest " ++
                  goQuote blobDigest.string)) }, false)
    | none => ({ s with calls := s.calls ++ [.remove node none] }, true)
  | none => enqueue c batchSize node digests.items s

/-- The callback passed to `FilterChildren`, for the child at position `node`.
A directory whose digests cannot be listed is removed when the error is
`NotFound`, and ends the run otherwise. -/
def visit (c : Collaborators) (batchSize : Nat) (digestFunction : DigestFunction)
    (s : FilterState) (node : Nat) : InitialNode → FilterState × Bool
  | .leaf digests => checkDigests c batchSize digestFunction node digests s
  | .directory (.ok digests) =>
    checkDigests c batchSize digestFunction node digests
      { s with calls := s.calls ++ [.getContainingDigests node (.ok digests)], savedErr := none }
  | .directory (.error err) =>
    if err.code = .notFound then
      let calls := s.calls ++ [.getContainingDigests node (.error err)]
      match c.remove calls node with
      | some removeErr =>
        ({ s with calls := calls ++ [.remove node (some removeErr)],
                  savedErr := some (removeErr.wrap "Failed to remove non-existent directory") }, false)
      | none => ({ s with calls := calls ++ [.remove node none], savedErr := none }, true)
    else ({ s with calls := s.calls ++ [.getContainingDigests node (.error err)], savedErr := some err }, false)

/-- `FilterChildren` as the callback sees it: the callback on each child in
turn until one returns false. -/
def filterChildren (callback : FilterState → Nat → InitialNode → FilterState × Bool) :
    Nat → List InitialNode → FilterState → FilterState
  | _, [], s => s
  | node, child :: children, s =>
    match callback s node child with
    | (s, true) => filterChildren callback (node + 1) children s
    | (s, false) => s

/-- `filterMissingChildren` over the children `FilterChildren` presents and the
error it returns itself, if any: the calls made and the error returned. -/
def filterMissingChildren (c : Collaborators) (batchSize : Nat) (digestFunction : DigestFunction)
    (children : List InitialNode) (filterChildrenErr : Option Status) : List Call × Option Status :=
  let s := filterChildren (visit c batchSize digestFunction) 0 children ⟨∅, none, []⟩
  match filterChildrenErr, s.savedErr with
  | some err, _ => (s.calls, some err)
  | none, some err => (s.calls, some err)
  | none, none =>
    if 0 < s.queue.keys.length then findMissingAndRemove c s.calls s.queue else (s.calls, none)

end RemoteOutputService
