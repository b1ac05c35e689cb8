import RemoteOutputService.Registry.Surface
import RemoteOutputService.Service.Builds

/-! `Clean` as one call, with no other call overlapping it. An invalid output
base ID is refused before anything else. For a registered output base, the
tree of its output path is emptied without the lock. Only if that succeeds
does the second critical section unregister the output base, after which the
kernel is told that the name is gone. A failure leaves the registry as it
was, with the output base still registered and its build still running. For
an output base without an output path since startup, `outputPathFactory.Clean`
removes whatever state the factory keeps for it.

The two critical sections with other calls between them are `cleanLookup` and
`cleanCommit` of the interleaving model. A call that succeeds leaves the
registry that those two reach run back to back, and then the output path is
gone from the root directory and the batches of the build that ran on it are
refused. -/
namespace RemoteOutputService

/-- The calls `Clean` makes outside the registry, with their outcomes. -/
inductive CleanCall
  | removeAllChildren (state : Nat) (result : Option Status)
  | notifyRemoval (outputBaseID : Component)
  | cleanOutputPath (outputBaseID : Component) (result : Option Status)

/-- The outcomes of those calls: `RemoveAllChildren` on the root directory of
the output path `state`, and `outputPathFactory.Clean`. -/
structure CleanCollaborators where
  removeAllChildren : Nat → Option Status
  cleanOutputPath : Component → Option Status

namespace RemoteOutputServiceDirectory

/-- `Clean`: the registry left behind, the calls made, and the error returned,
if any. -/
def cleanCall (d : RemoteOutputServiceDirectory) (c : CleanCollaborators) (outputBaseId : String) :
    RemoteOutputServiceDirectory × List CleanCall × Option Status :=
  match newComponent outputBaseId with
  | none => (d, [], some ⟨.invalidArgument, "Output base ID is not a valid filename"⟩)
  | some outputBaseID =>
    match d.cleanLookup outputBaseID with
    | some state =>
      match c.removeAllChildren state with
      | some err => (d, [.removeAllChildren state (some err)], some err)
      | none => (d.cleanCommit outputBaseID state,
          [.removeAllChildren state none, .notifyRemoval outputBaseID], none)
    | none =>
      (d, [.cleanOutputPath outputBaseID (c.cleanOutputPath outputBaseID)], c.cleanOutputPath outputBaseID)

variable {d : RemoteOutputServiceDirectory} {c : CleanCollaborators} {outputBaseId : String}

/-- A `Clean` call that fails leaves the registry as it was. -/
theorem cleanCall_error {err : Status} (h : (d.cleanCall c outputBaseId).2.2 = some err) :
    (d.cleanCall c outputBaseId).1 = d := by
  unfold cleanCall at h ⊢
  rcases hn : newComponent outputBaseId with _ | outputBaseID
  · rfl
  · rw [hn] at h
    dsimp only at h ⊢
    rcases hl : d.cleanLookup outputBaseID with _ | state
    · rfl
    · rw [hl] at h
      dsimp only at h ⊢
      rcases hr : c.removeAllChildren state with _ | e
      · rw [hr] at h
        cases h
      · rfl

/-- A `Clean` call that succeeds leaves the registry as the uninterleaved
`clean` of its output base does. -/
theorem cleanCall_ok (h : (d.cleanCall c outputBaseId).2.2 = none) :
    ∃ outputBaseID, newComponent outputBaseId = some outputBaseID ∧
      (d.cleanCall c outputBaseId).1 = d.clean outputBaseID := by
  unfold cleanCall at h ⊢
  rcases hn : newComponent outputBaseId with _ | outputBaseID
  · rw [hn] at h
    cases h
  · refine ⟨outputBaseID, rfl, ?_⟩
    rw [hn] at h
    unfold clean
    dsimp only at h ⊢
    rcases hl : d.cleanLookup outputBaseID with _ | state
    · rfl
    · rw [hl] at h
      dsimp only at h ⊢
      rcases hr : c.removeAllChildren state with _ | e
      · rfl
      · rw [hr] at h
        cases h

end RemoteOutputServiceDirectory

namespace System

open RemoteOutputServiceDirectory

/-- What a `Clean` of the output base `ob`, registered in `d` as `state` with
the build `buildId` running on it, leaves behind in `d'`: no name leads to
`state`, a full listing does not report `ob`, every batch of the build is
refused, and every other name finds what it found in `d`. -/
def CleanEndsBuild (d d' : RemoteOutputServiceDirectory) (ob : Component) (state : Nat) (buildId : String) :
    Prop :=
  (∀ name, d'.virtualLookup name ≠ some state) ∧
  (∀ entries, d'.virtualReadDir 0 (fun _ _ => true) = some entries → ob ∉ entries.map DirectoryEntry.name) ∧
  d'.BatchesRefused buildId ∧
  ∀ name, name ≠ ob → d'.virtualLookup name = d.virtualLookup name

/-- A `Clean` call that succeeds on an output base with a running build, with no
other call overlapping it, leaves the registry that the interleaving model
reaches by running its two critical sections back to back. There the output
path is gone from the root directory, the build's batches are refused, and the
other output bases are as they were. -/
theorem cleanCall_ends_build {s : System} (hs : s.Reachable) (c : CleanCollaborators)
    {outputBaseId : String} {ob : Component} {state : Nat} {buildId : String}
    (hob : newComponent outputBaseId = some ob) (hl : s.directory.outputBaseIDs.lookup ob = some state)
    (hSession : s.directory.sessions ob = some (some buildId))
    (hOk : (s.directory.cleanCall c outputBaseId).2.2 = none) :
    s.run [.cleanLookup ob, .cleanCommit ob state] =
        some ⟨(s.directory.cleanCall c outputBaseId).1, s.cleaning⟩ ∧
      CleanEndsBuild s.directory (s.directory.cleanCall c outputBaseId).1 ob state buildId := by
  obtain ⟨l, hw⟩ := hs.wellFormed
  obtain ⟨ob', hob', hCall⟩ := cleanCall_ok hOk
  obtain rfl := Option.some.inj (hob.symm.trans hob')
  have hClean : s.directory.clean ob = s.directory.cleanCommit ob state := by simp [clean, cleanLookup, hl]
  have hGone : (s.directory.cleanCommit ob state).outputBaseIDs.lookup ob = none :=
    hClean ▸ clean_lookup_self s.directory ob
  rw [hCall, hClean]
  have hRun : s.run [.cleanLookup ob, .cleanCommit ob state] =
      some ⟨s.directory.cleanCommit ob state, s.cleaning⟩ := hClean ▸ run_clean hl
  obtain ⟨l', hw'⟩ := (hs.run hRun).wellFormed
  refine ⟨hRun, hw.cleanCommit_lookup_ne hl, fun entries hEntries hMem => ?_,
    batchesRefused_of_not_active (hs.run hRun) fun hAfter => ?_, fun name hne => ?_⟩
  · -- a listed name is one `VirtualLookup` finds, and `ob` is no longer found
    obtain ⟨listed, hRead, -, hLookup, -⟩ := hw'.surfaceLaw
    rw [hRead, Option.some.injEq] at hEntries
    subst hEntries
    obtain ⟨entry, hEntry, hName⟩ := List.mem_map.mp hMem
    have hFound := (hLookup ob entry.directory).mpr ⟨entry, hEntry, hName, rfl⟩
    rw [virtualLookup, hGone] at hFound
    cases hFound
  · obtain ⟨st, hst⟩ := (hw'.active_iff _).mp hAfter
    rw [hw.cleanCommit_buildIDs hl hSession] at hst
    cases hst
  · simp [virtualLookup, cleanCommit_eq hl (hw.previous_ne ⟨ob, hl⟩), AList.lookup_erase_ne hne]

/-- `Clean` of `ob1` while `b1` runs on it, with a tree that empties and a
factory that cleans nothing. -/
theorem cleanCall_ends_build_of_b1 :
    let first := (newRemoteOutputServiceDirectory.startBuild ⟨"ob1", rfl⟩ "b1" ⟨"", 1⟩ ⟨"/o", []⟩).2
    let c : CleanCollaborators := ⟨fun _ => none, fun _ => none⟩
    (⟨first, []⟩ : System).Reachable ∧ newComponent "ob1" = some ⟨"ob1", rfl⟩ ∧
      first.outputBaseIDs.lookup ⟨"ob1", rfl⟩ = some 1 ∧ first.sessions ⟨"ob1", rfl⟩ = some (some "b1") ∧
      (first.cleanCall c "ob1").2.2 = none ∧
      (⟨first, []⟩ : System).run [.cleanLookup ⟨"ob1", rfl⟩, .cleanCommit ⟨"ob1", rfl⟩ 1] =
        some ⟨(first.cleanCall c "ob1").1, []⟩ ∧
      CleanEndsBuild first (first.cleanCall c "ob1").1 ⟨"ob1", rfl⟩ 1 "b1" := by
  intro first c
  have hs : (⟨first, []⟩ : System).Reachable := ⟨[.startBuild ⟨"ob1", rfl⟩ "b1" ⟨"", 1⟩ ⟨"/o", []⟩], rfl⟩
  exact ⟨hs, rfl, rfl, rfl, rfl, cleanCall_ends_build hs c rfl rfl rfl rfl⟩

end System

end RemoteOutputService
