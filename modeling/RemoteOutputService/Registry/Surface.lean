import RemoteOutputService.Registry.ReadDir

/-! The root directory as the kernel sees it: its attributes, lookups, opens
and listings. `VirtualOpenChild` answers through two helpers of the virtual
file system package for read-only directories, modelled by the status they
return: a name that exists is a directory (or, for an exclusive create, a name
that exists), any other is absent (or, for a create, on a read-only file
system). The directory holds no files, so no call opens one.

In every reachable registry the four operations agree: a full listing reports
each registered output base once, `VirtualLookup` finds exactly the names it
reports with the directories it reports, `VirtualOpenChild` treats exactly
those names as existing, and the link count counts them. -/
namespace RemoteOutputService

namespace RemoteOutputServiceDirectory

/-- The `virtual.Status` values `VirtualOpenChild` returns; none comes with a
leaf. -/
inductive OpenChildStatus
  | errExist
  | errIsDir
  | errNoEnt
  | errROFS
  deriving DecidableEq

/-- `virtual.ReadOnlyDirectoryOpenChildWrongFileType`: without options for
opening an existing file the call was an exclusive create, and fails with
`EEXIST`. -/
def readOnlyDirectoryOpenChildWrongFileType (existingOptions : Bool) (s : OpenChildStatus) :
    OpenChildStatus :=
  if existingOptions then s else .errExist

/-- `virtual.ReadOnlyDirectoryOpenChildDoesntExist`: a create fails with
`EROFS`, an open with `ENOENT`. -/
def readOnlyDirectoryOpenChildDoesntExist (createAttributes : Bool) : OpenChildStatus :=
  if createAttributes then .errROFS else .errNoEnt

/-- `VirtualOpenChild`, with `createAttributes` and `existingOptions` given by
whether they are non-nil. -/
def virtualOpenChild (d : RemoteOutputServiceDirectory) (name : Component)
    (createAttributes existingOptions : Bool) : OpenChildStatus :=
  match d.outputBaseIDs.lookup name with
  | some _ => readOnlyDirectoryOpenChildWrongFileType existingOptions .errIsDir
  | none => readOnlyDirectoryOpenChildDoesntExist createAttributes

/-- `VirtualOpenChild` reports a name as existing exactly when `VirtualLookup`
finds it. -/
theorem virtualOpenChild_exists_iff (d : RemoteOutputServiceDirectory) (name : Component)
    (createAttributes existingOptions : Bool) :
    (d.virtualOpenChild name createAttributes existingOptions = .errIsDir ∨
      d.virtualOpenChild name createAttributes existingOptions = .errExist) ↔
      (d.virtualLookup name).isSome := by
  unfold virtualOpenChild virtualLookup readOnlyDirectoryOpenChildWrongFileType
    readOnlyDirectoryOpenChildDoesntExist
  split <;> rename_i h <;> simp only [h] <;> split <;> simp

/-- The agreement of the root directory's operations in `d`. A full listing
(from cookie 0, every entry accepted) reports each registered output base once;
`VirtualLookup` finds exactly the names it reports, with the directories it
reports; `VirtualOpenChild` reports exactly those names as existing; and
`VirtualGetAttributes` counts one link per reported entry on top of an empty
directory's. -/
def SurfaceLaw (d : RemoteOutputServiceDirectory) : Prop :=
  ∃ entries, d.virtualReadDir 0 (fun _ _ => true) = some entries ∧
    (entries.map DirectoryEntry.name).Nodup ∧
    (∀ name child, d.virtualLookup name = some child ↔
      ∃ entry ∈ entries, entry.name = name ∧ entry.directory = child) ∧
    (∀ name createAttributes existingOptions,
      (d.virtualOpenChild name createAttributes existingOptions = .errIsDir ∨
        d.virtualOpenChild name createAttributes existingOptions = .errExist) ↔
        name ∈ entries.map DirectoryEntry.name) ∧
    d.virtualGetAttributes.linkCount = emptyDirectoryLinkCount + entries.length.toUInt32

variable {d : RemoteOutputServiceDirectory} {l : List Nat}

theorem WellFormed.lookup_outputBaseID (h : WellFormed d l) {state : Nat} (hs : state ∈ l) :
    d.outputBaseIDs.lookup (d.outputBaseID state) = some state := by
  obtain ⟨ob, hl⟩ := (h.mem_iff state).mp hs
  rwa [h.outputBaseID_eq _ _ hl]

/-- A name is registered exactly when it is the name of an object on the ring. -/
theorem WellFormed.lookup_eq_some_iff (h : WellFormed d l) (name : Component) (state : Nat) :
    d.outputBaseIDs.lookup name = some state ↔ state ∈ l ∧ d.outputBaseID state = name := by
  constructor
  · intro hl
    exact ⟨(h.mem_iff state).mpr ⟨name, hl⟩, h.outputBaseID_eq _ _ hl⟩
  · rintro ⟨hs, rfl⟩
    exact h.lookup_outputBaseID hs

theorem WellFormed.names_nodup (h : WellFormed d l) : (l.map d.outputBaseID).Nodup :=
  (List.nodup_cons.mp h.nodup).2.map_on fun _ hx _ hy he =>
    Option.some.inj ((h.lookup_outputBaseID hx).symm.trans (he ▸ h.lookup_outputBaseID hy))

/-- The ring holds as many objects as there are registered names. -/
theorem WellFormed.length_eq (h : WellFormed d l) : l.length = d.outputBaseIDs.entries.length := by
  have hPerm : (l.map d.outputBaseID).Perm d.outputBaseIDs.keys := by
    refine (List.perm_ext_iff_of_nodup h.names_nodup d.outputBaseIDs.keys_nodup).mpr fun name => ?_
    rw [← AList.mem_keys, ← AList.lookup_isSome, Option.isSome_iff_exists, List.mem_map]
    simp only [h.lookup_eq_some_iff]
  rw [← List.length_map l d.outputBaseID, hPerm.length_eq, AList.keys, List.keys, List.length_map]

theorem WellFormed.surfaceLaw (h : WellFormed d l) : d.SurfaceLaw := by
  have hEntries : d.offered l 0 = l.map d.directoryEntry := by simp [offered]
  refine ⟨l.map d.directoryEntry, ?_, ?_, fun name child => ?_, fun name _ _ => ?_, ?_⟩
  · rw [h.virtualReadDir_eq, reportEntries_accept, List.nil_append, hEntries]
  · simpa [directoryEntry, Function.comp_def] using h.names_nodup
  · simp [virtualLookup, h.lookup_eq_some_iff, directoryEntry]
  · rw [virtualOpenChild_exists_iff, Option.isSome_iff_exists]
    simp [virtualLookup, h.lookup_eq_some_iff, directoryEntry]
  · simp [virtualGetAttributes, h.length_eq]

end RemoteOutputServiceDirectory

namespace System

open RemoteOutputServiceDirectory

/-- In every reachable registry the root directory's operations agree: a full
`VirtualReadDir` reports each registered output base once; `VirtualLookup` finds
exactly the names it reports, with the same directories; `VirtualOpenChild`
opens nothing and reports exactly those names as existing; and the link count
of `VirtualGetAttributes` is an empty directory's plus one per reported entry. -/
theorem virtual_operations_agree {s : System} (hs : s.Reachable) : s.directory.SurfaceLaw :=
  hs.wellFormed.choose_spec.surfaceLaw

/-- The agreement after a first `StartBuild`. -/
theorem virtual_operations_agree_after_startBuild :
    (⟨(newRemoteOutputServiceDirectory.startBuild ⟨"ob1", rfl⟩ "b1" ⟨"", 1⟩ ⟨"/o", []⟩).2, []⟩ :
      System).Reachable ∧
    (newRemoteOutputServiceDirectory.startBuild ⟨"ob1", rfl⟩ "b1" ⟨"", 1⟩ ⟨"/o", []⟩).2.SurfaceLaw :=
  ⟨⟨[.startBuild ⟨"ob1", rfl⟩ "b1" ⟨"", 1⟩ ⟨"/o", []⟩], rfl⟩,
    virtual_operations_agree ⟨[.startBuild ⟨"ob1", rfl⟩ "b1" ⟨"", 1⟩ ⟨"/o", []⟩], rfl⟩⟩

end System

end RemoteOutputService
