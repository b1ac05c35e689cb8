import RemoteOutputService.Registry.ReadDir

/-! The change ID as the FUSE surface's change tracking. It never decreases,
and a critical section that leaves it alone also leaves alone everything the
root directory's lookups and listings read: the map of output base IDs, the
ring, the cookies and names, and the bound on object numbers. So the change ID
that `VirtualGetAttributes` reports grows across any run after which some
`VirtualLookup` or some `VirtualReadDir` answers differently. Unlike the
invariant, this holds from any state, reachable or not. -/
namespace RemoteOutputService

namespace RemoteOutputServiceDirectory

/-- `d'` keeps what `VirtualLookup` and `VirtualReadDir` read in `d`. -/
def SameRoot (d d' : RemoteOutputServiceDirectory) : Prop :=
  d'.outputBaseIDs = d.outputBaseIDs ∧ d'.next = d.next ∧ d'.cookie = d.cookie ∧
    d'.outputBaseID = d.outputBaseID ∧ d'.fresh = d.fresh

/-- `d'` has a change ID at least that of `d`, and the same one only if it
keeps what the root directory's lookups and listings read. -/
def Tracks (d d' : RemoteOutputServiceDirectory) : Prop :=
  d.changeID ≤ d'.changeID ∧ (d'.changeID = d.changeID → SameRoot d d')

variable {d d' d'' : RemoteOutputServiceDirectory}

section SameRoot

theorem SameRoot.refl (d : RemoteOutputServiceDirectory) : SameRoot d d :=
  ⟨rfl, rfl, rfl, rfl, rfl⟩

theorem SameRoot.trans (h : SameRoot d d') (h' : SameRoot d' d'') : SameRoot d d'' :=
  ⟨h'.1.trans h.1, h'.2.1.trans h.2.1, h'.2.2.1.trans h.2.2.1, h'.2.2.2.1.trans h.2.2.2.1,
    h'.2.2.2.2.trans h.2.2.2.2⟩

theorem SameRoot.virtualLookup (h : SameRoot d d') (name : Component) :
    d'.virtualLookup name = d.virtualLookup name := by
  simp only [RemoteOutputServiceDirectory.virtualLookup, h.1]

theorem SameRoot.skipBefore (h : SameRoot d d') (firstCookie : Nat) :
    ∀ fuel state, d'.skipBefore firstCookie fuel state = d.skipBefore firstCookie fuel state
  | 0, _ => rfl
  | fuel + 1, state => by
    rw [RemoteOutputServiceDirectory.skipBefore, RemoteOutputServiceDirectory.skipBefore, h.2.1, h.2.2.1,
      h.skipBefore firstCookie fuel]

theorem SameRoot.reportFrom (h : SameRoot d d') (reporter : List DirectoryEntry → DirectoryEntry → Bool) :
    ∀ fuel state reported, d'.reportFrom reporter fuel state reported = d.reportFrom reporter fuel state reported
  | 0, _, _ => rfl
  | fuel + 1, state, reported => by
    have hEntry : d'.directoryEntry state = d.directoryEntry state := by
      simp only [directoryEntry, h.2.2.1, h.2.2.2.1]
    rw [RemoteOutputServiceDirectory.reportFrom, RemoteOutputServiceDirectory.reportFrom, hEntry, h.2.1,
      h.reportFrom reporter fuel]

theorem SameRoot.virtualReadDir (h : SameRoot d d') (firstCookie : Nat)
    (reporter : List DirectoryEntry → DirectoryEntry → Bool) :
    d'.virtualReadDir firstCookie reporter = d.virtualReadDir firstCookie reporter := by
  simp only [RemoteOutputServiceDirectory.virtualReadDir, h.skipBefore, h.reportFrom, h.2.1, h.2.2.2.2]

end SameRoot

theorem Tracks.refl (d : RemoteOutputServiceDirectory) : Tracks d d :=
  ⟨le_rfl, fun _ => SameRoot.refl d⟩

theorem Tracks.trans (h : Tracks d d') (h' : Tracks d' d'') : Tracks d d'' :=
  ⟨h.1.trans h'.1, fun he =>
    have hFirst : d'.changeID = d.changeID := le_antisymm (he ▸ h'.1) h.1
    (h.2 hFirst).trans (h'.2 (he.trans hFirst.symm))⟩

/-- A step that bumps the change ID tracks whatever it did to the root. -/
theorem tracks_of_changeID (h : d'.changeID = d.changeID + 1) : Tracks d d' :=
  ⟨by omega, fun _ => by omega⟩

theorem tracks_of_sameRoot (h : d'.changeID = d.changeID) (h' : SameRoot d d') : Tracks d d' :=
  ⟨h.ge, fun _ => h'⟩

theorem tracks_closeBuild (state : Nat) : Tracks d (d.closeBuild state) :=
  tracks_of_sameRoot closeBuild_changeID (by simp [SameRoot])

theorem tracks_startBuild (ob : Component) (buildId : String) (digestFunction : DigestFunction)
    (scopeWalkerFactory : ScopeWalkerFactory) :
    Tracks d (d.startBuild ob buildId digestFunction scopeWalkerFactory).2 := by
  unfold startBuild
  split
  · exact Tracks.refl d
  · unfold resolveOutputPath
    split
    · exact tracks_closeBuild _
    · exact tracks_of_changeID rfl

theorem tracks_finalizeBuild {buildId : String} (h : d.finalizeBuild buildId = some d') :
    Tracks d d' := by
  unfold finalizeBuild at h
  split at h
  · cases h; exact Tracks.refl d
  · split at h
    · cases h
    · cases h; exact tracks_closeBuild _

theorem tracks_cleanCommit (ob : Component) (state : Nat) : Tracks d (d.cleanCommit ob state) := by
  unfold cleanCommit
  split
  · exact tracks_of_changeID closeBuild_changeID
  · exact Tracks.refl d

end RemoteOutputServiceDirectory

namespace System

open RemoteOutputServiceDirectory

/-- Along any interleaving of `StartBuild`, both halves of `Clean`,
`FinalizeBuild` and the lookups of `BatchCreate` and `BatchStat`, the change ID
that `VirtualGetAttributes` reports never decreases. It increases whenever the
map of output base IDs (name to state object) ends up different, or what
`VirtualLookup` finds under some name, or what some `VirtualReadDir` call
reports; so also when a name was cleaned and recreated. -/
theorem changeID_tracks_outputBaseIDs {s₁ s₂ : System} {as : List Action}
    (h : s₁.run as = some s₂) :
    s₁.directory.virtualGetAttributes.changeID ≤ s₂.directory.virtualGetAttributes.changeID ∧
      (s₁.directory.outputBaseIDs ≠ s₂.directory.outputBaseIDs ∨
          (∃ name, s₁.directory.virtualLookup name ≠ s₂.directory.virtualLookup name) ∨
          (∃ firstCookie reporter, s₁.directory.virtualReadDir firstCookie reporter ≠
            s₂.directory.virtualReadDir firstCookie reporter) →
        s₁.directory.virtualGetAttributes.changeID < s₂.directory.virtualGetAttributes.changeID) := by
  have hTracks : Tracks s₁.directory s₂.directory :=
    run_relates_directory Tracks.refl (fun _ _ _ => Tracks.trans) (fun _ => tracks_startBuild)
      (fun _ _ _ => tracks_finalizeBuild) (fun _ => tracks_cleanCommit) h
  refine ⟨hTracks.1, fun hDiffers => lt_of_le_of_ne hTracks.1 fun hEq => ?_⟩
  have hSame := hTracks.2 hEq.symm
  rcases hDiffers with hMap | ⟨name, hName⟩ | ⟨firstCookie, reporter, hList⟩
  · exact hMap hSame.1.symm
  · exact hName (hSame.virtualLookup name).symm
  · exact hList (hSame.virtualReadDir firstCookie reporter).symm

/-- `ob1` is cleaned and started again: `VirtualLookup` finds a new output
path under it, and the change ID has grown. -/
theorem changeID_tracks_recreated_output_base :
    let first := (newRemoteOutputServiceDirectory.startBuild ⟨"ob1", rfl⟩ "b1" ⟨"", 1⟩ ⟨"/o", []⟩).2
    ∃ s₂ : System, (⟨first, []⟩ : System).run [.cleanLookup ⟨"ob1", rfl⟩, .cleanCommit ⟨"ob1", rfl⟩ 1,
        .startBuild ⟨"ob1", rfl⟩ "b2" ⟨"", 1⟩ ⟨"/o", []⟩] = some s₂ ∧
      first.virtualLookup ⟨"ob1", rfl⟩ = some 1 ∧ s₂.directory.virtualLookup ⟨"ob1", rfl⟩ = some 2 ∧
      first.virtualGetAttributes.changeID < s₂.directory.virtualGetAttributes.changeID := by
  intro first
  have hRun : (⟨first, []⟩ : System).run [.cleanLookup ⟨"ob1", rfl⟩, .cleanCommit ⟨"ob1", rfl⟩ 1,
      .startBuild ⟨"ob1", rfl⟩ "b2" ⟨"", 1⟩ ⟨"/o", []⟩] =
      some ⟨((first.cleanCommit ⟨"ob1", rfl⟩ 1).startBuild ⟨"ob1", rfl⟩ "b2" ⟨"", 1⟩ ⟨"/o", []⟩).2, []⟩ := rfl
  exact ⟨_, hRun, rfl, rfl,
    (changeID_tracks_outputBaseIDs hRun).2 (.inr (.inl ⟨⟨"ob1", rfl⟩, fun h => nomatch h⟩))⟩

end System

end RemoteOutputService
