import Mathlib.Data.List.Perm.Subperm
import RemoteOutputService.Registry.Invariant

/-! `VirtualReadDir` lists the output paths from a cookie on. Its first loop
skips the objects whose cookie is below `firstCookie`; its second reports each
remaining object until the reporter refuses one. Both loops follow `next` until
they are back at the sentinel. The ring never holds more objects than `fresh`,
so `fresh` steps of fuel per loop are enough.

A listing can be continued in a later call, with other critical sections in
between, because cookies increase along the ring and an object's cookie is
fixed when it is allocated. -/
namespace RemoteOutputService

open Function

namespace RemoteOutputServiceDirectory

/-- The arguments of one `ReportEntry` call: the next cookie, the name, and the
root directory of the output path. The attributes are not modelled. -/
structure DirectoryEntry where
  nextCookie : Nat
  name : Component
  directory : Nat
  deriving DecidableEq

/-- The entry `VirtualReadDir` reports for `state`. -/
def directoryEntry (d : RemoteOutputServiceDirectory) (state : Nat) : DirectoryEntry :=
  ⟨d.cookie state + 1, d.outputBaseID state, state⟩

/-- The first loop of `VirtualReadDir`: from `state` on, the first object whose
cookie is at least `firstCookie`, or the sentinel. `none` when the fuel runs out. -/
def skipBefore (d : RemoteOutputServiceDirectory) (firstCookie : Nat) : Nat → Nat → Option Nat
  | 0, _ => none
  | fuel + 1, state =>
    if state = outputPaths then some outputPaths
    else if firstCookie ≤ d.cookie state then some state
    else d.skipBefore firstCookie fuel (d.next state)

/-- The second loop of `VirtualReadDir`: report `state` and the objects after
it until the sentinel or the first refused entry. A reporter is a
`DirectoryEntryReporter`: whether `ReportEntry` returns true, given the entries
reported before in the same call. Returns every entry reported, the refused one
included. -/
def reportFrom (d : RemoteOutputServiceDirectory) (reporter : List DirectoryEntry → DirectoryEntry → Bool) :
    Nat → Nat → List DirectoryEntry → Option (List DirectoryEntry)
  | 0, _, _ => none
  | fuel + 1, state, reported =>
    if state = outputPaths then some reported
    else if reporter reported (d.directoryEntry state) then
      d.reportFrom reporter fuel (d.next state) (reported ++ [d.directoryEntry state])
    else some (reported ++ [d.directoryEntry state])

/-- `VirtualReadDir`: the `ReportEntry` calls it makes, in order. -/
def virtualReadDir (d : RemoteOutputServiceDirectory) (firstCookie : Nat)
    (reporter : List DirectoryEntry → DirectoryEntry → Bool) : Option (List DirectoryEntry) :=
  (d.skipBefore firstCookie d.fresh (d.next outputPaths)).bind fun state =>
    d.reportFrom reporter d.fresh state []

/-- Passing `entries` to a reporter in order until it refuses one: the entries
it was passed, after `reported`. -/
def reportEntries (reporter : List DirectoryEntry → DirectoryEntry → Bool) :
    List DirectoryEntry → List DirectoryEntry → List DirectoryEntry
  | reported, [] => reported
  | reported, entry :: entries =>
    if reporter reported entry then reportEntries reporter (reported ++ [entry]) entries
    else reported ++ [entry]

/-- The entries of the objects of `l` whose cookie is at least `firstCookie`. -/
def offered (d : RemoteOutputServiceDirectory) (l : List Nat) (firstCookie : Nat) :
    List DirectoryEntry :=
  (l.filter fun state => firstCookie ≤ d.cookie state).map d.directoryEntry

theorem mem_reportEntries {reporter : List DirectoryEntry → DirectoryEntry → Bool} :
    ∀ {reported entries : List DirectoryEntry} {entry : DirectoryEntry},
      entry ∈ reportEntries reporter reported entries → entry ∈ reported ∨ entry ∈ entries
  | _, [], _, h => .inl h
  | reported, e :: entries, entry, h => by
    unfold reportEntries at h
    split at h
    · rcases mem_reportEntries h with h | h
      · rcases List.mem_append.mp h with h | h
        · exact .inl h
        · exact .inr (List.mem_singleton.mp h ▸ List.mem_cons_self _ _)
      · exact .inr (List.mem_cons_of_mem _ h)
    · rcases List.mem_append.mp h with h | h
      · exact .inl h
      · exact .inr (List.mem_singleton.mp h ▸ List.mem_cons_self _ _)

/-- A reporter that accepts every entry is passed all of them. -/
theorem reportEntries_accept :
    ∀ reported entries, reportEntries (fun _ _ => true) reported entries = reported ++ entries
  | _, [] => (List.append_nil _).symm
  | reported, entry :: entries => by
    simp [reportEntries, reportEntries_accept (reported ++ [entry]) entries]

theorem offered_map_directory (d : RemoteOutputServiceDirectory) (l : List Nat) (firstCookie : Nat) :
    (d.offered l firstCookie).map DirectoryEntry.directory =
      l.filter fun state => firstCookie ≤ d.cookie state := by
  simp [offered, directoryEntry, Function.comp_def]

section Loops

variable {d : RemoteOutputServiceDirectory} {l : List Nat}

/-- The ring holds fewer objects than `fresh`, which bounds both loops. -/
theorem WellFormed.length_lt_fresh (h : WellFormed d l) : l.length < d.fresh :=
  (h.nodup.subperm fun state hs => List.mem_range.mpr (h.lt_fresh state hs)).length_le.trans_eq
    (List.length_range _)

/-- On a stretch `suf` at the ring's end, the first loop stops at the first
object whose cookie is at least `firstCookie`, or at the sentinel. -/
theorem WellFormed.skipBefore_eq (h : WellFormed d l) (firstCookie : Nat) :
    ∀ (suf pre : List Nat) (fuel : Nat), l = pre ++ suf → suf.length < fuel →
      d.skipBefore firstCookie fuel (suf.headD outputPaths) =
        some ((suf.dropWhile fun state => d.cookie state < firstCookie).headD outputPaths)
  | [], _, fuel + 1, _, _ => by simp [skipBefore]
  | x :: suf, pre, fuel + 1, hl, hLen => by
    have hx : x ≠ outputPaths := fun he =>
      (List.nodup_cons.mp h.nodup).1 (hl ▸ he ▸ List.mem_append_right _ (List.mem_cons_self _ _))
    have hNext : d.next x = suf.headD outputPaths :=
      h.ring.next_of_eq_append
        (show outputPaths :: l = (outputPaths :: pre) ++ x :: suf by rw [hl]; rfl)
    by_cases hc : firstCookie ≤ d.cookie x
    · simp [skipBefore, hx, hc, List.dropWhile_cons]
    · simp only [skipBefore, hx, hc, if_false, List.dropWhile_cons, List.headD_cons, hNext]
      rw [decide_eq_true (Nat.lt_of_not_le hc)]
      exact h.skipBefore_eq firstCookie suf (pre ++ [x]) fuel (by simp [hl])
        (Nat.lt_of_succ_lt_succ hLen)

/-- On a stretch `suf` at the ring's end, the second loop reports the entries of
`suf` in order until the reporter refuses one. -/
theorem WellFormed.reportFrom_eq (h : WellFormed d l)
    (reporter : List DirectoryEntry → DirectoryEntry → Bool) :
    ∀ (suf pre : List Nat) (fuel : Nat) (reported : List DirectoryEntry), l = pre ++ suf →
      suf.length < fuel →
      d.reportFrom reporter fuel (suf.headD outputPaths) reported =
        some (reportEntries reporter reported (suf.map d.directoryEntry))
  | [], _, fuel + 1, _, _, _ => by simp [reportFrom, reportEntries]
  | x :: suf, pre, fuel + 1, reported, hl, hLen => by
    have hx : x ≠ outputPaths := fun he =>
      (List.nodup_cons.mp h.nodup).1 (hl ▸ he ▸ List.mem_append_right _ (List.mem_cons_self _ _))
    have hNext : d.next x = suf.headD outputPaths :=
      h.ring.next_of_eq_append
        (show outputPaths :: l = (outputPaths :: pre) ++ x :: suf by rw [hl]; rfl)
    simp only [reportFrom, hx, if_false, List.headD_cons, List.map_cons, reportEntries, hNext]
    split
    · exact h.reportFrom_eq reporter suf (pre ++ [x]) fuel _ (by simp [hl])
        (Nat.lt_of_succ_lt_succ hLen)
    · rfl

/-- Since cookies increase along the ring, skipping the objects below a cookie
leaves exactly those at or above it. -/
theorem dropWhile_cookie_lt {firstCookie : Nat} :
    ∀ {l : List Nat}, (l.map d.cookie).Pairwise (· < ·) →
      (l.dropWhile fun state => d.cookie state < firstCookie) =
        l.filter fun state => firstCookie ≤ d.cookie state
  | [], _ => rfl
  | x :: l, hs => by
    rw [List.map_cons, List.pairwise_cons] at hs
    by_cases hc : d.cookie x < firstCookie
    · simp [List.dropWhile_cons, List.filter_cons, hc, dropWhile_cookie_lt hs.2]
    · have hAll : ∀ y ∈ l, firstCookie ≤ d.cookie y := fun y hy =>
        (Nat.le_of_not_lt hc).trans (hs.1 _ (List.mem_map_of_mem _ hy)).le
      simp [List.dropWhile_cons, List.filter_cons, hc, Nat.le_of_not_lt hc,
        List.filter_eq_self.mpr fun y hy => decide_eq_true (hAll y hy)]

/-- `VirtualReadDir` reports the entries of the objects on the ring from
`firstCookie` on, in ring order, until the reporter refuses one. -/
theorem WellFormed.virtualReadDir_eq (h : WellFormed d l) (firstCookie : Nat)
    (reporter : List DirectoryEntry → DirectoryEntry → Bool) :
    d.virtualReadDir firstCookie reporter =
      some (reportEntries reporter [] (d.offered l firstCookie)) := by
  obtain ⟨pre, hpre⟩ : List.IsSuffix (l.dropWhile fun state => d.cookie state < firstCookie) l :=
    List.dropWhile_suffix _
  have hStart : d.next outputPaths = l.headD outputPaths := h.ring.next_of_eq_append
    (show outputPaths :: l = [] ++ outputPaths :: l from rfl)
  rw [virtualReadDir, hStart, h.skipBefore_eq firstCookie l [] d.fresh rfl h.length_lt_fresh,
    Option.some_bind, h.reportFrom_eq reporter _ pre d.fresh [] hpre.symm
      ((List.dropWhile_suffix _).length_le.trans_lt h.length_lt_fresh),
    dropWhile_cookie_lt h.sorted, offered]

/-- Listing from a higher cookie lists from it within the lower listing. -/
theorem filter_cookie_le_of_le {l : List Nat} {firstCookie k : Nat} (hk : firstCookie ≤ k) :
    (l.filter fun state => k ≤ d.cookie state) =
      (l.filter fun state => firstCookie ≤ d.cookie state).filter fun state => k ≤ d.cookie state := by
  rw [List.filter_filter]
  exact List.filter_congr fun state _ => by
    by_cases hc : k ≤ d.cookie state
    · simp [hc, hk.trans hc]
    · simp [hc]

/-- After an entry of a sorted listing, the listing from that entry's next
cookie is the rest of it. -/
theorem filter_cookie_gt_getElem :
    ∀ {l : List Nat}, (l.map d.cookie).Pairwise (· < ·) → ∀ n (hn : n < l.length),
      (l.filter fun state => d.cookie l[n] + 1 ≤ d.cookie state) = l.drop (n + 1)
  | [], _, _, hn => absurd hn (Nat.not_lt_zero _)
  | x :: l, hs, n, hn => by
    rw [List.map_cons, List.pairwise_cons] at hs
    have hAll : ∀ y ∈ l, d.cookie x < d.cookie y := fun y hy => hs.1 _ (List.mem_map_of_mem _ hy)
    cases n with
    | zero =>
      simpa [List.filter_cons] using fun y hy => decide_eq_true (hAll y hy)
    | succ n =>
      have hn' : n < l.length := Nat.lt_of_succ_lt_succ hn
      have hLt : ¬d.cookie l[n] + 1 ≤ d.cookie x := by
        have := hAll _ (List.getElem_mem hn'); omega
      simp only [List.filter_cons, List.getElem_cons_succ, hLt, decide_False, if_false,
        List.drop_succ_cons]
      exact filter_cookie_gt_getElem hs.2 n hn'

end Loops

/-- What `VirtualReadDir` does in a registry: there is a list `l` of exactly the
registered objects such that, for every first cookie, every reporter is passed
the entries of the objects of `l` from that cookie on until it refuses one; these
are exactly the registered objects with a cookie at least the first cookie, each
once, with increasing next cookies; and a listing continued from the next cookie
of any of its entries yields the rest of it. -/
def ReadDirLaw (d : RemoteOutputServiceDirectory) : Prop :=
  ∃ l : List Nat, ∀ firstCookie,
    (∀ reporter, d.virtualReadDir firstCookie reporter =
      some (reportEntries reporter [] (d.offered l firstCookie))) ∧
    ((d.offered l firstCookie).map DirectoryEntry.directory).Nodup ∧
    (∀ state, state ∈ (d.offered l firstCookie).map DirectoryEntry.directory ↔
      d.Registered state ∧ firstCookie ≤ d.cookie state) ∧
    ((d.offered l firstCookie).map DirectoryEntry.nextCookie).Pairwise (· < ·) ∧
    (∀ n (hn : n < (d.offered l firstCookie).length),
      d.offered l (d.offered l firstCookie)[n].nextCookie = (d.offered l firstCookie).drop (n + 1))

theorem WellFormed.readDirLaw {d : RemoteOutputServiceDirectory} {l : List Nat} (h : WellFormed d l) :
    d.ReadDirLaw := by
  refine ⟨l, fun firstCookie => ⟨h.virtualReadDir_eq firstCookie, ?_, ?_, ?_, ?_⟩⟩
  · rw [offered_map_directory]
    exact (List.nodup_cons.mp h.nodup).2.filter _
  · intro state
    rw [offered_map_directory, List.mem_filter, h.mem_iff, decide_eq_true_iff]
  · simp only [offered, List.map_map]
    exact List.pairwise_map.mpr ((List.pairwise_map.mp h.sorted).filter _ |>.imp Nat.succ_lt_succ)
  · intro n hn
    have hn' : n < (l.filter fun state => firstCookie ≤ d.cookie state).length := by
      simpa [offered] using hn
    have hc : firstCookie ≤ d.cookie (l.filter fun state => firstCookie ≤ d.cookie state)[n] := by
      simpa using (List.mem_filter.mp (List.getElem_mem hn')).2
    have hSorted := List.pairwise_map.mpr ((List.pairwise_map.mp h.sorted).filter
      fun state => decide (firstCookie ≤ d.cookie state))
    simp only [offered, List.getElem_map, directoryEntry]
    rw [filter_cookie_le_of_le (Nat.le_succ_of_le hc), filter_cookie_gt_getElem hSorted n hn',
      List.map_drop]

/-! Between two calls, objects keep their cookies: an object's cookie is written
once, when `StartBuild` allocates it at `fresh`, and `fresh` only grows. -/

/-- Every object allocated in `d` has in `d'` the cookie it had in `d`. -/
def KeepsCookies (d d' : RemoteOutputServiceDirectory) : Prop :=
  d.fresh ≤ d'.fresh ∧ ∀ state < d.fresh, d'.cookie state = d.cookie state

section KeepsCookies

variable {d d' d'' : RemoteOutputServiceDirectory}

theorem KeepsCookies.refl (d : RemoteOutputServiceDirectory) : KeepsCookies d d :=
  ⟨le_rfl, fun _ _ => rfl⟩

theorem KeepsCookies.trans (h : KeepsCookies d d') (h' : KeepsCookies d' d'') : KeepsCookies d d'' :=
  ⟨h.1.trans h'.1, fun state hs => (h'.2 state (hs.trans_le h.1)).trans (h.2 state hs)⟩

theorem keepsCookies_of_eq (hf : d'.fresh = d.fresh) (hc : d'.cookie = d.cookie) : KeepsCookies d d' :=
  ⟨hf.ge, fun _ _ => congrFun hc _⟩

theorem keepsCookies_startBuild (ob : Component) (buildId : String) (digestFunction : DigestFunction)
    (scopeWalkerFactory : ScopeWalkerFactory) :
    KeepsCookies d (d.startBuild ob buildId digestFunction scopeWalkerFactory).2 := by
  unfold RemoteOutputServiceDirectory.startBuild RemoteOutputServiceDirectory.resolveOutputPath
  split
  · exact KeepsCookies.refl d
  · split
    · exact keepsCookies_of_eq closeBuild_fresh closeBuild_cookie
    · exact ⟨Nat.le_succ _, fun state hs => update_noteq hs.ne _ _⟩

theorem keepsCookies_finalizeBuild {buildId : String} (h : d.finalizeBuild buildId = some d') :
    KeepsCookies d d' := by
  unfold RemoteOutputServiceDirectory.finalizeBuild at h
  split at h
  · cases h; exact KeepsCookies.refl d
  · split at h
    · cases h
    · cases h; exact keepsCookies_of_eq closeBuild_fresh closeBuild_cookie

theorem keepsCookies_cleanCommit (ob : Component) (state : Nat) :
    KeepsCookies d (d.cleanCommit ob state) := by
  unfold RemoteOutputServiceDirectory.cleanCommit
  split
  · exact keepsCookies_of_eq closeBuild_fresh closeBuild_cookie
  · exact KeepsCookies.refl d

end KeepsCookies

/-- How a listing begun in `d₁` continues in a later registry `d₂`. For every
listing of `d₁` and every listing of `d₂` from a cookie `k`: no object whose
entry the first listing passed with a next cookie at most `k` is passed again,
and every next cookie passed exceeds `k`. And a reporter that accepts everything
is passed, from `k` on, every object registered in `d₁` with a cookie at least
`k` that is still registered in `d₂`. -/
def PaginationLaw (d₁ d₂ : RemoteOutputServiceDirectory) : Prop :=
  (∀ firstCookie reporter calls, d₁.virtualReadDir firstCookie reporter = some calls →
    ∀ k reporter' calls', d₂.virtualReadDir k reporter' = some calls' →
      (∀ entry ∈ calls, entry.nextCookie ≤ k → ∀ entry' ∈ calls', entry'.directory ≠ entry.directory) ∧
      ∀ entry' ∈ calls', k < entry'.nextCookie) ∧
  ∀ k state, d₁.Registered state → k ≤ d₁.cookie state → d₂.Registered state →
    ∃ calls, d₂.virtualReadDir k (fun _ _ => true) = some calls ∧
      state ∈ calls.map DirectoryEntry.directory

theorem WellFormed.mem_offered {d : RemoteOutputServiceDirectory} {l : List Nat} {firstCookie : Nat}
    {entry : DirectoryEntry} (hEntry : entry ∈ d.offered l firstCookie) :
    entry.directory ∈ l ∧ firstCookie ≤ d.cookie entry.directory ∧
      entry.nextCookie = d.cookie entry.directory + 1 := by
  obtain ⟨state, hs, rfl⟩ := List.mem_map.mp hEntry
  simpa [directoryEntry] using hs

theorem WellFormed.paginationLaw {d₁ d₂ : RemoteOutputServiceDirectory} {l₁ l₂ : List Nat}
    (h₁ : WellFormed d₁ l₁) (h₂ : WellFormed d₂ l₂) (hKeep : KeepsCookies d₁ d₂) :
    PaginationLaw d₁ d₂ := by
  refine ⟨fun firstCookie reporter calls hCalls k reporter' calls' hCalls' => ⟨?_, ?_⟩, ?_⟩
  · intro entry hEntry hk entry' hEntry' he
    rw [h₁.virtualReadDir_eq] at hCalls
    rw [h₂.virtualReadDir_eq] at hCalls'
    cases hCalls; cases hCalls'
    obtain ⟨hMem, -, hNext⟩ := WellFormed.mem_offered
      ((mem_reportEntries hEntry).resolve_left (List.not_mem_nil _))
    obtain ⟨-, hGe, -⟩ := WellFormed.mem_offered
      ((mem_reportEntries hEntry').resolve_left (List.not_mem_nil _))
    rw [he, hKeep.2 _ (h₁.lt_fresh _ (List.mem_cons_of_mem _ hMem))] at hGe
    omega
  · intro entry' hEntry'
    rw [h₂.virtualReadDir_eq] at hCalls'
    cases hCalls'
    obtain ⟨-, hGe, hNext⟩ := WellFormed.mem_offered
      ((mem_reportEntries hEntry').resolve_left (List.not_mem_nil _))
    omega
  · intro k state hs hk hs'
    refine ⟨_, h₂.virtualReadDir_eq k _, ?_⟩
    rw [reportEntries_accept, List.nil_append, offered_map_directory, List.mem_filter,
      hKeep.2 state (h₁.registered_lt_fresh hs), decide_eq_true_iff]
    exact ⟨(h₂.mem_iff state).mpr hs', hk⟩

end RemoteOutputServiceDirectory

namespace System

open RemoteOutputServiceDirectory

theorem keepsCookies_run {s₁ s₂ : System} {as : List Action} (h : s₁.run as = some s₂) :
    KeepsCookies s₁.directory s₂.directory :=
  run_relates_directory KeepsCookies.refl (fun _ _ _ h h' => h.trans h')
    (fun _ => keepsCookies_startBuild) (fun _ _ _ => keepsCookies_finalizeBuild)
    (fun _ => keepsCookies_cleanCommit) h

/-- In every reachable registry `VirtualReadDir` terminates and lists the
registered output paths from the first cookie on; and a listing begun there
continues correctly in every registry reached after it, by any interleaving of
`StartBuild`, `FinalizeBuild` and `Clean`. -/
theorem virtualReadDir_pagination {s₁ s₂ : System} {as : List Action} (hs : s₁.Reachable)
    (h : s₁.run as = some s₂) :
    s₁.directory.ReadDirLaw ∧ s₂.directory.ReadDirLaw ∧ PaginationLaw s₁.directory s₂.directory := by
  obtain ⟨l₁, h₁⟩ := hs.wellFormed
  obtain ⟨l₂, h₂⟩ := (hs.run h).wellFormed
  exact ⟨h₁.readDirLaw, h₂.readDirLaw, h₁.paginationLaw h₂ (keepsCookies_run h)⟩

/-- Two output paths `ob1` and `ob2`, and a listing from cookie 0 whose
reporter accepts only the first entry; then `ob1` is cleaned and `ob3` started.
The listing resumed from the accepted entry's next cookie reports `ob2`, which
it had refused, and the new `ob3`, and not the object of `ob1` it accepted. -/
theorem virtualReadDir_pagination_resumed :
    let first : System := ⟨((newRemoteOutputServiceDirectory.startBuild ⟨"ob1", rfl⟩ "b1" ⟨"", 1⟩
      ⟨"/o", []⟩).2.startBuild ⟨"ob2", rfl⟩ "b2" ⟨"", 1⟩ ⟨"/o", []⟩).2, []⟩
    let actions : List Action := [.cleanLookup ⟨"ob1", rfl⟩, .cleanCommit ⟨"ob1", rfl⟩ 1,
      .startBuild ⟨"ob3", rfl⟩ "b3" ⟨"", 1⟩ ⟨"/o", []⟩]
    first.Reachable ∧ ∃ s₂ : System, first.run actions = some s₂ ∧
      first.directory.virtualReadDir 0 (fun reported _ => reported.isEmpty) =
        some [first.directory.directoryEntry 1, first.directory.directoryEntry 2] ∧
      s₂.directory.virtualReadDir (first.directory.directoryEntry 1).nextCookie (fun _ _ => true) =
        some [s₂.directory.directoryEntry 2, s₂.directory.directoryEntry 3] ∧
      (first.directory.ReadDirLaw ∧ s₂.directory.ReadDirLaw ∧ PaginationLaw first.directory s₂.directory) := by
  intro first actions
  have hs : first.Reachable :=
    ⟨[.startBuild ⟨"ob1", rfl⟩ "b1" ⟨"", 1⟩ ⟨"/o", []⟩, .startBuild ⟨"ob2", rfl⟩ "b2" ⟨"", 1⟩ ⟨"/o", []⟩], rfl⟩
  exact ⟨hs, _, rfl, by decide, by decide, @virtualReadDir_pagination first _ actions hs rfl⟩

end System

end RemoteOutputService
