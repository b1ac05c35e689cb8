import RemoteOutputService.Registry.State

/-! The circular doubly linked list of `outputPathState` objects, anchored at
the sentinel. `IsRing previous next l` says that following `next` from the
sentinel visits the objects of `l` in order and returns, and that `previous`
walks the same ring backwards. The two lemmas below are the two ways the code
rewires the ring: `StartBuild` inserts at the tail, `Clean` unlinks. -/
namespace RemoteOutputService

open Function

/-- `next` takes each element of `outputPaths :: l` to the next element of the
ring, and `previous` takes it back. -/
def IsRing (previous next : Nat → Nat) (l : List Nat) : Prop :=
  (outputPaths :: l).map next = l ++ [outputPaths] ∧
    (l ++ [outputPaths]).map previous = outputPaths :: l

variable {previous next : Nat → Nat} {l : List Nat}

/-- Updating a function at a point off a list leaves its map over the list alone. -/
theorem map_update_of_not_mem {β : Type} {f : Nat → β} {a : Nat} {l : List Nat} (h : a ∉ l) (v : β) :
    l.map (update f a v) = l.map f :=
  List.map_congr_left fun _ hx => update_noteq (ne_of_mem_of_not_mem hx h) _ _

theorem exists_eq_concat_cons (a : Nat) (l : List Nat) :
    ∃ init t, a :: l = init ++ [t] := by
  rcases List.eq_nil_or_concat (a :: l) with h | ⟨init, t, h⟩
  · cases h
  · exact ⟨init, t, by simpa using h⟩

/-- The last object of the ring is the sentinel's `previous`. -/
theorem IsRing.previous_outputPaths (h : IsRing previous next l) {init : List Nat} {t : Nat}
    (hit : outputPaths :: l = init ++ [t]) : previous outputPaths = t ∧ l.map previous = init := by
  have hPrev := h.2
  rw [hit, List.map_append, List.map_singleton] at hPrev
  obtain ⟨hl, ht⟩ := List.append_inj' hPrev rfl
  exact ⟨by simpa using ht, hl⟩

theorem IsRing.previous_outputPaths_mem (h : IsRing previous next l) :
    previous outputPaths ∈ outputPaths :: l := by
  obtain ⟨init, t, hit⟩ := exists_eq_concat_cons outputPaths l
  rw [(h.previous_outputPaths hit).1, hit]
  exact List.mem_append_right _ (List.mem_singleton_self t)

/-- `next` moves one place along the ring. -/
theorem IsRing.next_getElem (h : IsRing previous next l) (k : Nat)
    (hk : k + 1 < (outputPaths :: l).length) :
    next (outputPaths :: l)[k] = (outputPaths :: l)[k + 1] := by
  have hk' : k < l.length := by simpa using hk
  have := congrArg (fun xs => xs[k]?) h.1
  simp only [List.getElem?_map, List.getElem?_append_left hk'] at this
  rw [List.getElem?_eq_getElem (by omega), List.getElem?_eq_getElem hk'] at this
  exact Option.some.inj this

/-- The ring's last object leads back to the sentinel. -/
theorem IsRing.next_last (h : IsRing previous next l) (hk : l.length < (outputPaths :: l).length) :
    next (outputPaths :: l)[l.length] = outputPaths := by
  have := congrArg (fun xs => xs[l.length]?) h.1
  simp only [List.getElem?_map, List.getElem?_concat_length] at this
  rw [List.getElem?_eq_getElem hk] at this
  exact Option.some.inj this

/-- Following `next` from the sentinel visits the ring in order. -/
theorem IsRing.iterate_next (h : IsRing previous next l) :
    ∀ k (hk : k < (outputPaths :: l).length), next^[k] outputPaths = (outputPaths :: l)[k]
  | 0, _ => rfl
  | k + 1, hk => by
    rw [Function.iterate_succ_apply', h.iterate_next k (by omega), h.next_getElem k hk]

/-- After the whole ring, `next` is back at the sentinel. -/
theorem IsRing.iterate_next_length (h : IsRing previous next l) :
    next^[l.length + 1] outputPaths = outputPaths := by
  have hk : l.length < (outputPaths :: l).length := by simp
  rw [Function.iterate_succ_apply', h.iterate_next l.length hk, h.next_last hk]

/-- Along the ring, `next` takes each object to the one after it, and the last
to the sentinel. -/
theorem IsRing.next_of_eq_append {pre rest : List Nat} {x : Nat}
    (h : IsRing previous next l) (hl : outputPaths :: l = pre ++ x :: rest) :
    next x = rest.headD outputPaths := by
  have hDrop := congrArg (List.drop pre.length) h.1
  have hTail : (l ++ [outputPaths]).drop pre.length =
      ((outputPaths :: l) ++ [outputPaths]).drop (pre.length + 1) := rfl
  rw [← List.map_drop, hl, List.drop_left, hTail, hl, List.append_assoc, ← List.drop_drop,
    List.drop_left] at hDrop
  cases rest <;> simp_all

/-- On the ring, `previous` undoes `next` and `next` undoes `previous`. -/
theorem IsRing.previous_next (h : IsRing previous next l) :
    ∀ x ∈ outputPaths :: l, previous (next x) = x ∧ next (previous x) = x := by
  have hPN : (outputPaths :: l).map (previous ∘ next) = (outputPaths :: l).map id := by
    rw [← List.map_map, h.1, h.2, List.map_id]
  have hNP : (l ++ [outputPaths]).map (next ∘ previous) = (l ++ [outputPaths]).map id := by
    rw [← List.map_map, h.2, h.1, List.map_id]
  intro x hx
  refine ⟨List.map_eq_map_iff.mp hPN x hx, List.map_eq_map_iff.mp hNP x ?_⟩
  simpa [or_comm] using hx

/-- Linking a new object `n` after the ring's last object, as `StartBuild`
does, yields the ring `l ++ [n]`. -/
theorem IsRing.append (h : IsRing previous next l) (hnd : (outputPaths :: l).Nodup)
    {n : Nat} (hn : n ∉ outputPaths :: l) :
    IsRing (update (update previous n (previous outputPaths)) outputPaths n)
      (update (update next n outputPaths) (previous outputPaths) n) (l ++ [n]) := by
  obtain ⟨init, t, hit⟩ := exists_eq_concat_cons outputPaths l
  obtain ⟨ht, hl⟩ := h.previous_outputPaths hit
  have hNext := h.1
  rw [hit, List.map_append, List.map_singleton] at hNext
  have hInit := (List.append_inj' hNext rfl).1
  rw [hit] at hnd hn
  have htInit : t ∉ init := fun hm => (List.nodup_append.mp hnd).2.2 hm (List.mem_singleton_self t)
  have hnInit : n ∉ init := fun hm => hn (List.mem_append_left _ hm)
  have hnt : n ≠ t := fun he => hn (by simp [he])
  have h0 : outputPaths ∉ l := (List.nodup_cons.mp (hit ▸ hnd : (outputPaths :: l).Nodup)).1
  have hnl : n ∉ l := fun hm => hn (by rw [← hit]; exact List.mem_cons_of_mem _ hm)
  have hn0 : n ≠ outputPaths := fun he => hn (by rw [← hit, he]; exact List.mem_cons_self _ _)
  have hInit' : init.map (update (update next n outputPaths) t n) = init.map next := by
    rw [map_update_of_not_mem htInit, map_update_of_not_mem hnInit]
  have hl' : l.map (update (update previous n t) outputPaths n) = l.map previous := by
    rw [map_update_of_not_mem h0, map_update_of_not_mem hnl]
  constructor
  · rw [← List.cons_append, hit, ht]
    simp only [List.map_append, List.map_singleton, update_same, update_noteq hnt, hInit', hInit]
  · simp only [List.append_assoc, List.singleton_append, List.map_append, List.map_cons,
      update_same, update_noteq hn0, update_noteq hn0.symm, List.map_nil, ht, hl', hl]
    rw [← List.cons_append, hit]
    simp

/-- An object's `previous` is the object before it, or the sentinel. -/
theorem IsRing.previous_mem {l₁ l₂ : List Nat} {x : Nat} (h : IsRing previous next (l₁ ++ x :: l₂)) :
    previous x ∈ outputPaths :: l₁ := by
  have hPrev := h.2
  rw [List.append_assoc, List.cons_append, ← List.singleton_append, ← List.append_assoc,
    List.map_append, ← List.cons_append] at hPrev
  have hx := (List.append_inj hPrev (by simp)).1
  rw [List.map_append, List.map_singleton] at hx
  rw [← hx]
  exact List.mem_append_right _ (List.mem_singleton_self _)

/-- Unlinking `x` by joining its neighbours, as `Clean` does, removes it from
the ring. -/
theorem IsRing.unlink {l₁ l₂ : List Nat} {x : Nat} (h : IsRing previous next (l₁ ++ x :: l₂))
    (hnd : (outputPaths :: l₁ ++ x :: l₂).Nodup) :
    IsRing (update previous (next x) (previous x)) (update next (previous x) (next x))
      (l₁ ++ l₂) := by
  obtain ⟨init, a, hia⟩ := exists_eq_concat_cons outputPaths l₁
  obtain ⟨b, rest, hbr⟩ : ∃ b rest, l₂ ++ [outputPaths] = b :: rest := by
    cases l₂ <;> simp
  have hnd' : (l₁ ++ x :: b :: rest).Nodup := by
    have := (List.perm_append_singleton outputPaths (l₁ ++ x :: l₂)).nodup_iff.mpr hnd
    rwa [List.append_assoc, List.cons_append, hbr] at this
  obtain ⟨hNext, hPrev⟩ := h
  rw [← List.cons_append, hia, List.append_assoc, List.singleton_append, List.map_append,
    List.map_cons, List.map_cons, List.append_assoc, List.cons_append, hbr] at hNext
  obtain ⟨hInit, hNext⟩ := List.append_inj hNext (by simpa using (congrArg List.length hia).symm)
  simp only [List.cons.injEq] at hNext
  obtain ⟨-, hx, hl₂⟩ := hNext
  rw [List.append_assoc, List.cons_append, hbr, List.map_append, List.map_cons, List.map_cons,
    ← List.cons_append, hia, List.append_assoc, List.singleton_append] at hPrev
  obtain ⟨hl₁, hPrev⟩ := List.append_inj hPrev (by simpa using congrArg List.length hia)
  simp only [List.cons.injEq] at hPrev
  obtain ⟨hxa, -, hrest⟩ := hPrev
  rw [hia, List.append_assoc, List.singleton_append] at hnd
  have haInit : a ∉ init := fun hm => (List.nodup_append.mp hnd).2.2 hm (List.mem_cons_self _ _)
  have hal₂ : a ∉ l₂ := fun hm =>
    (List.nodup_cons.mp (List.nodup_append.mp hnd).2.1).1 (List.mem_cons_of_mem _ hm)
  have hbl₁ : b ∉ l₁ := fun hm => (List.nodup_append.mp hnd').2.2 hm (by simp)
  have hbrest : b ∉ rest := (List.nodup_cons.mp (List.nodup_cons.mp (List.nodup_append.mp hnd').2.1).2).1
  rw [hx, hxa]
  constructor
  · rw [← List.cons_append, hia, List.append_assoc, List.map_append, List.map_append,
      map_update_of_not_mem haInit, hInit, List.map_singleton, update_same, map_update_of_not_mem hal₂, hl₂,
      List.append_assoc, hbr]
    rfl
  · rw [List.append_assoc, hbr, List.map_append, List.map_cons, map_update_of_not_mem hbl₁, hl₁, update_same,
      map_update_of_not_mem hbrest, hrest, ← List.cons_append, hia, List.append_assoc, List.singleton_append]

end RemoteOutputService
