import AlaniKernel.Foundation.Cells

/-!
# Tables filled in order

A table whose entries are written to the first free cell and never erased holds
them in its first cells, in the order in which they came.  Searching it is then
searching the list of its entries.
-/

namespace AlaniKernel.Foundation

universe u

variable {α : Type u} {n : Nat}

/-- The first cells hold the entries in order, and the others are `free`. -/
structure FilledWith (cells : Vector α n) (free : α) (entries : List α) : Prop where
  length_le : entries.length ≤ n
  cell : ∀ i : Fin n, cells.get i = entries[i.val]?.getD free

variable {cells : Vector α n} {free : α} {entries : List α}

theorem filledWith_replicate (a : α) : FilledWith (Vector.replicate n a) a [] :=
  ⟨Nat.zero_le n, fun i => by simp⟩

theorem FilledWith.get_of_lt (h : FilledWith cells free entries) {i : Fin n}
    (hi : i.val < entries.length) : cells.get i = entries[i.val] := by
  simp [h.cell, hi]

theorem FilledWith.get_of_le (h : FilledWith cells free entries) {i : Fin n}
    (hi : entries.length ≤ i.val) : cells.get i = free := by
  simp [h.cell, hi]

theorem FilledWith.snoc (h : FilledWith cells free entries) {i : Fin n}
    (hi : i.val = entries.length) (a : α) :
    FilledWith (cells.set i a i.isLt) free (entries ++ [a]) := by
  constructor
  · have hlt := i.isLt
    rw [List.length_append, List.length_singleton]
    omega
  · intro j
    rw [get_set]
    split_ifs with hj
    · simp [hj, hi]
    · have hne : j.val ≠ entries.length := fun heq => hj (Fin.ext (heq.trans hi.symm))
      rcases Nat.lt_or_gt_of_ne hne with hlt | hgt
      · rw [h.cell, List.getElem?_append_left hlt]
      · rw [h.get_of_le (Nat.le_of_lt hgt), List.getElem?_eq_none]
        · rfl
        · rw [List.length_append, List.length_singleton]
          omega

theorem FilledWith.set (h : FilledWith cells free entries) {i : Fin n}
    (hi : i.val < entries.length) (a : α) :
    FilledWith (cells.set i a i.isLt) free (entries.set i.val a) := by
  constructor
  · rw [List.length_set]
    exact h.length_le
  · intro j
    rw [get_set, List.getElem?_set]
    split_ifs with hj hval hval
    · simp
    · exact absurd (congrArg Fin.val hj.symm) hval
    · exact absurd (Fin.ext hval.symm) hj
    · exact h.cell j

theorem FilledWith.position_free (h : FilledWith cells free entries) {p : α → Bool}
    (hentries : ∀ a ∈ entries, p a = false) (hfree : p free = true) {i : Fin n} :
    position cells p = some i ↔ i.val = entries.length := by
  have hused : ∀ j : Fin n, p (cells.get j) = true ↔ entries.length ≤ j.val := by
    intro j
    rcases Nat.lt_or_ge j.val entries.length with hlt | hge
    · simp [h.get_of_lt hlt, hentries, hlt]
    · simp [h.get_of_le hge, hfree, hge]
  rw [position_eq_some_iff, hused]
  constructor
  · rintro ⟨hge, hbefore⟩
    by_contra hne
    have hlt : entries.length < i.val := by omega
    have hfirst := hbefore ⟨entries.length, hlt.trans i.isLt⟩ hlt
    rw [Bool.eq_false_iff, Ne, hused] at hfirst
    exact hfirst (Nat.le_refl _)
  · intro hi
    apply And.intro hi.ge
    intro j hj
    rw [Bool.eq_false_iff, Ne, hused]
    have hlt : j.val < i.val := hj
    omega

theorem FilledWith.first_eq (h : FilledWith cells free entries) {p : α → Bool}
    (hfree : p free = false) : first cells p = entries.find? p := by
  cases hposition : position cells p with
  | none =>
      rw [first, hposition, Option.map_none]
      symm
      rw [List.find?_eq_none]
      intro a ha
      obtain ⟨i, hi, rfl⟩ := List.mem_iff_getElem.mp ha
      have hcell := position_eq_none_iff.mp hposition ⟨i, hi.trans_le h.length_le⟩
      rw [h.get_of_lt hi] at hcell
      exact Bool.eq_false_iff.mp hcell
  | some i =>
      obtain ⟨hi, hbefore⟩ := position_eq_some_iff.mp hposition
      have hlt : i.val < entries.length := by
        by_contra hge
        rw [h.get_of_le (not_lt.mp hge), hfree] at hi
        exact Bool.false_ne_true hi
      rw [first, hposition, Option.map_some, h.get_of_lt hlt]
      symm
      rw [h.get_of_lt hlt] at hi
      rw [List.find?_eq_some_iff_getElem]
      refine ⟨hi, i.val, hlt, rfl, fun j hj => ?_⟩
      have hcell := hbefore ⟨j, hj.trans i.isLt⟩ hj
      rw [h.get_of_lt (hj.trans hlt)] at hcell
      rw [hcell]
      rfl

theorem FilledWith.countCells_eq (h : FilledWith cells free entries) {p : α → Bool}
    (hentries : ∀ a ∈ entries, p a = true) (hfree : p free = false) :
    countCells cells p = entries.length := by
  have hlist : cells.toList = entries ++ List.replicate (n - entries.length) free := by
    apply List.ext_getElem
    · have hle := h.length_le
      simp only [Vector.length_toList, List.length_append, List.length_replicate]
      omega
    · intro k hk hk'
      have hn : k < n := by simpa using hk
      rw [Vector.getElem_toList, ← get_eq_getElem cells ⟨k, hn⟩]
      rcases Nat.lt_or_ge k entries.length with hlt | hge
      · rw [h.get_of_lt hlt, List.getElem_append_left hlt]
      · rw [h.get_of_le hge, List.getElem_append_right hge, List.getElem_replicate]
  have hall : entries.filter p = entries := List.filter_eq_self.mpr hentries
  have hrest : (List.replicate (n - entries.length) free).filter p = [] := by
    simp [hfree]
  rw [countCells, hlist, List.filter_append, hall, hrest, List.append_nil]

end AlaniKernel.Foundation
