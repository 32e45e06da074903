import Mathlib.Data.List.Basic

/-!
# Progress along an expected sequence

A tracker holds a position in a sequence of expected items and moves on only
when the item at its position is offered.  It therefore completes an initial
part of the sequence exactly when that part is among the offered items, in order.
-/

namespace AlaniKernel.Foundation

universe u

variable {α : Type u} [DecidableEq α]

def advance (expected : List α) (index : Nat) (offered : α) : Nat :=
  if expected[index]? = some offered then index + 1 else index

variable {expected : List α}

theorem advance_of_expected {index : Nat} {item : α} (h : expected[index]? = some item) :
    advance expected index item = index + 1 :=
  if_pos h

theorem advance_of_other {index : Nat} {item : α} (h : expected[index]? ≠ some item) :
    advance expected index item = index :=
  if_neg h

theorem foldl_advance_le {index : Nat} (h : index ≤ expected.length) (offered : List α) :
    offered.foldl (advance expected) index ≤ expected.length := by
  induction offered generalizing index with
  | nil => exact h
  | cons item offered ih =>
      rw [List.foldl_cons]
      apply ih
      by_cases hitem : expected[index]? = some item
      · obtain ⟨hlt, -⟩ := List.getElem?_eq_some_iff.mp hitem
        rw [advance_of_expected hitem]
        exact hlt
      · rwa [advance_of_other hitem]

theorem le_foldl_advance_iff {index goal : Nat} (hgoal : goal ≤ expected.length)
    (offered : List α) :
    goal ≤ offered.foldl (advance expected) index ↔
      ((expected.drop index).take (goal - index)).Sublist offered := by
  induction offered generalizing index with
  | nil =>
      rw [List.foldl_nil, List.sublist_nil, List.take_eq_nil_iff, List.drop_eq_nil_iff]
      omega
  | cons item offered ih =>
      rw [List.foldl_cons]
      by_cases hitem : expected[index]? = some item
      · rw [advance_of_expected hitem, ih]
        obtain ⟨hlt, rfl⟩ := List.getElem?_eq_some_iff.mp hitem
        cases hleft : goal - index with
        | zero =>
            have hnone : goal - (index + 1) = 0 := by omega
            simp [hnone]
        | succ left =>
            have hrest : goal - (index + 1) = left := by omega
            rw [List.drop_eq_getElem_cons hlt, List.take_succ_cons, List.cons_sublist_cons,
              hrest]
      · rw [advance_of_other hitem, ih]
        constructor
        · exact fun h => h.cons item
        · intro h
          cases hrest : (expected.drop index).take (goal - index) with
          | nil => exact List.nil_sublist offered
          | cons head tail =>
              have hhead : expected[index]? = some head := by
                have hfirst := congrArg List.head? hrest
                rw [List.head?_take, List.head?_cons] at hfirst
                split_ifs at hfirst
                rwa [List.head?_drop] at hfirst
              have hne : head ≠ item := by
                rintro rfl
                exact hitem hhead
              rw [hrest] at h
              exact h.of_cons_of_ne hne

/-- From the start, the tracker has come as far as the offers contain the sequence. -/
theorem le_foldl_advance_zero_iff {goal : Nat} (hgoal : goal ≤ expected.length)
    (offered : List α) :
    goal ≤ offered.foldl (advance expected) 0 ↔ (expected.take goal).Sublist offered := by
  rw [le_foldl_advance_iff hgoal, List.drop_zero, Nat.sub_zero]

end AlaniKernel.Foundation
