import AlaniKernel.Foundation.Cells
import AlaniKernel.Foundation.Ring
import AlaniKernel.Foundation.Word
import Mathlib.Algebra.BigOperators.Group.List.Basic

/-!
# Operations of a build with overflow checks

Such a build computes as any other until an addition or subtraction leaves its
type or an index leaves its array, where it stops.  `none` is that stop.
-/

namespace AlaniKernel.Foundation

universe u

/-- A `usize` has at least 16 bits on every target. -/
abbrev usizeLimit : Nat := 2 ^ 16

def checkedSub64 (a b : UInt64) : Option UInt64 := if b ≤ a then some (a - b) else none

theorem checkedSub64_one {a : UInt64} (h : a ≠ 0) :
    checkedSub64 a 1 = some (a - 1) := if_pos (one_le_of_ne_zero h)

theorem checkedAdd32_of_lt {a b : UInt32} (h : a.toNat + b.toNat < 2 ^ 32) :
    checkedAdd32 a b = some (a + b) := if_pos h

/-- The sum of an iterator, which stops at the first partial sum that overflows. -/
def checkedSum64 (values : List UInt64) : Option UInt64 := values.foldlM checkedAdd64 0

theorem foldlM_checkedAdd64 (total : UInt64) (values : List UInt64) :
    values.foldlM checkedAdd64 total =
      if total.toNat + (values.map UInt64.toNat).sum < 2 ^ 64 then
        some (total + values.sum)
      else none := by
  induction values generalizing total with
  | nil => simp [total.toNat_lt]
  | cons a values ih =>
      rw [List.foldlM_cons, List.map_cons, List.sum_cons, List.sum_cons, checkedAdd64]
      by_cases hfirst : total.toNat + a.toNat < 2 ^ 64
      · have htotal : (total + a).toNat = total.toNat + a.toNat := by
          rw [UInt64.toNat_add, Nat.mod_eq_of_lt hfirst]
        rw [if_pos hfirst, Option.bind_eq_bind, Option.bind_some, ih, htotal,
          UInt64.add_assoc, Nat.add_assoc]
      · rw [if_neg hfirst, if_neg (by omega)]
        rfl

/-- The partial sums only grow, so the whole sum decides. -/
theorem checkedSum64_eq (values : List UInt64) :
    checkedSum64 values =
      if (values.map UInt64.toNat).sum < 2 ^ 64 then some values.sum else none := by
  rw [checkedSum64, foldlM_checkedAdd64, UInt64.toNat_zero, Nat.zero_add,
    UInt64.zero_add]

def getChecked {α : Type u} {n : Nat} (cells : Vector α n) (index : Nat) : Option α :=
  if h : index < n then some (cells.get ⟨index, h⟩) else none

theorem getChecked_val {α : Type u} {n : Nat} (cells : Vector α n) (i : Fin n) :
    getChecked cells i.val = some (cells.get i) := dif_pos i.isLt

def takeChecked {α : Type u} {n : Nat} (cells : Vector α n) (len : Nat) :
    Option (List α) :=
  if len ≤ n then some (cells.toList.take len) else none

namespace Ring

variable {α : Type u} {n : Nat}

/-- `push`, where its index is in range and neither of its sums overflows. -/
def pushChecked (self : Ring α n) (value : α) : Option (Ring α n) :=
  if self.cursor < n ∧ self.cursor + 1 < usizeLimit ∧
      (self.count < n → self.count + 1 < usizeLimit) then
    some (self.push value)
  else none

theorem pushChecked_eq (self : Ring α n) (hn : n < usizeLimit) (value : α) :
    self.pushChecked value = some (self.push value) := by
  have hcursor := self.cursor_lt
  exact if_pos ⟨hcursor, by omega, fun hcount => by omega⟩

end Ring

end AlaniKernel.Foundation
