import Mathlib.Data.UInt

/-!
# Checked and saturating machine arithmetic

The additions of fixed-width integers that report or absorb an overflow, each
with the natural-number fact that the callers use.
-/

namespace AlaniKernel.Foundation

universe u v

/-- `u64::checked_add`. -/
def checkedAdd64 (a b : UInt64) : Option UInt64 :=
  if a.toNat + b.toNat < 2 ^ 64 then some (a + b) else none

/-- `u32::checked_add`. -/
def checkedAdd32 (a b : UInt32) : Option UInt32 :=
  if a.toNat + b.toNat < 2 ^ 32 then some (a + b) else none

/-- `u16::saturating_add`. -/
def saturatingAdd16 (a b : UInt16) : UInt16 :=
  if a.toNat + b.toNat < 2 ^ 16 then a + b else 65535

/-- `u8::saturating_add`. -/
def saturatingAdd8 (a b : UInt8) : UInt8 :=
  if a.toNat + b.toNat < 2 ^ 8 then a + b else 255

theorem checkedAdd64_eq_some_iff {a b c : UInt64} :
    checkedAdd64 a b = some c ↔ c.toNat = a.toNat + b.toNat := by
  have hc := c.toNat_lt
  unfold checkedAdd64
  split
  · rename_i h
    rw [Option.some.injEq, ← UInt64.toNat_inj, UInt64.toNat_add, Nat.mod_eq_of_lt h]
    exact eq_comm
  · simp only [reduceCtorEq, false_iff]
    omega

theorem checkedAdd64_eq_none_iff {a b : UInt64} :
    checkedAdd64 a b = none ↔ 2 ^ 64 ≤ a.toNat + b.toNat := by
  unfold checkedAdd64
  split <;> simp <;> omega

theorem saturatingAdd16_toNat (a b : UInt16) :
    (saturatingAdd16 a b).toNat = min 65535 (a.toNat + b.toNat) := by
  unfold saturatingAdd16
  split
  · rw [UInt16.toNat_add]
    omega
  · simp
    omega

theorem saturatingAdd8_toNat (a b : UInt8) :
    (saturatingAdd8 a b).toNat = min 255 (a.toNat + b.toNat) := by
  unfold saturatingAdd8
  split
  · rw [UInt8.toNat_add]
    omega
  · simp
    omega

theorem exists_toNat_eq {n : Nat} (h : n < 2 ^ 64) : ∃ word : UInt64, word.toNat = n :=
  ⟨.ofNat n, by rw [UInt64.toNat_ofNat', Nat.mod_eq_of_lt h]⟩

/-! ## The predecessor of a positive word -/

theorem one_le_of_ne_zero {a : UInt64} (h : a ≠ 0) : 1 ≤ a := by
  rw [UInt64.le_iff_toNat_le]
  exact Nat.one_le_iff_ne_zero.mpr (UInt64.toNat_inj.not.mpr h)

theorem toNat_pred {a : UInt64} (h : a ≠ 0) : (a - 1).toNat = a.toNat - 1 :=
  UInt64.toNat_sub_of_le _ _ (one_le_of_ne_zero h)

/-! ## Wrapping sums and counters -/

theorem toNat_sum_mod (values : List UInt64) :
    values.sum.toNat = (values.map UInt64.toNat).sum % 2 ^ 64 := by
  induction values with
  | nil => rfl
  | cons a values ih =>
      rw [List.sum_cons, UInt64.toNat_add, ih, List.map_cons, List.sum_cons]
      exact Nat.add_mod_mod _ _ _

theorem counter_foldl {σ : Type u} {α : Type v} {write : σ → α → σ}
    {counter : σ → UInt64} (h : ∀ s a, counter (write s a) = counter s + 1)
    (s : σ) (values : List α) :
    counter (values.foldl write s) = counter s + UInt64.ofNat values.length := by
  induction values generalizing s with
  | nil => exact (UInt64.add_zero _).symm
  | cons a values ih =>
      rw [List.foldl_cons, ih, h, List.length_cons, UInt64.ofNat_add,
        UInt64.add_assoc, UInt64.add_comm 1]
      rfl

/-! ## Clearing and setting flag bits -/

theorem clear_set_and_cleared {bits cleared set : UInt32}
    (h : set &&& cleared = 0) :
    (bits &&& ~~~cleared ||| set) &&& cleared = 0 := by
  rw [← UInt32.toBitVec_inj] at h ⊢
  simp only [UInt32.toBitVec_and, UInt32.toBitVec_or, UInt32.toBitVec_not] at h ⊢
  rw [BitVec.and_or_distrib_right, h]
  ext i hi
  simp

theorem clear_set_idem (bits cleared set : UInt32) :
    (bits &&& ~~~cleared ||| set) &&& ~~~cleared ||| set =
      bits &&& ~~~cleared ||| set := by
  rw [← UInt32.toBitVec_inj]
  simp only [UInt32.toBitVec_and, UInt32.toBitVec_or, UInt32.toBitVec_not]
  ext i hi
  simp only [BitVec.getElem_or, BitVec.getElem_and, BitVec.getElem_not]
  cases bits.toBitVec[i] <;> cases cleared.toBitVec[i] <;> simp

theorem clear_set_and_set (bits cleared set : UInt32) :
    (bits &&& ~~~cleared ||| set) &&& set = set := by
  rw [← UInt32.toBitVec_inj]
  simp only [UInt32.toBitVec_and, UInt32.toBitVec_or, UInt32.toBitVec_not]
  rw [BitVec.and_or_distrib_right, BitVec.and_self]
  ext i hi
  simp

/-! ## Alignment masks -/

theorem isPowerOfTwo_of_and_pred {value : UInt64} (hpos : value ≠ 0)
    (h : value &&& (value - 1) = 0) : value.toNat.isPowerOfTwo := by
  rw [← UInt64.toNat_inj, UInt64.toNat_and, toNat_pred hpos] at h
  rw [ne_eq, ← UInt64.toNat_inj] at hpos
  exact Nat.ne_zero_and_sub_one_eq_zero_iff_isPowerOfTwo.mp ⟨hpos, h⟩

theorem and_pred_eq_zero_iff {alignment : UInt64} (h : alignment.toNat.isPowerOfTwo)
    (value : UInt64) :
    value &&& (alignment - 1) = 0 ↔ alignment.toNat ∣ value.toNat := by
  have hpos : alignment ≠ 0 := by
    rintro rfl
    exact absurd (Nat.pos_of_isPowerOfTwo h) (Nat.not_lt_zero 0)
  obtain ⟨k, hk⟩ := h
  rw [← UInt64.toNat_inj, UInt64.toNat_and, toNat_pred hpos, hk,
    Nat.and_two_pow_sub_one_eq_mod]
  exact (Nat.dvd_iff_mod_eq_zero).symm

/-! ## Bits outside a mask -/

theorem and_not_eq_zero_iff {w : Nat} (bits mask : BitVec w) :
    bits &&& ~~~mask = 0 ↔ ∀ i, bits.getLsbD i = true → mask.getLsbD i = true := by
  constructor
  · intro h i hi
    have hlt := BitVec.lt_of_getLsbD hi
    have hcleared := congrArg (fun v : BitVec w => v.getLsbD i) h
    simpa [hi, hlt] using hcleared
  · intro h
    apply BitVec.eq_of_getLsbD_eq
    intro i hi
    cases hbit : bits.getLsbD i with
    | false => simp [hbit]
    | true => simp [hbit, h i hbit]

theorem toNat_lt_two_pow_iff {w : Nat} (bits : BitVec w) (n : Nat) :
    bits.toNat < 2 ^ n ↔ ∀ i, n ≤ i → bits.getLsbD i = false := by
  constructor
  · intro h i hi
    exact Nat.testBit_lt_two_pow (h.trans_le (Nat.pow_le_pow_right (by omega) hi))
  · intro h
    exact Nat.lt_pow_two_of_testBit _ h

theorem and_not_toUInt64_eq_zero_iff (register : UInt64) (known : UInt32) :
    register &&& ~~~known.toUInt64 = 0 ↔
      register.toUInt32 &&& ~~~known = 0 ∧ register.toNat < 2 ^ 32 := by
  have hlow : ∀ i < 32, register.toUInt32.toBitVec.getLsbD i =
      register.toBitVec.getLsbD i := by
    intro i hi
    simp [hi]
  have hmask : ∀ i, known.toUInt64.toBitVec.getLsbD i = known.toBitVec.getLsbD i := by
    intro i
    by_cases hi : i < 64
    · simp [hi]
    · rw [BitVec.getLsbD_of_ge _ _ (by omega), BitVec.getLsbD_of_ge _ _ (by omega)]
  rw [← UInt64.toBitVec_inj, ← UInt32.toBitVec_inj, UInt64.toBitVec_and,
    UInt64.toBitVec_not, UInt32.toBitVec_and, UInt32.toBitVec_not]
  change _ = 0 ↔ _ = 0 ∧ register.toBitVec.toNat < 2 ^ 32
  rw [and_not_eq_zero_iff, and_not_eq_zero_iff, toNat_lt_two_pow_iff]
  constructor
  · intro h
    constructor
    · intro i hi
      have hlt := BitVec.lt_of_getLsbD hi
      rw [hlow i hlt] at hi
      rw [← hmask]
      exact h i hi
    · intro i hi
      rw [← Bool.not_eq_true]
      intro hbit
      have hknown := h i hbit
      rw [hmask, BitVec.getLsbD_of_ge _ _ hi] at hknown
      contradiction
  · rintro ⟨h, hhigh⟩ i hi
    rw [hmask]
    by_cases hlt : i < 32
    · apply h
      rwa [hlow i hlt]
    · rw [hhigh i (by omega)] at hi
      contradiction

end AlaniKernel.Foundation
