import Mathlib.Logic.Function.Basic
import AlaniKernel.Syscall.Abi

/-!
# The packed form of a version

`sys_info` returns the ABI version in a register, as one word of four fields.
-/

namespace AlaniKernel

namespace AbiVersion

theorem shifted_toNat (field : UInt16) {shift : UInt64} (h : shift.toNat ≤ 48) :
    (field.toUInt64 <<< shift).toNat = 2 ^ shift.toNat * field.toNat := by
  have hfield := field.toNat_lt
  have hplace : 2 ^ shift.toNat * field.toNat < 2 ^ 64 :=
    calc 2 ^ shift.toNat * field.toNat < 2 ^ shift.toNat * 2 ^ 16 :=
          Nat.mul_lt_mul_of_pos_left hfield (Nat.two_pow_pos _)
      _ ≤ 2 ^ 48 * 2 ^ 16 := Nat.mul_le_mul_right _ (Nat.pow_le_pow_right (by decide) h)
      _ = 2 ^ 64 := by decide
  rw [UInt64.toNat_shiftLeft, UInt16.toNat_toUInt64, Nat.shiftLeft_eq,
    Nat.mod_eq_of_lt (show shift.toNat < 64 by omega), Nat.mul_comm]
  exact Nat.mod_eq_of_lt hplace

theorem packed_toNat (self : AbiVersion) : self.packed.toNat =
    2 ^ 16 * (2 ^ 16 * (2 ^ 16 * self.major.toNat + self.minor.toNat) +
      self.patch.toNat) + self.flags.toNat := by
  have hminor := self.minor.toNat_lt
  have hpatch := self.patch.toNat_lt
  have hflags := self.flags.toNat_lt
  have hfirst : 2 ^ 48 * self.major.toNat ||| 2 ^ 32 * self.minor.toNat =
      2 ^ 32 * (2 ^ 16 * self.major.toNat + self.minor.toNat) := by
    rw [← Nat.two_pow_add_eq_or_of_lt (by omega)]
    omega
  have hsecond : 2 ^ 32 * (2 ^ 16 * self.major.toNat + self.minor.toNat) |||
      2 ^ 16 * self.patch.toNat =
        2 ^ 16 * (2 ^ 16 * (2 ^ 16 * self.major.toNat + self.minor.toNat) +
          self.patch.toNat) := by
    rw [← Nat.two_pow_add_eq_or_of_lt (by omega)]
    omega
  rw [packed, UInt64.toNat_or, UInt64.toNat_or, UInt64.toNat_or, shifted_toNat _ (by decide),
    shifted_toNat _ (by decide), shifted_toNat _ (by decide), UInt16.toNat_toUInt64]
  change 2 ^ 48 * self.major.toNat ||| 2 ^ 32 * self.minor.toNat |||
    2 ^ 16 * self.patch.toNat ||| self.flags.toNat = _
  rw [hfirst, hsecond, ← Nat.two_pow_add_eq_or_of_lt hflags]

theorem eq_of_fields {first second : AbiVersion}
    (hmajor : first.major.toNat = second.major.toNat)
    (hminor : first.minor.toNat = second.minor.toNat)
    (hpatch : first.patch.toNat = second.patch.toNat)
    (hflags : first.flags.toNat = second.flags.toNat) : first = second := by
  cases first
  cases second
  congr
  · exact UInt16.toNat_inj.mp hmajor
  · exact UInt16.toNat_inj.mp hminor
  · exact UInt16.toNat_inj.mp hpatch
  · exact UInt16.toNat_inj.mp hflags

/-- Every word is the packed form of exactly one version. -/
theorem packed_bijective : Function.Bijective AbiVersion.packed := by
  constructor
  · intro first second h
    have hwords := congrArg UInt64.toNat h
    rw [packed_toNat, packed_toNat] at hwords
    have hminor := first.minor.toNat_lt
    have hpatch := first.patch.toNat_lt
    have hflags := first.flags.toNat_lt
    have hminor' := second.minor.toNat_lt
    have hpatch' := second.patch.toNat_lt
    have hflags' := second.flags.toNat_lt
    apply eq_of_fields <;> omega
  · intro word
    have hword := word.toNat_lt
    refine ⟨
      { major := UInt16.ofNat (word.toNat / 2 ^ 48)
        minor := UInt16.ofNat (word.toNat / 2 ^ 32)
        patch := UInt16.ofNat (word.toNat / 2 ^ 16)
        flags := UInt16.ofNat word.toNat }, UInt64.toNat_inj.mp ?_⟩
    rw [packed_toNat]
    simp only [UInt16.toNat_ofNat']
    omega

end AbiVersion

end AlaniKernel
