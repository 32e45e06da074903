import AlaniKernel.Foundation.BitSet
import AlaniKernel.Memory

/-!
# Permissions as sets of flags

`MemoryPermissions` codes a set of six flags, and a shared region stores such a
word in its handle.  Sealing takes one flag away and adds another.
-/

namespace AlaniKernel

open AlaniKernel.Foundation

/-- The flags that a permission word can set, lowest bit first. -/
inductive MemoryFlag where
  | read
  | write
  | execute
  | user
  | device
  | sealed
  deriving DecidableEq, Repr

instance : Fintype MemoryFlag where
  elems := {.read, .write, .execute, .user, .device, .sealed}
  complete := by
    intro flag
    cases flag <;> decide

namespace MemoryFlag

def index : MemoryFlag → Fin 32
  | .read => 0
  | .write => 1
  | .execute => 2
  | .user => 3
  | .device => 4
  | .sealed => 5

theorem index_injective : Function.Injective index := by
  intro flag other h
  revert flag other
  decide

def inWord (bits : UInt32) : Finset MemoryFlag := members index bits.toBitVec

def Only (bits : UInt32) : Prop := bits &&& ~~~MemoryPermissions.knownBits = 0

instance (bits : UInt32) : Decidable (Only bits) := inferInstanceAs (Decidable (_ = _))

theorem toBitVec_knownBits :
    MemoryPermissions.knownBits.toBitVec = coded index Finset.univ := by
  decide +kernel

theorem only_iff_known {bits : UInt32} : Only bits ↔ Known index bits.toBitVec := by
  rw [Only, ← UInt32.toBitVec_inj, UInt32.toBitVec_and, UInt32.toBitVec_not,
    toBitVec_knownBits]
  rfl

theorem inWord_write : inWord MemoryPermissions.write.bits = {.write} := by
  decide +kernel

theorem inWord_sealed : inWord MemoryPermissions.sealed.bits = {.sealed} := by
  decide +kernel

end MemoryFlag

namespace MemoryPermissions

def flags (self : MemoryPermissions) : Finset MemoryFlag := MemoryFlag.inWord self.bits

theorem fromBits_ok_iff {bits : UInt32} {permissions : MemoryPermissions} :
    fromBits bits = .ok permissions ↔ permissions.bits = bits ∧ MemoryFlag.Only bits := by
  rw [fromBits, MemoryFlag.Only]
  split_ifs with hknown
  · cases permissions
    simp [hknown, eq_comm]
  · simp [hknown]

theorem contains_iff_subset (self : MemoryPermissions) {other : MemoryPermissions}
    (h : MemoryFlag.Only other.bits) :
    self.contains other = true ↔ other.flags ⊆ self.flags := by
  rw [contains, beq_iff_eq, ← UInt32.toBitVec_inj, UInt32.toBitVec_and]
  exact and_eq_right_iff_subset (MemoryFlag.only_iff_known.mp h)

theorem flags_union (self other : MemoryPermissions) :
    (self.union other).flags = self.flags ∪ other.flags :=
  members_or _ _

theorem isUserMapping_iff (self : MemoryPermissions) :
    self.isUserMapping = true ↔ MemoryFlag.user ∈ self.flags := by
  have huser : user.flags = {.user} := by decide +kernel
  rw [isUserMapping, self.contains_iff_subset (by decide), huser,
    Finset.singleton_subset_iff]

theorem contains_sealed_iff (self : MemoryPermissions) :
    self.contains .sealed = true ↔ MemoryFlag.sealed ∈ self.flags := by
  have hsealed : sealed.flags = {.sealed} := MemoryFlag.inWord_sealed
  rw [self.contains_iff_subset (by decide), hsealed, Finset.singleton_subset_iff]

theorem existsUnique_flags (set : Finset MemoryFlag) :
    ∃! permissions : MemoryPermissions,
      fromBits permissions.bits = .ok permissions ∧ permissions.flags = set := by
  refine ⟨⟨⟨coded MemoryFlag.index set⟩⟩, ⟨fromBits_ok_iff.mpr ⟨rfl, ?_⟩,
    members_coded MemoryFlag.index_injective set⟩, ?_⟩
  · exact MemoryFlag.only_iff_known.mpr (known_coded set)
  · rintro ⟨bits⟩ ⟨hbits, rfl⟩
    have honly := MemoryFlag.only_iff_known.mp (fromBits_ok_iff.mp hbits).2
    exact congrArg (fun word => MemoryPermissions.mk ⟨word⟩) (coded_members honly).symm

end MemoryPermissions

namespace SharedRegion

def flags (self : SharedRegion) : Finset MemoryFlag :=
  MemoryFlag.inWord self.handle.permissions

theorem flags_sealRegion (self : SharedRegion) :
    (MemoryManager.sealRegion self).flags = Insert.insert .sealed (self.flags.erase .write) := by
  have hword : (MemoryManager.sealRegion self).flags =
      self.flags \ MemoryFlag.inWord MemoryPermissions.write.bits ∪
        MemoryFlag.inWord MemoryPermissions.sealed.bits := by
    rw [flags, MemoryManager.sealRegion, MemoryFlag.inWord, UInt32.toBitVec_or,
      UInt32.toBitVec_and, UInt32.toBitVec_not, members_or, members_and_not]
    rfl
  rw [hword, MemoryFlag.inWord_write, MemoryFlag.inWord_sealed, Finset.sdiff_singleton_eq_erase,
    Finset.union_comm]
  rfl

theorem only_sealRegion {self : SharedRegion} (h : MemoryFlag.Only self.handle.permissions) :
    MemoryFlag.Only (MemoryManager.sealRegion self).handle.permissions := by
  have hsealed : MemoryFlag.Only MemoryPermissions.sealed.bits := by decide
  rw [MemoryFlag.only_iff_known, known_iff] at h hsealed ⊢
  intro i hi
  rw [MemoryManager.sealRegion, UInt32.toBitVec_or, UInt32.toBitVec_and, BitVec.getLsbD_or,
    BitVec.getLsbD_and, Bool.or_eq_true, Bool.and_eq_true] at hi
  exact hi.elim (fun hkept => h i hkept.1) (hsealed i)

end SharedRegion

/--
Permission words that `from_bits` accepts represent the sets of flags one to
one, and `contains`, `union` and sealing compute on the sets.
-/
theorem permissions_represent_flags :
    (∀ set : Finset MemoryFlag, ∃! permissions : MemoryPermissions,
        MemoryPermissions.fromBits permissions.bits = .ok permissions ∧
          permissions.flags = set) ∧
      (∀ self other : MemoryPermissions, MemoryFlag.Only other.bits →
        (self.contains other = true ↔ other.flags ⊆ self.flags) ∧
        (self.union other).flags = self.flags ∪ other.flags ∧
        (self.isUserMapping = true ↔ MemoryFlag.user ∈ self.flags)) ∧
      ∀ region : SharedRegion, MemoryFlag.Only region.handle.permissions →
        MemoryFlag.Only (MemoryManager.sealRegion region).handle.permissions ∧
        (MemoryManager.sealRegion region).flags =
          Insert.insert .sealed (region.flags.erase .write) :=
  ⟨MemoryPermissions.existsUnique_flags,
    fun self other hother => ⟨self.contains_iff_subset hother, self.flags_union other,
      self.isUserMapping_iff⟩,
    fun region honly => ⟨SharedRegion.only_sealRegion honly, region.flags_sealRegion⟩⟩

theorem permissions_represent_flags_read :
    (MemoryPermissions.read.union .user).flags =
      MemoryPermissions.read.flags ∪ MemoryPermissions.user.flags :=
  (permissions_represent_flags.2.1 .read .user (by decide +kernel)).2.1

end AlaniKernel
