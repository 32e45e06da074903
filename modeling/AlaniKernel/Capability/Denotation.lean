import AlaniKernel.Capability.Attenuation
import AlaniKernel.Foundation.BitSet

/-!
# Capability sets as sets of capabilities

The words that `from_bits` accepts stand for the sets of capabilities, one for
each, and every operation on them is the operation on sets.
-/

namespace AlaniKernel

open AlaniKernel.Foundation

instance : Fintype Capability where
  elems := {.taskSpawn, .taskManage, .memoryMap, .memoryShare, .deviceList, .deviceOpen,
    .deviceCall, .cognitionInfer, .cognitionMemory, .securityManage, .auditAppend,
    .auditQuery, .auditVerify, .debugTrace, .kernelMaintenance}
  complete := by
    intro capability
    cases capability <;> decide

def Capability.index (self : Capability) : Fin 64 :=
  ⟨self.toUInt8.toNat, by cases self <;> decide⟩

theorem Capability.index_injective : Function.Injective Capability.index := by
  intro capability other h
  revert capability other
  decide

theorem Capability.toBitVec_bit (self : Capability) :
    self.bit.toBitVec = coded Capability.index {self} := by
  cases self <;> decide +kernel

theorem toBitVec_knownCapabilityBits :
    knownCapabilityBits.toBitVec = coded Capability.index Finset.univ := by
  decide +kernel

namespace CapabilitySet

def members (self : CapabilitySet) : Finset Capability :=
  Foundation.members Capability.index self.bits.toBitVec

def ofMembers (set : Finset Capability) : CapabilitySet :=
  ⟨⟨coded Capability.index set⟩⟩

def Known (self : CapabilitySet) : Prop := self.bits &&& ~~~knownCapabilityBits = 0

theorem known_iff_coded {self : CapabilitySet} :
    self.Known ↔ Foundation.Known Capability.index self.bits.toBitVec := by
  rw [Known, ← UInt64.toBitVec_inj, UInt64.toBitVec_and, UInt64.toBitVec_not,
    toBitVec_knownCapabilityBits]
  rfl

theorem fromBits_ok_iff {bits : UInt64} {set : CapabilitySet} :
    fromBits bits = .ok set ↔ set.bits = bits ∧ set.Known := by
  constructor
  · intro h
    obtain ⟨rfl, hknown⟩ := CapabilityRegistry.fromBits_eq_ok h
    exact ⟨rfl, hknown⟩
  · rintro ⟨rfl, hknown⟩
    exact CapabilityRegistry.fromBits_known hknown

theorem known_ofMembers (set : Finset Capability) : (ofMembers set).Known :=
  known_iff_coded.mpr (known_coded set)

theorem members_ofMembers (set : Finset Capability) : (ofMembers set).members = set :=
  members_coded Capability.index_injective set

theorem Known.ofMembers_members {self : CapabilitySet} (h : self.Known) :
    ofMembers self.members = self := by
  have hword := coded_members (known_iff_coded.mp h)
  cases self with
  | mk bits => exact congrArg (fun word => CapabilitySet.mk ⟨word⟩) hword

theorem contains_iff_mem (self : CapabilitySet) (capability : Capability) :
    self.contains capability = true ↔ capability ∈ self.members := by
  rw [contains, bne_iff_ne, ne_eq, ← UInt64.toBitVec_inj, UInt64.toBitVec_and,
    Capability.toBitVec_bit]
  exact and_single_ne_zero_iff _ _

theorem containsAll_iff_subset (self : CapabilitySet) {required : CapabilitySet}
    (h : required.Known) :
    self.containsAll required = true ↔ required.members ⊆ self.members := by
  rw [containsAll_iff, ← UInt64.toBitVec_inj, UInt64.toBitVec_and]
  exact and_eq_right_iff_subset (known_iff_coded.mp h)

theorem members_single (capability : Capability) :
    (single capability).members = {capability} := by
  rw [members, single, Capability.toBitVec_bit]
  exact members_coded Capability.index_injective _

theorem members_insert (self : CapabilitySet) (capability : Capability) :
    (self.insert capability).members = Insert.insert capability self.members := by
  have hor : (self.insert capability).members = self.members ∪ (single capability).members :=
    members_or _ _
  rw [hor, members_single, Finset.union_comm]
  rfl

theorem members_intersect (self other : CapabilitySet) :
    (self.intersect other).members = self.members ∩ other.members :=
  members_and _ _

theorem Known.isEmpty_iff {self : CapabilitySet} (h : self.Known) :
    self.isEmpty = true ↔ self.members = ∅ := by
  rw [isEmpty, beq_iff_eq, ← UInt64.toBitVec_inj]
  exact (members_eq_empty_iff (known_iff_coded.mp h)).symm

theorem Known.insert {self : CapabilitySet} (h : self.Known) (capability : Capability) :
    (self.insert capability).Known := by
  rw [known_iff_coded, Foundation.known_iff] at h ⊢
  have hcoded : Foundation.Known Capability.index (coded Capability.index {capability}) :=
    known_coded {capability}
  have hsingle := Foundation.known_iff.mp hcoded
  intro i hi
  rw [CapabilitySet.insert, UInt64.toBitVec_or, Capability.toBitVec_bit, BitVec.getLsbD_or,
    Bool.or_eq_true] at hi
  exact hi.elim (h i) (hsingle i)

theorem Known.intersect {self : CapabilitySet} (h : self.Known) (other : CapabilitySet) :
    (self.intersect other).Known := by
  rw [known_iff_coded, Foundation.known_iff] at h ⊢
  intro i hi
  rw [CapabilitySet.intersect, UInt64.toBitVec_and, BitVec.getLsbD_and,
    Bool.and_eq_true] at hi
  exact h i hi.1

theorem derive_ok_iff (self : CapabilitySet) {requested : CapabilitySet}
    (h : requested.Known) (child : CapabilitySet) :
    self.derive requested = .ok child ↔
      child = requested ∧ requested.members ⊆ self.members := by
  rw [← self.containsAll_iff_subset h, derive]
  split_ifs with hall
  · simp [hall, eq_comm]
  · simp [hall]

theorem require_ok_iff (self : CapabilitySet) (required : Capability) :
    self.require required = .ok () ↔ required ∈ self.members := by
  rw [← contains_iff_mem, require]
  split_ifs with hheld
  · simp [hheld]
  · simp [hheld]

/--
The values that `from_bits` accepts represent the sets of capabilities one to
one, and the operations keep to them and compute on the sets.
-/
theorem represents_sets :
    (∀ set : Finset Capability, ∃! value : CapabilitySet,
        fromBits value.bits = .ok value ∧ value.members = set) ∧
      ∀ self other : CapabilitySet, self.Known → other.Known → ∀ capability,
        (self.contains capability = true ↔ capability ∈ self.members) ∧
        (self.containsAll other = true ↔ other.members ⊆ self.members) ∧
        (self.isEmpty = true ↔ self.members = ∅) ∧
        ((self.insert capability).Known ∧
          (self.insert capability).members = Insert.insert capability self.members) ∧
        ((self.intersect other).Known ∧
          (self.intersect other).members = self.members ∩ other.members) ∧
        (self.require capability = .ok () ↔ capability ∈ self.members) ∧
        ∀ child, self.derive other = .ok child ↔
          child = other ∧ other.members ⊆ self.members := by
  constructor
  · intro set
    refine ⟨ofMembers set, ⟨fromBits_ok_iff.mpr ⟨rfl, known_ofMembers set⟩,
      members_ofMembers set⟩, ?_⟩
    rintro value ⟨hvalue, rfl⟩
    exact (fromBits_ok_iff.mp hvalue).2.ofMembers_members.symm
  · intro self other hself hother capability
    exact ⟨self.contains_iff_mem capability, self.containsAll_iff_subset hother,
      hself.isEmpty_iff, ⟨hself.insert capability, self.members_insert capability⟩,
      ⟨hself.intersect other, self.members_intersect other⟩,
      self.require_ok_iff capability, self.derive_ok_iff hother⟩

theorem represents_sets_pairs :
    let held := (single .deviceOpen).insert .deviceCall
    let other := (single .deviceCall).insert .auditQuery
    ¬ other.members ⊆ held.members ∧
      (held.intersect other).members = held.members ∩ other.members ∧
      held.derive other ≠ .ok other := by
  intro held other
  have hheld : held.bits &&& ~~~knownCapabilityBits = 0 := by decide +kernel
  have hother : other.bits &&& ~~~knownCapabilityBits = 0 := by decide +kernel
  obtain ⟨-, hcontains, -, -, hintersect, -, hderive⟩ :=
    represents_sets.2 held other hheld hother .deviceCall
  have hmissing : ¬ other.members ⊆ held.members := by
    rw [← hcontains]
    decide +kernel
  exact ⟨hmissing, hintersect.2, fun hok => hmissing ((hderive other).mp hok).2⟩

end CapabilitySet

theorem CapabilityRegistry.handleContains_ok_iff (self : CapabilityRegistry)
    (handle : CapabilityHandle) (required : Capability) :
    self.handleContains handle required = .ok true ↔
      ∃ rights, self.resolve handle = .ok rights ∧ required ∈ rights.members := by
  rw [handleContains]
  cases self.resolve handle with
  | error error => simp
  | ok rights => simp [← CapabilitySet.contains_iff_mem]

end AlaniKernel
