import AlaniKernel.Capability.Attenuation
import AlaniKernel.Device
import AlaniKernel.Foundation.Filling
import AlaniKernel.Foundation.Transition

/-!
# Device mediation over registrations

The registry keeps the descriptors that it accepted in the order in which they
came, and no two share an identifier.  A call is authorized by the descriptor of
its device alone.
-/

namespace AlaniKernel

open AlaniKernel.Foundation

namespace CapabilitySet

def Includes (self required : CapabilitySet) : Prop :=
  ∀ i, required.bits.toNat.testBit i = true → self.bits.toNat.testBit i = true

theorem containsAll_iff_includes {self required : CapabilitySet} :
    self.containsAll required = true ↔ self.Includes required := by
  rw [containsAll_iff, ← UInt64.toNat_inj, UInt64.toNat_and]
  constructor
  · intro h i hi
    have hbit := congrArg (fun bits => bits.testBit i) h
    simpa [hi] using hbit
  · intro h
    apply Nat.eq_of_testBit_eq
    intro i
    cases hbit : required.bits.toNat.testBit i with
    | false => simp [hbit]
    | true => simp [hbit, h i hbit]

theorem Includes.contains {self other : CapabilitySet} (h : self.Includes other)
    {capability : Capability} (hother : other.contains capability = true) :
    self.contains capability = true := by
  have hbits := containsAll_iff.mp (containsAll_iff_includes.mpr h)
  simp only [CapabilitySet.contains, bne_iff_ne, ne_eq] at hother ⊢
  intro hnone
  apply hother
  rw [← hbits, UInt64.and_comm self.bits, UInt64.and_assoc, hnone, UInt64.and_zero]

end CapabilitySet

/-- What a descriptor asks of a call and its caller. -/
structure DeviceDescriptor.Admits (descriptor : DeviceDescriptor)
    (operation : DeviceOperation) (caller : CapabilitySet) (inputLen outputLen : UInt64) :
    Prop where
  available : descriptor.isAvailable = true
  mayCall : caller.contains .deviceCall = true
  held : caller.Includes descriptor.requiredCapabilities
  supported : descriptor.supports operation = true
  input_le : inputLen.toNat ≤ descriptor.maxInputLen.toNat
  output_le : outputLen.toNat ≤ descriptor.maxOutputLen.toNat

theorem DeviceDescriptor.Admits.mono {descriptor : DeviceDescriptor}
    {operation : DeviceOperation} {caller more : CapabilitySet} {inputLen outputLen : UInt64}
    (h : descriptor.Admits operation caller inputLen outputLen)
    (hmore : more.Includes caller) : descriptor.Admits operation more inputLen outputLen :=
  { h with
    mayCall := hmore.contains h.mayCall
    held := fun i hi => hmore i (h.held i hi) }

namespace DeviceRegistry

theorem register_cases (self : DeviceRegistry) (descriptor : DeviceDescriptor) :
    (∃ error, self.register descriptor = (.error error, self) ∧
        (descriptor.id = 0 ∨ (self.get descriptor.id).isSome = true ∨
          position self.slots (fun slot => !slot.occupied) = none)) ∨
      ∃ slot : Fin maxDevices, descriptor.id ≠ 0 ∧ self.get descriptor.id = none ∧
        position self.slots (fun slot => !slot.occupied) = some slot ∧
        self.register descriptor =
          (.ok (),
            { slots :=
                self.slots.set slot { occupied := true, descriptor } slot.isLt }) := by
  unfold register
  by_cases hid : descriptor.id = 0
  · exact .inl ⟨.invalidArgument, if_pos hid, .inl hid⟩
  · rw [if_neg hid]
    by_cases htaken : (self.get descriptor.id).isSome = true
    · exact .inl ⟨.duplicate, if_pos htaken, .inr (.inl htaken)⟩
    · rw [if_neg htaken]
      cases hslot : position self.slots (fun slot => !slot.occupied) with
      | none => exact .inl ⟨.capacityExceeded, rfl, .inr (.inr rfl)⟩
      | some slot => exact .inr ⟨slot, hid, by simpa using htaken, rfl, rfl⟩

theorem authorizeCall_eq_ok_iff {self : DeviceRegistry} {id : DeviceId}
    {operation : DeviceOperation} {caller : CapabilitySet} {inputLen outputLen : UInt64}
    {descriptor : DeviceDescriptor} :
    self.authorizeCall id operation caller inputLen outputLen = .ok descriptor ↔
      self.get id = some descriptor ∧
        descriptor.Admits operation caller inputLen outputLen := by
  have hlens : (inputLen ≤ descriptor.maxInputLen.toUInt64 ∧
      outputLen ≤ descriptor.maxOutputLen.toUInt64) ↔
        inputLen.toNat ≤ descriptor.maxInputLen.toNat ∧
          outputLen.toNat ≤ descriptor.maxOutputLen.toNat := by
    rw [UInt64.le_iff_toNat_le, UInt64.le_iff_toNat_le, UInt32.toNat_toUInt64,
      UInt32.toNat_toUInt64]
  unfold authorizeCall CapabilitySet.require
  constructor
  · intro h
    split_ifs at h with hcaller
    · cases hget : self.get id with
      | none =>
          rw [hget] at h
          contradiction
      | some found =>
          rw [hget] at h
          dsimp only at h
          split_ifs at h with hready hsupported hheld hlarge
          cases h
          rw [not_or, UInt64.not_lt, UInt64.not_lt, hlens] at hlarge
          simp only [Bool.not_eq_true', Bool.not_eq_false] at hready hsupported hheld
          exact ⟨rfl,
            { available := hready
              mayCall := hcaller
              held := CapabilitySet.containsAll_iff_includes.mp hheld
              supported := hsupported
              input_le := hlarge.1
              output_le := hlarge.2 }⟩
  · rintro ⟨hget, hadmits⟩
    have hheld := CapabilitySet.containsAll_iff_includes.mpr hadmits.held
    have hfits := hlens.mpr ⟨hadmits.input_le, hadmits.output_le⟩
    simp [hget, hadmits.available, hadmits.mayCall, hadmits.supported, hheld, hfits]

/-! ## Registrations -/

def accepted (events : List (DeviceDescriptor × KernelResult Unit)) :
    List DeviceDescriptor :=
  events.filterMap fun event => event.2.toOption.map fun _ => event.1

/-- The table holds the entries in order, and no two of them share an identifier. -/
structure Stores (registry : DeviceRegistry) (entries : List DeviceDescriptor) : Prop where
  filled : FilledWith registry.slots .empty
    (entries.map fun descriptor => { occupied := true, descriptor })
  unique : entries.Pairwise fun descriptor other => descriptor.id ≠ other.id

theorem stores_new : new.Stores [] :=
  ⟨filledWith_replicate _, List.Pairwise.nil⟩

theorem Stores.get_eq {self : DeviceRegistry} {entries : List DeviceDescriptor}
    (h : self.Stores entries) (id : DeviceId) :
    self.get id = entries.find? (·.id == id) := by
  rw [get, h.filled.first_eq rfl, List.find?_map, Option.map_map]
  simp [Function.comp_def]

theorem Stores.get_eq_none_iff {self : DeviceRegistry} {entries : List DeviceDescriptor}
    (h : self.Stores entries) (id : DeviceId) :
    self.get id = none ↔ ∀ other ∈ entries, other.id ≠ id := by
  simp [h.get_eq]

theorem Stores.len_eq {self : DeviceRegistry} {entries : List DeviceDescriptor}
    (h : self.Stores entries) : self.len = entries.length := by
  rw [len, h.filled.countCells_eq (by simp) rfl, List.length_map]

theorem Stores.position_free {self : DeviceRegistry} {entries : List DeviceDescriptor}
    (h : self.Stores entries) {slot : Fin maxDevices} :
    position self.slots (fun slot => !slot.occupied) = some slot ↔
      slot.val = entries.length := by
  rw [h.filled.position_free (by simp) rfl, List.length_map]

theorem Stores.register_eq_ok_iff {self : DeviceRegistry} {entries : List DeviceDescriptor}
    (h : self.Stores entries) (descriptor : DeviceDescriptor) :
    (self.register descriptor).1 = .ok () ↔
      descriptor.id ≠ 0 ∧ (∀ other ∈ entries, other.id ≠ descriptor.id) ∧
        entries.length < maxDevices := by
  rw [← h.get_eq_none_iff]
  rcases self.register_cases descriptor with
    ⟨error, heq, hwhy⟩ | ⟨slot, hid, hget, hslot, heq⟩
  · rw [heq]
    simp only [reduceCtorEq, false_iff]
    rintro ⟨hid, hget, hroom⟩
    rcases hwhy with hzero | htaken | hfull
    · exact hid hzero
    · simp [hget] at htaken
    · have hfree := h.position_free.mpr (rfl : (⟨_, hroom⟩ : Fin maxDevices).val = _)
      simp [hfull] at hfree
  · have hroom : entries.length < maxDevices := h.position_free.mp hslot ▸ slot.isLt
    simp [heq, hid, hget, hroom]

theorem Stores.register {self : DeviceRegistry} {entries : List DeviceDescriptor}
    (h : self.Stores entries) (descriptor : DeviceDescriptor) :
    (self.register descriptor).2.Stores
      (entries ++ accepted [(descriptor, (self.register descriptor).1)]) := by
  rcases self.register_cases descriptor with ⟨error, heq, -⟩ | ⟨slot, -, hget, hslot, heq⟩
  · rw [heq]
    simpa [accepted, Except.toOption] using h
  · rw [heq]
    constructor
    · have hnext := h.filled.snoc (by simpa using h.position_free.mp hslot)
        { occupied := true, descriptor }
      simpa [accepted, Except.toOption] using hnext
    · have hfresh := (h.get_eq_none_iff _).mp hget
      simpa [accepted, Except.toOption, List.pairwise_append, h.unique] using hfresh

abbrev registering (attempts : List DeviceDescriptor) : DeviceRegistry :=
  run register new attempts

def registered (attempts : List DeviceDescriptor) : List DeviceDescriptor :=
  accepted (history register new attempts)

theorem stores_registered (attempts : List DeviceDescriptor) :
    (registering attempts).Stores (registered attempts) := by
  have hstep : ∀ (registry : DeviceRegistry) events descriptor,
      registry.Stores (accepted events) → (registry.register descriptor).2.Stores
        (accepted (events ++ [(descriptor, (registry.register descriptor).1)])) := by
    intro registry events descriptor h
    rw [accepted, List.filterMap_append]
    exact h.register descriptor
  exact run_history_invariant (I := fun registry events => Stores registry (accepted events))
    hstep stores_new attempts

theorem registered_append (attempts later : List DeviceDescriptor) :
    ∃ more, registered (attempts ++ later) = registered attempts ++ more := by
  rw [registered, history_append, accepted, List.filterMap_append]
  exact ⟨_, rfl⟩

/--
A device is known by the first descriptor accepted under its identifier, for
ever after.  That descriptor alone decides which calls to the device are
authorized, and a caller with more capabilities is never refused what one with
fewer was granted.
-/
theorem device_mediation (attempts : List DeviceDescriptor) :
    (∀ id, (registering attempts).get id =
      (registered attempts).find? (·.id == id)) ∧
    (∀ id descriptor later, (registering attempts).get id = some descriptor →
      (registering (attempts ++ later)).get id = some descriptor) ∧
    ((registered attempts).Pairwise fun descriptor other => descriptor.id ≠ other.id) ∧
    (registering attempts).len = (registered attempts).length ∧
    (∀ descriptor, ((registering attempts).register descriptor).1 = .ok () ↔
      descriptor.id ≠ 0 ∧ (∀ other ∈ registered attempts, other.id ≠ descriptor.id) ∧
        (registered attempts).length < maxDevices) ∧
    (∀ id operation caller inputLen outputLen descriptor,
      (registering attempts).authorizeCall id operation caller inputLen outputLen =
          .ok descriptor ↔
        (registering attempts).get id = some descriptor ∧
          descriptor.Admits operation caller inputLen outputLen) ∧
    ∀ id operation caller more inputLen outputLen descriptor, more.Includes caller →
      (registering attempts).authorizeCall id operation caller inputLen outputLen =
        .ok descriptor →
      (registering attempts).authorizeCall id operation more inputLen outputLen =
        .ok descriptor := by
  have hstores := stores_registered attempts
  refine ⟨hstores.get_eq, ?_, hstores.unique, hstores.len_eq, hstores.register_eq_ok_iff,
    fun _ _ _ _ _ _ => authorizeCall_eq_ok_iff, ?_⟩
  · intro id descriptor later hget
    obtain ⟨more, hmore⟩ := registered_append attempts later
    rw [hstores.get_eq] at hget
    rw [(stores_registered (attempts ++ later)).get_eq, hmore, List.find?_append, hget]
    rfl
  · intro id operation caller more inputLen outputLen descriptor hmore hok
    obtain ⟨hget, hadmits⟩ := authorizeCall_eq_ok_iff.mp hok
    exact authorizeCall_eq_ok_iff.mpr ⟨hget, hadmits.mono hmore⟩

end DeviceRegistry

end AlaniKernel
