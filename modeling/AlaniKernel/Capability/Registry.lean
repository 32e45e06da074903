import AlaniKernel.Capability
import AlaniKernel.Foundation.Identity
import AlaniKernel.Foundation.Transition

/-!
# Runs of the capability registry

The operations of the registry as one transition function, what a step can do,
and the invariant of identifiers: a live record has an identifier of its own
that was handed out before.
-/

namespace AlaniKernel

open AlaniKernel.Foundation

inductive RegistryOp where
  | issue (ownerTask : TaskId) (rights : CapabilitySet)
  | derive (parent : CapabilityHandle) (ownerTask : TaskId)
      (requested : CapabilitySet)
  | revoke (handle : CapabilityHandle)
  deriving DecidableEq, Repr

/-- The set that the operation asks the registry to grant. -/
def RegistryOp.requested : RegistryOp → Option CapabilitySet
  | .issue _ rights => some rights
  | .derive _ _ requested => some requested
  | .revoke _ => none

inductive RegistryReply where
  | granted (handle : CapabilityHandle)
  | revoked
  deriving DecidableEq, Repr

/-- The fields by which the registry recognizes a handle. -/
def CapabilityHandle.Names (self other : CapabilityHandle) : Prop :=
  self.id = other.id ∧ self.generation = other.generation

instance (self other : CapabilityHandle) : Decidable (self.Names other) :=
  inferInstanceAs (Decidable (_ ∧ _))

theorem CapabilityHandle.Names.symm {first second : CapabilityHandle}
    (h : first.Names second) : second.Names first :=
  ⟨h.1.symm, h.2.symm⟩

theorem CapabilityHandle.Names.trans {first second third : CapabilityHandle}
    (h : first.Names second) (h' : second.Names third) : first.Names third :=
  ⟨h.1.trans h'.1, h.2.trans h'.2⟩

theorem CapabilitySet.bits_inj {first second : CapabilitySet} :
    first.bits = second.bits ↔ first = second := by
  cases first
  cases second
  simp

namespace CapabilityRegistry

def step (self : CapabilityRegistry) :
    RegistryOp → KernelResult RegistryReply × CapabilityRegistry
  | .issue ownerTask rights =>
      ((self.issue ownerTask rights).1.map .granted,
        (self.issue ownerTask rights).2)
  | .derive parent ownerTask requested =>
      ((self.derive parent ownerTask requested).1.map .granted,
        (self.derive parent ownerTask requested).2)
  | .revoke handle =>
      ((self.revoke handle).1.map fun _ => .revoked, (self.revoke handle).2)

abbrev runNew (ops : List RegistryOp) : CapabilityRegistry :=
  run step new ops

abbrev historyNew (ops : List RegistryOp) :
    List (RegistryOp × KernelResult RegistryReply) :=
  history step new ops

/-! ## Lookup -/

theorem liveAs_iff {handle : CapabilityHandle} {record : CapabilityRecord} :
    liveAs handle record = true ↔
      record.revoked = false ∧ record.handle.Names handle := by
  simp [liveAs, CapabilityHandle.Names, and_assoc]

theorem fromBits_known {bits : UInt64}
    (h : bits &&& ~~~knownCapabilityBits = 0) :
    CapabilitySet.fromBits bits = .ok ⟨bits⟩ := by
  simp [CapabilitySet.fromBits, h]

theorem fromBits_eq_ok {bits : UInt64} {rights : CapabilitySet}
    (h : CapabilitySet.fromBits bits = .ok rights) :
    rights.bits = bits ∧ bits &&& ~~~knownCapabilityBits = 0 := by
  unfold CapabilitySet.fromBits at h
  split at h
  · rename_i hknown
    cases h
    exact ⟨rfl, hknown⟩
  · contradiction

/-! ## What a step can do -/

/-- A step has put a fresh handle with these rights into a free slot. -/
structure Grants (before : CapabilityRegistry) (handle : CapabilityHandle)
    (rights : CapabilitySet) (after : CapabilityRegistry) : Prop where
  slot : ∃ slot : Fin maxCapabilityRecords,
    ((before.records.get slot).handle.id = 0 ∨
      (before.records.get slot).revoked = true) ∧
    after.records = before.records.set slot { handle, revoked := false } slot.isLt
  id : handle.id = before.nextId
  rights : handle.rights = rights.bits
  nextId : after.nextId.toNat = before.nextId.toNat + 1

theorem issue_cases (self : CapabilityRegistry) (ownerTask : TaskId)
    (rights : CapabilitySet) :
    (∃ error, self.issue ownerTask rights = (.error error, self)) ∨
      ∃ handle after, self.issue ownerTask rights = (.ok handle, after) ∧
        self.Grants handle rights after := by
  unfold issue
  cases hslot : position self.records
      (fun record => record.handle.id == 0 || record.revoked) with
  | none => exact .inl ⟨_, rfl⟩
  | some slot =>
      cases hnext : checkedAdd64 self.nextId 1 with
      | none => exact .inl ⟨_, rfl⟩
      | some nextId =>
          refine .inr ⟨_, _, rfl, ⟨slot, ?_, rfl⟩, rfl, rfl, ?_⟩
          · simpa using position_some hslot
          · simpa using checkedAdd64_eq_some_iff.mp hnext

theorem derive_cases (self : CapabilityRegistry) (parent : CapabilityHandle)
    (ownerTask : TaskId) (requested : CapabilitySet) :
    (∃ error, self.derive parent ownerTask requested = (.error error, self)) ∨
      ∃ handle after parentRights,
        self.derive parent ownerTask requested = (.ok handle, after) ∧
        self.resolve parent = .ok parentRights ∧
        parentRights.containsAll requested = true ∧
        self.Grants handle requested after := by
  unfold derive
  cases hparent : self.resolve parent with
  | error error => exact .inl ⟨_, rfl⟩
  | ok parentRights =>
      simp only [CapabilitySet.derive]
      by_cases hsub : parentRights.containsAll requested = true
      · rw [if_pos hsub]
        rcases self.issue_cases ownerTask requested with
          ⟨error, h⟩ | ⟨handle, after, h, hg⟩
        · exact .inl ⟨error, h⟩
        · exact .inr ⟨handle, after, parentRights, h, rfl, hsub, hg⟩
      · rw [if_neg hsub]
        exact .inl ⟨_, rfl⟩

theorem revoke_cases (self : CapabilityRegistry) (handle : CapabilityHandle) :
    (self.revoke handle = (.error .notFound, self) ∧
        ∀ i : Fin maxCapabilityRecords,
          liveAs handle (self.records.get i) = false) ∨
      ∃ (slot : Fin maxCapabilityRecords) (after : CapabilityRegistry),
        self.revoke handle = (.ok (), after) ∧
        liveAs handle (self.records.get slot) = true ∧
        after.records =
          self.records.set slot { self.records.get slot with revoked := true } slot.isLt ∧
        after.nextId = self.nextId := by
  unfold revoke
  cases hslot : position self.records (liveAs handle) with
  | none => exact .inl ⟨rfl, position_eq_none_iff.mp hslot⟩
  | some slot => exact .inr ⟨slot, _, rfl, position_some hslot, rfl, rfl⟩

theorem step_cases (self : CapabilityRegistry) (op : RegistryOp) :
    (∃ error, self.step op = (.error error, self)) ∨
      (∃ handle rights, op.requested = some rights ∧
        (self.step op).1 = .ok (.granted handle) ∧
        self.Grants handle rights (self.step op).2) ∨
      ∃ (named : CapabilityHandle) (slot : Fin maxCapabilityRecords),
        op = .revoke named ∧ (self.step op).1 = .ok .revoked ∧
        liveAs named (self.records.get slot) = true ∧
        (self.step op).2.records =
          self.records.set slot { self.records.get slot with revoked := true } slot.isLt ∧
        (self.step op).2.nextId = self.nextId := by
  cases op with
  | issue ownerTask rights =>
      rcases self.issue_cases ownerTask rights with ⟨error, h⟩ | ⟨handle, after, h, hg⟩
      · exact .inl ⟨error, by simp [step, h, Except.map]⟩
      · exact .inr (.inl ⟨handle, rights, rfl, by simp [step, h, Except.map],
          by simpa [step, h] using hg⟩)
  | derive parent ownerTask requested =>
      rcases self.derive_cases parent ownerTask requested with
        ⟨error, h⟩ | ⟨handle, after, parentRights, h, -, -, hg⟩
      · exact .inl ⟨error, by simp [step, h, Except.map]⟩
      · exact .inr (.inl ⟨handle, requested, rfl, by simp [step, h, Except.map],
          by simpa [step, h] using hg⟩)
  | revoke named =>
      rcases self.revoke_cases named with
        ⟨h, -⟩ | ⟨slot, after, h, hlive, hrecords, hnext⟩
      · exact .inl ⟨.notFound, by simp [step, h, Except.map]⟩
      · refine .inr (.inr ⟨named, slot, rfl, ?_, hlive, ?_, ?_⟩)
        · simp [step, h, Except.map]
        · simpa [step, h] using hrecords
        · simpa [step, h] using hnext

/-! ## The identifier invariant -/

structure WellFormed (registry : CapabilityRegistry) : Prop where
  nextId_pos : 0 < registry.nextId.toNat
  id_lt : ∀ i : Fin maxCapabilityRecords,
    (registry.records.get i).handle.id.toNat < registry.nextId.toNat
  id_ne_zero : ∀ i : Fin maxCapabilityRecords,
    (registry.records.get i).revoked = false →
    (registry.records.get i).handle.id ≠ 0
  id_inj : ∀ i j : Fin maxCapabilityRecords,
    (registry.records.get i).revoked = false →
    (registry.records.get j).revoked = false →
    (registry.records.get i).handle.id = (registry.records.get j).handle.id →
    i = j

theorem wellFormed_new : WellFormed new where
  nextId_pos := by decide
  id_lt i := by
    simp [new, CapabilityRecord.empty, CapabilityHandle.invalid]
  id_ne_zero i h := by
    simp [new, CapabilityRecord.empty] at h
  id_inj i j h := by
    simp [new, CapabilityRecord.empty] at h

theorem WellFormed.numbered {self : CapabilityRegistry} (h : self.WellFormed) :
    Numbered (fun i : Fin maxCapabilityRecords => (self.records.get i).revoked = false)
      (fun i => (self.records.get i).handle.id.toNat) self.nextId.toNat :=
  ⟨fun i _ => h.id_lt i, fun i j hi hj hid =>
    h.id_inj i j hi hj (UInt64.toNat_inj.mp hid)⟩

theorem WellFormed.grants {self after : CapabilityRegistry}
    {handle : CapabilityHandle} {rights : CapabilitySet}
    (h : self.WellFormed) (hg : self.Grants handle rights after) :
    after.WellFormed := by
  obtain ⟨slot, -, hrecords⟩ := hg.slot
  have hnext := hg.nextId
  have hpos := h.nextId_pos
  have hfresh : after.records.get slot = { handle, revoked := false } := by
    rw [hrecords, get_set, if_pos rfl]
  have hkept : ∀ i : Fin maxCapabilityRecords, i ≠ slot →
      (after.records.get i) = self.records.get i := by
    intro i hne
    rw [hrecords, get_set_of_ne _ _ hne]
  have hnumbered : Numbered
      (fun i : Fin maxCapabilityRecords => (after.records.get i).revoked = false)
      (fun i => (after.records.get i).handle.id.toNat) (self.nextId.toNat + 1) := by
    refine h.numbered.issue slot ?_ (fun i hne hi => ?_) fun i hne _ => ?_
    · rw [hfresh, hg.id]
    · rwa [hkept i hne] at hi
    · rw [hkept i hne]
  refine ⟨by omega, fun i => ?_, fun i hi => ?_, fun i j hi hj hid =>
    hnumbered.unique i j hi hj (congrArg UInt64.toNat hid)⟩
  · by_cases hne : i = slot
    · rw [hne, hfresh, hg.id]
      omega
    · have hlt := h.id_lt i
      rw [hkept i hne]
      omega
  · by_cases hne : i = slot
    · rw [hne, hfresh, hg.id]
      intro hzero
      rw [hzero] at hpos
      contradiction
    · rw [hkept i hne] at hi ⊢
      exact h.id_ne_zero i hi

theorem WellFormed.revoked {self after : CapabilityRegistry}
    {slot : Fin maxCapabilityRecords} (h : self.WellFormed)
    (hrecords : after.records =
      self.records.set slot { self.records.get slot with revoked := true } slot.isLt)
    (hnext : after.nextId = self.nextId) : after.WellFormed := by
  have hid : ∀ i : Fin maxCapabilityRecords,
      (after.records.get i).handle.id = (self.records.get i).handle.id := by
    intro i
    rw [hrecords, get_set]
    split
    · rename_i his
      rw [his]
    · rfl
  have hlive : ∀ i : Fin maxCapabilityRecords,
      (after.records.get i).revoked = false →
        (self.records.get i).revoked = false := by
    intro i
    rw [hrecords, get_set]
    split <;> simp
  have hnumbered := h.numbered.restrict hlive
    (fun i _ => congrArg UInt64.toNat (hid i)) (Nat.le_refl _)
  refine ⟨?_, fun i => ?_, fun i hi => ?_, fun i j hi hj heq =>
    hnumbered.unique i j hi hj (congrArg UInt64.toNat heq)⟩
  · rw [hnext]
    exact h.nextId_pos
  · rw [hid, hnext]
    exact h.id_lt i
  · rw [hid]
    exact h.id_ne_zero i (hlive i hi)

theorem WellFormed.step {self : CapabilityRegistry} (h : self.WellFormed)
    (op : RegistryOp) : (self.step op).2.WellFormed := by
  rcases self.step_cases op with ⟨error, hs⟩ | ⟨handle, rights, -, -, hg⟩ |
    ⟨named, slot, -, -, -, hrecords, hnext⟩
  · rw [hs]
    exact h
  · exact h.grants hg
  · exact h.revoked hrecords hnext

theorem wellFormed_run (ops : List RegistryOp) : (runNew ops).WellFormed :=
  run_invariant (I := WellFormed) (fun _ op h => h.step op) wellFormed_new ops

/-! ## What a registry holds -/

/-- A live record answers to the handle and stores these rights. -/
def Holds (self : CapabilityRegistry) (handle : CapabilityHandle)
    (bits : UInt64) : Prop :=
  ∃ i : Fin maxCapabilityRecords, liveAs handle (self.records.get i) = true ∧
    (self.records.get i).handle.rights = bits

theorem WellFormed.holds_lt {self : CapabilityRegistry} (h : self.WellFormed)
    {handle : CapabilityHandle} {bits : UInt64} (hh : self.Holds handle bits) :
    handle.id.toNat < self.nextId.toNat := by
  obtain ⟨i, hi, -⟩ := hh
  have hid := (liveAs_iff.mp hi).2.1
  exact hid ▸ h.id_lt i

theorem WellFormed.live_unique {self : CapabilityRegistry} (h : self.WellFormed)
    {handle : CapabilityHandle} {i j : Fin maxCapabilityRecords}
    (hi : liveAs handle (self.records.get i) = true)
    (hj : liveAs handle (self.records.get j) = true) : i = j := by
  obtain ⟨hlive, hnames⟩ := liveAs_iff.mp hi
  obtain ⟨hlive', hnames'⟩ := liveAs_iff.mp hj
  exact h.id_inj i j hlive hlive' (hnames.1.trans hnames'.1.symm)

theorem WellFormed.resolve_live {self : CapabilityRegistry} (h : self.WellFormed)
    {handle : CapabilityHandle} {i : Fin maxCapabilityRecords}
    (hi : liveAs handle (self.records.get i) = true) :
    self.resolve handle =
      CapabilitySet.fromBits (self.records.get i).handle.rights := by
  obtain ⟨hlive, hnames⟩ := liveAs_iff.mp hi
  have hne : handle.id ≠ 0 := hnames.1 ▸ h.id_ne_zero i hlive
  have hposition : position self.records (liveAs handle) = some i :=
    position_of_unique hi fun j hj => h.live_unique hj hi
  simp [resolve, hne, first, hposition]

theorem resolve_not_held {self : CapabilityRegistry} {handle : CapabilityHandle}
    (h : ∀ bits, ¬ self.Holds handle bits) :
    self.resolve handle = .error .notFound := by
  have hdead : ∀ i : Fin maxCapabilityRecords,
      liveAs handle (self.records.get i) = false := by
    intro i
    rw [Bool.eq_false_iff]
    intro hi
    exact h _ ⟨i, hi, rfl⟩
  unfold resolve
  split
  · rfl
  · rw [first_eq_none_iff.mpr hdead]

theorem WellFormed.holds_of_resolve {self : CapabilityRegistry}
    (h : self.WellFormed) {handle : CapabilityHandle} {rights : CapabilitySet}
    (hr : self.resolve handle = .ok rights) : self.Holds handle rights.bits := by
  by_cases hheld : ∃ bits, self.Holds handle bits
  · obtain ⟨bits, i, hi, -⟩ := hheld
    rw [h.resolve_live hi] at hr
    exact ⟨i, hi, (fromBits_eq_ok hr).1.symm⟩
  · rw [resolve_not_held (not_exists.mp hheld)] at hr
    contradiction

theorem WellFormed.holds_grants {self after : CapabilityRegistry}
    {handle : CapabilityHandle} {rights : CapabilitySet} (h : self.WellFormed)
    (hg : self.Grants handle rights after) (other : CapabilityHandle)
    (bits : UInt64) :
    after.Holds other bits ↔
      handle.Names other ∧ handle.rights = bits ∨ self.Holds other bits := by
  obtain ⟨slot, hfree, hrecords⟩ := hg.slot
  have hdead : liveAs other (self.records.get slot) = false := by
    rw [Bool.eq_false_iff]
    intro hlive
    obtain ⟨hrevoked, -⟩ := liveAs_iff.mp hlive
    rcases hfree with hzero | hfree
    · exact h.id_ne_zero slot hrevoked hzero
    · simp [hrevoked] at hfree
  constructor
  · rintro ⟨i, hi, hbits⟩
    rw [hrecords, get_set] at hi hbits
    split at hi
    · rename_i his
      rw [if_pos his] at hbits
      exact .inl ⟨(liveAs_iff.mp hi).2, hbits⟩
    · rename_i his
      rw [if_neg his] at hbits
      exact .inr ⟨i, hi, hbits⟩
  · rintro (⟨hnames, hbits⟩ | ⟨i, hi, hbits⟩)
    · refine ⟨slot, ?_, ?_⟩
      · rw [hrecords, get_set, if_pos rfl]
        exact liveAs_iff.mpr ⟨rfl, hnames⟩
      · rw [hrecords, get_set, if_pos rfl]
        exact hbits
    · have his : i ≠ slot := by
        rintro rfl
        rw [hdead] at hi
        contradiction
      exact ⟨i, by rwa [hrecords, get_set_of_ne _ _ his],
        by rwa [hrecords, get_set_of_ne _ _ his]⟩

theorem WellFormed.holds_revoked {self after : CapabilityRegistry}
    {named : CapabilityHandle} {slot : Fin maxCapabilityRecords}
    (h : self.WellFormed) (hlive : liveAs named (self.records.get slot) = true)
    (hrecords : after.records =
      self.records.set slot { self.records.get slot with revoked := true } slot.isLt)
    (other : CapabilityHandle) (bits : UInt64) :
    after.Holds other bits ↔ self.Holds other bits ∧ ¬ named.Names other := by
  constructor
  · rintro ⟨i, hi, hbits⟩
    rw [hrecords, get_set] at hi hbits
    split at hi
    · simp [liveAs] at hi
    · rename_i his
      rw [if_neg his] at hbits
      refine ⟨⟨i, hi, hbits⟩, fun hnames => his ?_⟩
      obtain ⟨hrevoked, hnames'⟩ := liveAs_iff.mp hi
      exact h.live_unique
        (liveAs_iff.mpr ⟨hrevoked, hnames'.trans hnames.symm⟩) hlive
  · rintro ⟨⟨i, hi, hbits⟩, hother⟩
    have his : i ≠ slot := by
      rintro rfl
      exact hother ((liveAs_iff.mp hlive).2.symm.trans (liveAs_iff.mp hi).2)
    exact ⟨i, by rwa [hrecords, get_set_of_ne _ _ his],
      by rwa [hrecords, get_set_of_ne _ _ his]⟩

theorem WellFormed.holds_step {self : CapabilityRegistry} (h : self.WellFormed)
    {op : RegistryOp} {handle : CapabilityHandle} {bits : UInt64}
    (hid : handle.id.toNat < self.nextId.toNat)
    (hh : (self.step op).2.Holds handle bits) : self.Holds handle bits := by
  rcases self.step_cases op with ⟨error, hs⟩ | ⟨granted, rights, -, -, hg⟩ |
    ⟨named, slot, -, -, hlive, hrecords, -⟩
  · rwa [hs] at hh
  · rcases (h.holds_grants hg handle bits).mp hh with ⟨hnames, -⟩ | hh
    · have := hg.id
      rw [← hnames.1, this] at hid
      omega
    · exact hh
  · exact ((h.holds_revoked hlive hrecords handle bits).mp hh).1

theorem nextId_le_step (self : CapabilityRegistry) (op : RegistryOp) :
    self.nextId.toNat ≤ (self.step op).2.nextId.toNat := by
  rcases self.step_cases op with ⟨error, hs⟩ | ⟨granted, rights, -, -, hg⟩ |
    ⟨named, slot, -, -, -, -, hnext⟩
  · rw [hs]
  · have := hg.nextId
    omega
  · rw [hnext]

theorem WellFormed.not_holds_run {self : CapabilityRegistry} (h : self.WellFormed)
    {handle : CapabilityHandle} {bits : UInt64}
    (hid : handle.id.toNat < self.nextId.toNat) (hnot : ¬ self.Holds handle bits)
    (ops : List RegistryOp) :
    ¬ (run CapabilityRegistry.step self ops).Holds handle bits := by
  have hall := run_invariant
    (I := fun registry : CapabilityRegistry => registry.WellFormed ∧
      handle.id.toNat < registry.nextId.toNat ∧ ¬ registry.Holds handle bits)
    (fun registry op ⟨hw, hlt, hn⟩ =>
      ⟨hw.step op, lt_of_lt_of_le hlt (registry.nextId_le_step op),
        fun hh => hn (hw.holds_step hlt hh)⟩)
    ⟨h, hid, hnot⟩ ops
  exact hall.2.2

end CapabilityRegistry

end AlaniKernel
