import AlaniKernel.Foundation.Identity
import AlaniKernel.Foundation.Transition
import AlaniKernel.Memory

/-!
# Shared regions over runs

The operations of the memory manager as one transition function, the outcomes
of a share and of a seal, and the identity of the shared regions they leave.
-/

namespace AlaniKernel

open AlaniKernel.Foundation

inductive MemoryOp where
  | shareRegion (ownerTask : TaskId) (start len : UInt64)
      (permissions : MemoryPermissions)
  | sealSharedRegion (handle : SharedMemoryHandle)
  | setAllocatorPhase (phase : AllocatorPhase)
  | setUserBounds (lower upper : UInt64)
  | setMaxUserBufferLen (maxLen : UInt64)
  | setMinimumUserAlignment (alignment : UInt64)
  deriving DecidableEq, Repr

def MemoryOp.isSet : MemoryOp → Bool
  | .shareRegion .. | .sealSharedRegion .. => false
  | _ => true

inductive MemoryReply where
  | shared (handle : SharedMemoryHandle)
  | done
  deriving DecidableEq, Repr

namespace MemoryManager

def step (self : MemoryManager) : MemoryOp → KernelResult MemoryReply × MemoryManager
  | .shareRegion ownerTask start len permissions =>
      let outcome := self.shareRegion ownerTask start len permissions
      (outcome.1.map .shared, outcome.2)
  | .sealSharedRegion handle =>
      let outcome := self.sealSharedRegion handle
      (outcome.1.map fun _ => .done, outcome.2)
  | .setAllocatorPhase phase =>
      let outcome := self.setAllocatorPhase phase
      (outcome.1.map fun _ => .done, outcome.2)
  | .setUserBounds lower upper =>
      let outcome := self.setUserBounds lower upper
      (outcome.1.map fun _ => .done, outcome.2)
  | .setMaxUserBufferLen maxLen =>
      let outcome := self.setMaxUserBufferLen maxLen
      (outcome.1.map fun _ => .done, outcome.2)
  | .setMinimumUserAlignment alignment =>
      let outcome := self.setMinimumUserAlignment alignment
      (outcome.1.map fun _ => .done, outcome.2)

abbrev runNew (ops : List MemoryOp) : MemoryManager := run step new ops

def regionAt (self : MemoryManager) (i : Fin maxSharedRegions) : SharedRegion :=
  (self.sharedRegions.get i)

def Live (self : MemoryManager) (i : Fin maxSharedRegions) : Prop :=
  (self.regionAt i).handle.id ≠ 0

instance (self : MemoryManager) (i : Fin maxSharedRegions) :
    Decidable (self.Live i) :=
  inferInstanceAs (Decidable (_ ≠ _))

theorem not_live_new (i : Fin maxSharedRegions) : ¬ new.Live i := by
  simp [Live, regionAt, new, SharedRegion.empty, SharedMemoryHandle.invalid]

/-! ## Outcomes -/

def withShared (self : MemoryManager) (slot : Fin maxSharedRegions)
    (nextSharedId : UInt64) (region : SharedRegion) : MemoryManager :=
  { self with
    nextSharedId
    sharedRegions := self.sharedRegions.set slot region slot.isLt }

theorem regionAt_withShared (self : MemoryManager) (slot i : Fin maxSharedRegions)
    (nextSharedId : UInt64) (region : SharedRegion) :
    (self.withShared slot nextSharedId region).regionAt i =
      if i = slot then region else self.regionAt i :=
  get_set _ slot i _

theorem regionAt_withShared_self (self : MemoryManager) (slot : Fin maxSharedRegions)
    (nextSharedId : UInt64) (region : SharedRegion) :
    (self.withShared slot nextSharedId region).regionAt slot = region := by
  rw [regionAt_withShared, if_pos rfl]

theorem regionAt_withShared_of_ne (self : MemoryManager)
    {slot i : Fin maxSharedRegions} (hne : i ≠ slot) (nextSharedId : UInt64)
    (region : SharedRegion) :
    (self.withShared slot nextSharedId region).regionAt i = self.regionAt i := by
  rw [regionAt_withShared, if_neg hne]

def newRegion (self : MemoryManager) (ownerTask : TaskId) (start len : UInt64)
    (permissions : MemoryPermissions) : SharedRegion :=
  { handle := { id := self.nextSharedId, ownerTask, permissions := permissions.bits }
    start
    len
    isSealed := false }

theorem shareRegion_cases (self : MemoryManager) (ownerTask : TaskId)
    (start len : UInt64) (permissions : MemoryPermissions) :
    (∃ error, self.shareRegion ownerTask start len permissions =
        (.error error, self)) ∨
      ∃ slot nextSharedId, ¬ self.Live slot ∧
        nextSharedId.toNat = self.nextSharedId.toNat + 1 ∧
        self.shareRegion ownerTask start len permissions =
          (.ok (self.newRegion ownerTask start len permissions).handle,
            self.withShared slot nextSharedId
              (self.newRegion ownerTask start len permissions)) := by
  unfold shareRegion
  cases hrange : self.validateUserRange start len with
  | error error => exact .inl ⟨error, rfl⟩
  | ok =>
      by_cases hsealed : permissions.contains .sealed = true
      · exact .inl ⟨.sealed, by simp [hsealed]⟩
      · cases hslot : position self.sharedRegions (·.handle.id == 0) with
        | none => exact .inl ⟨.capacityExceeded, by simp [hsealed]⟩
        | some slot =>
            cases hnext : checkedAdd64 self.nextSharedId 1 with
            | none => exact .inl ⟨.internal, by simp [hsealed]⟩
            | some nextSharedId =>
                have hfree : (self.sharedRegions.get slot).handle.id = 0 := by
                  simpa using position_some hslot
                refine .inr ⟨slot, nextSharedId, by simp [Live, regionAt, hfree],
                  by simpa using checkedAdd64_eq_some_iff.mp hnext, ?_⟩
                simp [hsealed, newRegion, withShared]

def withSealed (self : MemoryManager) (slot : Fin maxSharedRegions) :
    MemoryManager :=
  { self with
    sharedRegions :=
      self.sharedRegions.set slot (sealRegion (self.regionAt slot)) slot.isLt }

theorem regionAt_withSealed (self : MemoryManager) (slot i : Fin maxSharedRegions) :
    (self.withSealed slot).regionAt i =
      if i = slot then sealRegion (self.regionAt slot) else self.regionAt i :=
  get_set _ slot i _

theorem regionAt_withSealed_self (self : MemoryManager)
    (slot : Fin maxSharedRegions) :
    (self.withSealed slot).regionAt slot = sealRegion (self.regionAt slot) := by
  rw [regionAt_withSealed, if_pos rfl]

theorem regionAt_withSealed_of_ne (self : MemoryManager)
    {slot i : Fin maxSharedRegions} (hne : i ≠ slot) :
    (self.withSealed slot).regionAt i = self.regionAt i := by
  rw [regionAt_withSealed, if_neg hne]

theorem namedBy_iff {handle : SharedMemoryHandle} {region : SharedRegion} :
    namedBy handle region = true ↔
      region.handle.id = handle.id ∧ region.handle.id ≠ 0 := by
  simp [namedBy]

theorem sealSharedRegion_cases (self : MemoryManager) (handle : SharedMemoryHandle) :
    (self.sealSharedRegion handle = (.error .notFound, self) ∧
        ∀ i, self.Live i → (self.regionAt i).handle.id ≠ handle.id) ∨
      ∃ slot, self.Live slot ∧ (self.regionAt slot).handle.id = handle.id ∧
        self.sealSharedRegion handle = (.ok (), self.withSealed slot) := by
  cases hslot : position self.sharedRegions (namedBy handle) with
  | none =>
      refine .inl ⟨by simp [sealSharedRegion, hslot], fun i hi hid => ?_⟩
      have hnot : namedBy handle (self.regionAt i) = false :=
        position_eq_none_iff.mp hslot i
      rw [namedBy_iff.mpr ⟨hid, hi⟩] at hnot
      contradiction
  | some slot =>
      obtain ⟨hid, hlive⟩ := namedBy_iff.mp (position_some hslot)
      refine .inr ⟨slot, hlive, hid, ?_⟩
      simp [sealSharedRegion, hslot, withSealed, regionAt]

@[simp] theorem id_sealRegion (region : SharedRegion) :
    (sealRegion region).handle.id = region.handle.id := rfl

def SameRegions (before after : MemoryManager) : Prop :=
  after.sharedRegions = before.sharedRegions ∧
    after.nextSharedId = before.nextSharedId

theorem SameRegions.refl (self : MemoryManager) : SameRegions self self :=
  ⟨rfl, rfl⟩

theorem SameRegions.regionAt {before after : MemoryManager}
    (h : SameRegions before after) (i : Fin maxSharedRegions) :
    after.regionAt i = before.regionAt i := by
  rw [MemoryManager.regionAt, h.1, MemoryManager.regionAt]

theorem set_cases (self : MemoryManager) (op : MemoryOp) (hop : op.isSet = true) :
    (∃ error, self.step op = (.error error, self)) ∨
      (self.step op).1.isOk = true ∧ SameRegions self (self.step op).2 := by
  cases op with
  | shareRegion | sealSharedRegion => contradiction
  | setAllocatorPhase phase =>
      simp only [step, setAllocatorPhase]
      split_ifs
      · exact .inl ⟨_, rfl⟩
      · exact .inr ⟨rfl, .refl self⟩
  | setUserBounds lower upper =>
      simp only [step, setUserBounds]
      split_ifs
      · exact .inl ⟨_, rfl⟩
      · exact .inr ⟨rfl, .refl self⟩
  | setMaxUserBufferLen maxLen =>
      simp only [step, setMaxUserBufferLen]
      split_ifs
      · exact .inl ⟨_, rfl⟩
      · exact .inr ⟨rfl, .refl self⟩
  | setMinimumUserAlignment alignment =>
      simp only [step, setMinimumUserAlignment]
      split_ifs
      · exact .inl ⟨_, rfl⟩
      · exact .inr ⟨rfl, .refl self⟩

theorem sameRegions_set {self : MemoryManager} {op : MemoryOp}
    (hop : op.isSet = true) : SameRegions self (self.step op).2 := by
  rcases self.set_cases op hop with ⟨error, h⟩ | ⟨-, h⟩
  · rw [h]
    exact .refl self
  · exact h

theorem step_cases (self : MemoryManager) (op : MemoryOp) :
    (∃ error, self.step op = (.error error, self)) ∨
      (self.step op).1.isOk = true ∧
        (SameRegions self (self.step op).2 ∨
          (∃ slot nextSharedId region, ¬ self.Live slot ∧
            nextSharedId.toNat = self.nextSharedId.toNat + 1 ∧
            region.handle.id = self.nextSharedId ∧ region.isSealed = false ∧
            (self.step op).2 = self.withShared slot nextSharedId region) ∨
          ∃ slot, self.Live slot ∧ (self.step op).2 = self.withSealed slot) := by
  by_cases hset : op.isSet = true
  · rcases self.set_cases op hset with herror | ⟨hok, hsame⟩
    · exact .inl herror
    · exact .inr ⟨hok, .inl hsame⟩
  · cases op with
    | shareRegion ownerTask start len permissions =>
        rcases self.shareRegion_cases ownerTask start len permissions with
          ⟨error, h⟩ | ⟨slot, nextSharedId, hfree, hnext, h⟩
        · exact .inl ⟨error, by simp only [step, h]; rfl⟩
        · simp only [step, h]
          exact .inr ⟨rfl, .inr (.inl ⟨slot, nextSharedId, _, hfree, hnext, rfl, rfl,
            rfl⟩)⟩
    | sealSharedRegion handle =>
        rcases self.sealSharedRegion_cases handle with ⟨h, -⟩ | ⟨slot, hlive, -, h⟩
        · exact .inl ⟨.notFound, by simp only [step, h]; rfl⟩
        · simp only [step, h]
          exact .inr ⟨rfl, .inr (.inr ⟨slot, hlive, rfl⟩)⟩
    | setAllocatorPhase | setUserBounds | setMaxUserBufferLen
    | setMinimumUserAlignment => exact absurd rfl hset

/-! ## Settings -/

/-- What the checks of a user range read. -/
structure Settings where
  longest : UInt64
  lower : UInt64
  upper : UInt64
  alignment : UInt64
  deriving DecidableEq, Repr

def settings (self : MemoryManager) : Settings :=
  { longest := self.maxUserBufferLen
    lower := self.userLowerBound
    upper := self.userUpperBound
    alignment := self.minimumUserAlignment }

def written (self : MemoryManager) : MemoryOp → Option Settings
  | .setUserBounds lower upper =>
      if lower = 0 ∨ upper ≤ lower then none else some { self.settings with lower, upper }
  | .setMaxUserBufferLen maxLen =>
      if maxLen = 0 then none else some { self.settings with longest := maxLen }
  | .setMinimumUserAlignment alignment =>
      if alignment = 0 ∨ !isPowerOfTwo alignment then none
      else some { self.settings with alignment }
  | _ => none

theorem settings_step (self : MemoryManager) (op : MemoryOp) :
    (self.step op).2.map = self.map ∧
      (self.step op).2.settings = (self.written op).getD self.settings := by
  cases op with
  | shareRegion ownerTask start len permissions =>
      rcases self.shareRegion_cases ownerTask start len permissions with
        ⟨error, h⟩ | ⟨slot, nextSharedId, -, -, h⟩
      · simp [step, h, written]
      · simp only [step, h]
        exact ⟨rfl, rfl⟩
  | sealSharedRegion handle =>
      rcases self.sealSharedRegion_cases handle with ⟨h, -⟩ | ⟨slot, -, -, h⟩
      · simp [step, h, written]
      · simp only [step, h]
        exact ⟨rfl, rfl⟩
  | setAllocatorPhase phase =>
      simp only [step, setAllocatorPhase]
      split_ifs <;> exact ⟨rfl, rfl⟩
  | setUserBounds lower upper =>
      simp only [step, setUserBounds, written]
      split_ifs <;> exact ⟨rfl, rfl⟩
  | setMaxUserBufferLen maxLen =>
      simp only [step, setMaxUserBufferLen, written]
      split_ifs <;> exact ⟨rfl, rfl⟩
  | setMinimumUserAlignment alignment =>
      simp only [step, setMinimumUserAlignment, written]
      split_ifs <;> exact ⟨rfl, rfl⟩

theorem lower_step (self : MemoryManager) (op : MemoryOp) :
    (self.step op).2.userLowerBound = ((self.written op).getD self.settings).lower :=
  congrArg Settings.lower (self.settings_step op).2

theorem alignment_step (self : MemoryManager) (op : MemoryOp) :
    (self.step op).2.minimumUserAlignment =
      ((self.written op).getD self.settings).alignment :=
  congrArg Settings.alignment (self.settings_step op).2

/-! ## Distinct identifiers -/

/-- Shared identifiers are distinct and below the next one. -/
structure WellFormed (manager : MemoryManager) : Prop where
  next_pos : 0 < manager.nextSharedId.toNat
  id_lt : ∀ i, manager.Live i →
    (manager.regionAt i).handle.id.toNat < manager.nextSharedId.toNat
  id_unique : ∀ i j, manager.Live i → manager.Live j →
    (manager.regionAt i).handle.id = (manager.regionAt j).handle.id → i = j

theorem wellFormed_new : new.WellFormed := by
  refine ⟨by decide, fun i hi => ?_, fun i j hi => ?_⟩
  · exact absurd hi (not_live_new i)
  · exact absurd hi (not_live_new i)

theorem WellFormed.numbered {self : MemoryManager} (hself : self.WellFormed) :
    Numbered self.Live (fun i => (self.regionAt i).handle.id.toNat)
      self.nextSharedId.toNat :=
  ⟨hself.id_lt, fun i j hi hj hid =>
    hself.id_unique i j hi hj (UInt64.toNat_inj.mp hid)⟩

theorem wellFormed_of_numbered {self : MemoryManager}
    (hnext : 0 < self.nextSharedId.toNat)
    (h : Numbered self.Live (fun i => (self.regionAt i).handle.id.toNat)
      self.nextSharedId.toNat) : self.WellFormed :=
  ⟨hnext, h.lt, fun i j hi hj hid =>
    h.unique i j hi hj (congrArg UInt64.toNat hid)⟩

theorem WellFormed.of_ids {before after : MemoryManager} (hself : before.WellFormed)
    (hnext : after.nextSharedId = before.nextSharedId)
    (hid : ∀ i, (after.regionAt i).handle.id = (before.regionAt i).handle.id) :
    after.WellFormed := by
  refine wellFormed_of_numbered ?_ ?_
  · rw [hnext]
    exact hself.next_pos
  · refine hself.numbered.restrict (fun i hi => ?_) (fun i _ => ?_) ?_
    · rwa [Live, hid] at hi
    · rw [hid]
    · rw [hnext]

theorem WellFormed.of_sameRegions {before after : MemoryManager}
    (hself : before.WellFormed) (h : SameRegions before after) : after.WellFormed :=
  hself.of_ids h.2 fun i => by rw [h.regionAt]

theorem id_withSealed (self : MemoryManager) (slot i : Fin maxSharedRegions) :
    ((self.withSealed slot).regionAt i).handle.id = (self.regionAt i).handle.id := by
  rw [regionAt_withSealed]
  by_cases h : i = slot
  · rw [if_pos h, id_sealRegion, h]
  · rw [if_neg h]

theorem WellFormed.withSealed {self : MemoryManager} (hself : self.WellFormed)
    (slot : Fin maxSharedRegions) : (self.withSealed slot).WellFormed :=
  hself.of_ids rfl (id_withSealed self slot)

theorem WellFormed.withShared {self : MemoryManager} (hself : self.WellFormed)
    {slot : Fin maxSharedRegions} {nextSharedId : UInt64} {region : SharedRegion}
    (hnext : nextSharedId.toNat = self.nextSharedId.toNat + 1)
    (hid : region.handle.id = self.nextSharedId) :
    (self.withShared slot nextSharedId region).WellFormed := by
  have hkept : ∀ i, i ≠ slot →
      (self.withShared slot nextSharedId region).regionAt i = self.regionAt i :=
    fun i hne => regionAt_withShared_of_ne self hne nextSharedId region
  refine wellFormed_of_numbered ?_ ?_
  · change 0 < nextSharedId.toNat
    omega
  · change Numbered _ _ nextSharedId.toNat
    rw [hnext]
    refine hself.numbered.issue slot ?_ (fun i hne hi => ?_) fun i hne _ => ?_
    · rw [regionAt_withShared_self, hid]
    · rwa [Live, hkept i hne] at hi
    · rw [hkept i hne]

theorem WellFormed.step {self : MemoryManager} (hself : self.WellFormed)
    (op : MemoryOp) : (self.step op).2.WellFormed := by
  rcases self.step_cases op with
    ⟨error, h⟩ | ⟨-, hsame | ⟨slot, nextSharedId, region, -, hnext, hid, -, h⟩ |
      ⟨slot, -, h⟩⟩
  · rw [h]
    exact hself
  · exact hself.of_sameRegions hsame
  · rw [h]
    exact hself.withShared hnext hid
  · rw [h]
    exact hself.withSealed slot

theorem wellFormed_runNew (ops : List MemoryOp) : (runNew ops).WellFormed :=
  run_invariant (fun _ op h => h.step op) wellFormed_new ops

end MemoryManager

end AlaniKernel
