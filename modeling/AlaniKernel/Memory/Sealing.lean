import AlaniKernel.Memory.Sharing

/-!
# What a seal promises

A seal is recorded on one shared region and takes the write permission from
that region alone.  Whether the bytes of a sealed range stay unwritable through
every other region depends on which ranges the tasks share and seal.
-/

namespace AlaniKernel

open AlaniKernel.Foundation

def SharedRegion.Covers (region : SharedRegion) (address : Nat) : Prop :=
  region.start.toNat ≤ address ∧ address < region.start.toNat + region.len.toNat

def SharedRegion.Intersects (region other : SharedRegion) : Prop :=
  ∃ address, region.Covers address ∧ other.Covers address

def SharedRegion.Writable (region : SharedRegion) : Prop :=
  region.handle.permissions &&& MemoryPermissions.write.bits ≠ 0

/-- The region has lost the write permission and carries the sealed one. -/
def SharedRegion.Locked (region : SharedRegion) : Prop :=
  ¬ region.Writable ∧
    region.handle.permissions &&& MemoryPermissions.sealed.bits =
      MemoryPermissions.sealed.bits

instance (region : SharedRegion) : Decidable region.Writable :=
  inferInstanceAs (Decidable (_ ≠ _))

theorem locked_sealRegion (region : SharedRegion) :
    (MemoryManager.sealRegion region).Locked := by
  refine ⟨not_not.mpr ?_, ?_⟩
  · exact clear_set_and_cleared (by decide)
  · exact clear_set_and_set _ _ _

namespace MemoryManager

def SealedLocked (self : MemoryManager) : Prop :=
  ∀ i, self.Live i → (self.regionAt i).isSealed = true → (self.regionAt i).Locked

theorem sealedLocked_new : new.SealedLocked :=
  fun i hi => absurd hi (not_live_new i)

theorem SealedLocked.of_sameRegions {before after : MemoryManager}
    (hself : before.SealedLocked) (h : SameRegions before after) :
    after.SealedLocked := by
  intro i hi hsealed
  rw [Live, h.regionAt] at hi
  rw [h.regionAt] at hsealed ⊢
  exact hself i hi hsealed

theorem SealedLocked.step {self : MemoryManager} (hself : self.SealedLocked)
    (op : MemoryOp) : (self.step op).2.SealedLocked := by
  rcases self.step_cases op with
    ⟨error, h⟩ | ⟨-, hsame | ⟨slot, nextSharedId, region, -, -, -, hunsealed, h⟩ |
      ⟨slot, -, h⟩⟩
  · rw [h]
    exact hself
  · exact hself.of_sameRegions hsame
  · rw [h]
    intro i hi hsealed
    by_cases hne : i = slot
    · rw [hne, regionAt_withShared_self, hunsealed] at hsealed
      contradiction
    · rw [Live, regionAt_withShared_of_ne self hne] at hi
      rw [regionAt_withShared_of_ne self hne] at hsealed ⊢
      exact hself i hi hsealed
  · rw [h]
    intro i hi hsealed
    by_cases hne : i = slot
    · rw [hne, regionAt_withSealed_self]
      exact locked_sealRegion _
    · rw [Live, regionAt_withSealed_of_ne self hne] at hi
      rw [regionAt_withSealed_of_ne self hne] at hsealed ⊢
      exact hself i hi hsealed

theorem sealedLocked_runNew (ops : List MemoryOp) : (runNew ops).SealedLocked :=
  run_invariant (fun _ op h => h.step op) sealedLocked_new ops

/-! ## The bytes of a sealed range -/

/-- No live region can be written where a live region is sealed. -/
def SealedUnwritable (self : MemoryManager) : Prop :=
  ∀ i j, self.Live i → (self.regionAt i).isSealed = true → self.Live j →
    (self.regionAt i).Intersects (self.regionAt j) → ¬ (self.regionAt j).Writable

/--
A successful share is not writable over a sealed live region, and a region is
sealed only when no other live region can write its range.
-/
def KeepsApart (self : MemoryManager) : MemoryOp → Prop
  | .shareRegion ownerTask start len permissions =>
      (self.shareRegion ownerTask start len permissions).1.isOk = true →
      (self.newRegion ownerTask start len permissions).Writable →
      ∀ i, self.Live i → (self.regionAt i).isSealed = true →
        ¬ (self.regionAt i).Intersects
          (self.newRegion ownerTask start len permissions)
  | .sealSharedRegion handle =>
      ∀ i j, self.Live i → (self.regionAt i).handle.id = handle.id →
        self.Live j → j ≠ i → (self.regionAt i).Intersects (self.regionAt j) →
        ¬ (self.regionAt j).Writable
  | _ => True

theorem sealedUnwritable_new : new.SealedUnwritable :=
  fun i _ hi => absurd hi (not_live_new i)

theorem SealedUnwritable.of_sameRegions {before after : MemoryManager}
    (hself : before.SealedUnwritable) (h : SameRegions before after) :
    after.SealedUnwritable := by
  intro i j hi hsealed hj
  rw [Live, h.regionAt] at hi hj
  rw [h.regionAt] at hsealed
  rw [h.regionAt, h.regionAt]
  exact hself i j hi hsealed hj

theorem sealedUnwritable_share {self : MemoryManager} (hself : self.WellFormed)
    (h : self.SealedUnwritable) (ownerTask : TaskId) (start len : UInt64)
    (permissions : MemoryPermissions) :
    self.KeepsApart (.shareRegion ownerTask start len permissions) ↔
      (self.shareRegion ownerTask start len permissions).2.SealedUnwritable := by
  rcases self.shareRegion_cases ownerTask start len permissions with
    ⟨error, herror⟩ | ⟨slot, nextSharedId, hfree, hnext, hshared⟩
  · rw [herror]
    refine iff_of_true (fun hok => ?_) h
    rw [herror] at hok
    contradiction
  · rw [hshared]
    have hid : (self.newRegion ownerTask start len permissions).handle.id ≠ 0 := by
      have hpos := hself.next_pos
      intro hzero
      change self.nextSharedId = 0 at hzero
      rw [hzero] at hpos
      contradiction
    generalize hregion : self.newRegion ownerTask start len permissions = region
      at hid hshared
    have hunsealed : region.isSealed = false := by
      rw [← hregion]
      rfl
    have hfresh := regionAt_withShared_self self slot nextSharedId region
    have hkept : ∀ i, i ≠ slot →
        (self.withShared slot nextSharedId region).regionAt i = self.regionAt i :=
      fun i hne => regionAt_withShared_of_ne self hne nextSharedId region
    have hne_of_live : ∀ i, self.Live i → i ≠ slot := fun i hi heq => hfree (heq ▸ hi)
    constructor
    · intro hapart i j hi hsealed hj hmeet
      have hi' : i ≠ slot := by
        rintro rfl
        rw [hfresh, hunsealed] at hsealed
        contradiction
      rw [Live, hkept i hi'] at hi
      rw [hkept i hi'] at hsealed hmeet
      by_cases hj' : j = slot
      · rw [hj', hfresh] at hmeet ⊢
        intro hwritable
        rw [← hregion] at hmeet hwritable
        exact hapart (by rw [hshared]; rfl) hwritable i hi hsealed hmeet
      · rw [Live, hkept j hj'] at hj
        rw [hkept j hj'] at hmeet ⊢
        exact h i j hi hsealed hj hmeet
    · intro hafter _ hwritable i hi hsealed hmeet
      rw [hregion] at hwritable hmeet
      have hi' := hne_of_live i hi
      refine hafter i slot ?_ ?_ ?_ ?_ ?_
      · rwa [Live, hkept i hi']
      · rwa [hkept i hi']
      · rwa [Live, hfresh]
      · rwa [hkept i hi', hfresh]
      · rwa [hfresh]

theorem sealedUnwritable_seal {self : MemoryManager} (hself : self.WellFormed)
    (h : self.SealedUnwritable) (handle : SharedMemoryHandle) :
    self.KeepsApart (.sealSharedRegion handle) ↔
      (self.sealSharedRegion handle).2.SealedUnwritable := by
  rcases self.sealSharedRegion_cases handle with
    ⟨hmissing, hnone⟩ | ⟨slot, hslot, hid, hsealed⟩
  · rw [hmissing]
    exact iff_of_true (fun i j hi hid => absurd hid (hnone i hi)) h
  · rw [hsealed]
    have hfresh := regionAt_withSealed_self self slot
    have hkept : ∀ i, i ≠ slot →
        (self.withSealed slot).regionAt i = self.regionAt i :=
      fun i hne => regionAt_withSealed_of_ne self hne
    have hlive : ∀ i, (self.withSealed slot).Live i ↔ self.Live i := by
      intro i
      rw [Live, id_withSealed, Live]
    have hcovers : ∀ region : SharedRegion, ∀ address,
        (sealRegion region).Covers address ↔ region.Covers address :=
      fun _ _ => Iff.rfl
    constructor
    · intro hapart i j hi hsealed hj hmeet
      rw [hlive] at hi hj
      by_cases hj' : j = slot
      · rw [hj', hfresh]
        exact (locked_sealRegion _).1
      · rw [hkept j hj'] at hmeet ⊢
        by_cases hi' : i = slot
        · rw [hi', hfresh] at hmeet
          exact hapart slot j hslot hid hj hj' hmeet
        · rw [hkept i hi'] at hmeet hsealed
          exact h i j hi hsealed hj hmeet
    · intro hafter i j hi hid' hj hne hmeet
      have his : i = slot := hself.id_unique i slot hi hslot (hid'.trans hid.symm)
      subst his
      have hunwritable := hafter i j ((hlive i).mpr hi) (by rw [hfresh]; rfl)
        ((hlive j).mpr hj)
      rw [hfresh, hkept j hne] at hunwritable
      exact hunwritable hmeet

theorem sealedUnwritable_step {self : MemoryManager} (hself : self.WellFormed)
    (h : self.SealedUnwritable) (op : MemoryOp) :
    self.KeepsApart op ↔ (self.step op).2.SealedUnwritable := by
  cases op with
  | shareRegion ownerTask start len permissions =>
      exact sealedUnwritable_share hself h ownerTask start len permissions
  | sealSharedRegion handle => exact sealedUnwritable_seal hself h handle
  | setAllocatorPhase | setUserBounds | setMaxUserBufferLen | setMinimumUserAlignment =>
      exact iff_of_true trivial
        (h.of_sameRegions (sameRegions_set rfl))

/--
A sealed region is itself locked in every reachable state.  All bytes of sealed
ranges stay unwritable along a run exactly when its shares and seals keep
writable and sealed ranges apart.
-/
theorem sealed_locked_and_unwritable_iff (ops : List MemoryOp) :
    (runNew ops).SealedLocked ∧
      (Along step KeepsApart new ops ↔
        ∀ taken, taken <+: ops → (runNew taken).SealedUnwritable) := by
  refine ⟨sealedLocked_runNew ops, ?_⟩
  have hall : Along step (fun _ _ => True) new ops :=
    along_of_forall (fun _ _ => trivial) new ops
  exact along_iff_forall_prefix (I := SealedUnwritable) (J := WellFormed)
    (fun _ op h => h.step op) (fun _ op hself _ h => sealedUnwritable_step hself h op)
    wellFormed_new sealedUnwritable_new hall

def sharedTwice : List MemoryOp :=
  [.shareRegion 1 0x1000 64 .write, .shareRegion 2 0x1000 64 .write,
    .sealSharedRegion { id := 1, ownerTask := 1, permissions := 0 }]

theorem not_sealedUnwritable_sharedTwice : ¬ (runNew sharedTwice).SealedUnwritable := by
  intro h
  have hmeet : ((runNew sharedTwice).regionAt 0).Intersects
      ((runNew sharedTwice).regionAt 1) := by
    refine ⟨0x1000, ?_, ?_⟩
    · unfold SharedRegion.Covers
      decide +kernel
    · unfold SharedRegion.Covers
      decide +kernel
  exact h 0 1 (by decide +kernel) (by decide +kernel) (by decide +kernel) hmeet
    (by decide +kernel)

end MemoryManager

end AlaniKernel
