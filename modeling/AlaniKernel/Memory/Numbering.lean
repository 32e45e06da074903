import AlaniKernel.Foundation.Filling
import AlaniKernel.Memory.Permissions
import AlaniKernel.Memory.Validation

/-!
# The shared regions as a numbered list

A region is written to the first free slot and never erased.  The table lists
the regions in the order in which they were shared, and their identifiers count
them.
-/

namespace AlaniKernel

open AlaniKernel.Foundation

namespace MemoryManager

def idsOf (regions : List SharedRegion) : List UInt64 :=
  regions.map fun region => region.handle.id

/-- The table lists the regions, and the `k`th of them has the identifier `k`. -/
structure Lists (manager : MemoryManager) (regions : List SharedRegion) : Prop where
  filled : FilledWith manager.sharedRegions .empty regions
  numbered : (idsOf regions).map UInt64.toNat = List.range' 1 regions.length
  next : manager.nextSharedId.toNat = regions.length + 1

section Lists

variable {self : MemoryManager} {regions : List SharedRegion}

theorem Lists.id_ne_zero (h : self.Lists regions) {region : SharedRegion}
    (hregion : region ∈ regions) : region.handle.id ≠ 0 := by
  have hid : region.handle.id.toNat ∈ List.range' 1 regions.length := by
    rw [← h.numbered]
    exact List.mem_map_of_mem (List.mem_map_of_mem hregion)
  intro hzero
  rw [hzero] at hid
  simp at hid

theorem Lists.position_free (h : self.Lists regions) {slot : Fin maxSharedRegions} :
    position self.sharedRegions (·.handle.id == 0) = some slot ↔
      slot.val = regions.length := by
  refine h.filled.position_free (fun region hregion => ?_) rfl
  simpa using h.id_ne_zero hregion

theorem Lists.count_eq (h : self.Lists regions) :
    self.stats.sharedRegionCount = regions.length := by
  refine h.filled.countCells_eq (fun region hregion => ?_) rfl
  simpa using h.id_ne_zero hregion

theorem Lists.live_iff (h : self.Lists regions) (i : Fin maxSharedRegions) :
    self.Live i ↔ i.val < regions.length := by
  rw [Live, regionAt]
  constructor
  · intro hlive
    by_contra hge
    rw [h.filled.get_of_le (not_lt.mp hge)] at hlive
    exact hlive rfl
  · intro hlt
    rw [h.filled.get_of_lt hlt]
    exact h.id_ne_zero (List.getElem_mem hlt)

theorem Lists.shareRegion_cases (h : self.Lists regions) (ownerTask : TaskId)
    (start len : UInt64) (permissions : MemoryPermissions) :
    (∃ error, self.shareRegion ownerTask start len permissions = (.error error, self) ∧
        ¬ (self.AcceptedRange start len ∧ .sealed ∉ permissions.flags ∧
          regions.length < maxSharedRegions)) ∨
      ∃ after, self.shareRegion ownerTask start len permissions =
          (.ok (self.newRegion ownerTask start len permissions).handle, after) ∧
        (self.AcceptedRange start len ∧ .sealed ∉ permissions.flags ∧
          regions.length < maxSharedRegions) ∧
        after.settings = self.settings ∧
        after.Lists (regions ++ [self.newRegion ownerTask start len permissions]) := by
  rw [← self.validateUserRange_iff, ← permissions.contains_sealed_iff]
  unfold shareRegion
  cases hrange : self.validateUserRange start len with
  | error error => exact .inl ⟨error, rfl, by simp⟩
  | ok =>
      by_cases hsealed : permissions.contains .sealed = true
      · exact .inl ⟨.sealed, by simp [hsealed], by simp [hsealed]⟩
      · cases hslot : position self.sharedRegions (·.handle.id == 0) with
        | none =>
            refine .inl ⟨.capacityExceeded, by simp [hsealed], ?_⟩
            rintro ⟨-, -, hroom⟩
            have hfree := h.position_free.mpr (rfl : (⟨_, hroom⟩ : Fin _).val = _)
            simp [hslot] at hfree
        | some slot =>
            have hlast := h.position_free.mp hslot
            have hroom : regions.length < 32 := hlast ▸ slot.isLt
            have hnext := h.next
            obtain ⟨nextSharedId, hchecked⟩ :
                ∃ nextSharedId, checkedAdd64 self.nextSharedId 1 = some nextSharedId := by
              cases hchecked : checkedAdd64 self.nextSharedId 1 with
              | none =>
                  have hwraps := checkedAdd64_eq_none_iff.mp hchecked
                  rw [UInt64.toNat_one] at hwraps
                  omega
              | some nextSharedId => exact ⟨nextSharedId, rfl⟩
            have hsum := checkedAdd64_eq_some_iff.mp hchecked
            refine .inr ⟨self.withShared slot nextSharedId
              (self.newRegion ownerTask start len permissions), ?_,
              ⟨rfl, hsealed, hroom⟩, rfl, h.filled.snoc hlast _, ?_, ?_⟩
            · simp [hsealed, hchecked, newRegion, withShared]
            · have hid : (self.newRegion ownerTask start len permissions).handle.id.toNat =
                  regions.length + 1 := hnext
              rw [idsOf, List.map_append, List.map_append, ← idsOf, h.numbered,
                List.length_append, List.length_singleton, List.range'_1_concat,
                Nat.add_comm 1]
              exact congrArg (fun id => List.range' 1 regions.length ++ [id]) hid
            · rw [List.length_append, List.length_singleton]
              change nextSharedId.toNat = _
              rw [hsum, hnext]
              rfl

theorem Lists.sealSharedRegion_cases (h : self.Lists regions)
    (handle : SharedMemoryHandle) :
    self.sealSharedRegion handle = (.error .notFound, self) ∧
        handle.id ∉ idsOf regions ∨
      ∃ after sealedRegions, self.sealSharedRegion handle = (.ok (), after) ∧
        handle.id ∈ idsOf regions ∧ after.settings = self.settings ∧
        after.Lists sealedRegions ∧ idsOf sealedRegions = idsOf regions := by
  rcases self.sealSharedRegion_cases handle with ⟨hseal, hnone⟩ | ⟨slot, hlive, hid, hseal⟩
  · refine .inl ⟨hseal, fun hmem => ?_⟩
    obtain ⟨region, hregion, hsame⟩ := List.mem_map.mp hmem
    obtain ⟨k, hk, rfl⟩ := List.mem_iff_getElem.mp hregion
    have hslot : k < maxSharedRegions := hk.trans_le h.filled.length_le
    have hcell : self.regionAt ⟨k, hslot⟩ = regions[k] := h.filled.get_of_lt hk
    refine hnone ⟨k, hslot⟩ ((h.live_iff _).mpr hk) ?_
    rw [hcell]
    exact hsame
  · have hlt := (h.live_iff slot).mp hlive
    have hcell : self.regionAt slot = regions[slot.val] := h.filled.get_of_lt hlt
    have hids : idsOf (regions.set slot.val (sealRegion (self.regionAt slot))) =
        idsOf regions := by
      have hlt' : slot.val < (idsOf regions).length := by
        rw [idsOf, List.length_map]
        exact hlt
      have hkept := List.set_getElem_self hlt'
      rw [idsOf, List.map_set, id_sealRegion, hcell]
      simpa only [idsOf, List.getElem_map] using hkept
    refine .inr ⟨self.withSealed slot, regions.set slot.val (sealRegion (self.regionAt slot)),
      hseal, ?_, rfl, ⟨h.filled.set hlt _, ?_, ?_⟩, hids⟩
    · rw [← hid, hcell]
      exact List.mem_map_of_mem (List.getElem_mem hlt)
    · rw [hids, List.length_set]
      exact h.numbered
    · rw [List.length_set]
      exact h.next

end Lists

end MemoryManager

end AlaniKernel
