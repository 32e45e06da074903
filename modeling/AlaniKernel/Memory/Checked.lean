import AlaniKernel.Foundation.Checked
import AlaniKernel.Memory.Map
import AlaniKernel.Memory.Sharing

/-!
# Memory operations in a build with overflow checks

The functions of the memory manager that add or subtract, each with the checks
of such a build.  An alignment of at least one keeps user ranges from stopping
it; the sum of region lengths can stop it.
-/

namespace AlaniKernel

open AlaniKernel.Foundation

namespace MemoryRegion

def endChecked (self : MemoryRegion) : Option UInt64 := checkedAdd64 self.start self.len

/-- The second end is computed only when the first comparison holds. -/
def overlapsChecked (self other : MemoryRegion) : Option Bool := do
  let otherEnd ← other.endChecked
  if self.start < otherEnd then
    let selfEnd ← self.endChecked
    return other.start < selfEnd
  else return false

end MemoryRegion

namespace MemoryMap

def totalByKindChecked (self : MemoryMap) (kind : MemoryRegionKind) : Option UInt64 := do
  let regions ← takeChecked self.cells self.len
  checkedSum64 ((regions.filter (·.kind == kind)).map MemoryRegion.len)

theorem totalByKindChecked_eq (self : MemoryMap) (kind : MemoryRegionKind) :
    self.totalByKindChecked kind =
      if ((self.ofKind kind).map fun region => region.len.toNat).sum < 2 ^ 64 then
        some (self.totalByKind kind)
      else none := by
  rw [totalByKindChecked, takeChecked, if_pos self.len_le, Option.bind_eq_bind,
    Option.bind_some, checkedSum64_eq, List.map_map]
  rfl

end MemoryMap

namespace MemoryManager

def validateUserRangeChecked (self : MemoryManager) (ptr len : UInt64) :
    Option (KernelResult Unit) :=
  if ptr = 0 ∨ len = 0 then some (.error .invalidUserBuffer)
  else if self.maxUserBufferLen < len then some (.error .bufferTooLarge)
  else
    match checkedAdd64 ptr len with
    | none => some (.error .invalidUserBuffer)
    | some rangeEnd =>
        if ptr < self.userLowerBound ∨ self.userUpperBound < rangeEnd then
          some (.error .bufferOutOfRange)
        else do
          let mask ← checkedSub64 self.minimumUserAlignment 1
          if ptr &&& mask ≠ 0 then return .error .invalidUserBuffer
          else return .ok ()

def validateUserBufferChecked (self : MemoryManager) (buffer : UserBuffer)
    (access : BufferAccess) : Option (KernelResult ValidatedUserBuffer) :=
  if buffer.reserved ≠ 0 ∨ buffer.hasUnknownFlags then some (.error .reservedBits)
  else
    let required := requiredFlags access
    if buffer.flags &&& required ≠ required then some (.error .permissionDenied)
    else do
      match ← self.validateUserRangeChecked buffer.ptr buffer.len with
      | .error error => return .error error
      | .ok () => return .ok { ptr := buffer.ptr, len := buffer.len, access }

def shareRegionChecked (self : MemoryManager) (ownerTask : TaskId)
    (start len : UInt64) (permissions : MemoryPermissions) :
    Option (KernelResult SharedMemoryHandle × MemoryManager) := do
  match ← self.validateUserRangeChecked start len with
  | .error error => return (.error error, self)
  | .ok () =>
      if permissions.contains .sealed then return (.error .sealed, self)
      else
        match position self.sharedRegions (·.handle.id == 0) with
        | none => return (.error .capacityExceeded, self)
        | some slot =>
            let handle : SharedMemoryHandle :=
              { id := self.nextSharedId
                ownerTask
                permissions := permissions.bits }
            match checkedAdd64 self.nextSharedId 1 with
            | none => return (.error .internal, self)
            | some nextSharedId =>
                return (.ok handle,
                  { self with
                    nextSharedId
                    sharedRegions := self.sharedRegions.set slot
                      { handle, start, len, isSealed := false } slot.isLt })

def statsChecked (self : MemoryManager) : Option MemoryStats := do
  let usableBytes ← self.map.totalByKindChecked .usable
  return {
    usableBytes
    regionCount := self.map.len
    sharedRegionCount := countCells self.sharedRegions (·.handle.id != 0)
    allocatorPhase := self.allocatorPhase }

def Aligned (self : MemoryManager) : Prop := self.minimumUserAlignment ≠ 0

theorem Aligned.validateUserRangeChecked {self : MemoryManager} (h : self.Aligned)
    (ptr len : UInt64) :
    self.validateUserRangeChecked ptr len = some (self.validateUserRange ptr len) := by
  unfold MemoryManager.validateUserRangeChecked validateUserRange
  by_cases hempty : ptr = 0 ∨ len = 0
  · rw [if_pos hempty, if_pos hempty]
  · rw [if_neg hempty, if_neg hempty]
    by_cases hlarge : self.maxUserBufferLen < len
    · rw [if_pos hlarge, if_pos hlarge]
    · rw [if_neg hlarge, if_neg hlarge]
      cases checkedAdd64 ptr len with
      | none => rfl
      | some rangeEnd =>
          dsimp only
          rw [checkedSub64_one h, Option.bind_eq_bind, Option.bind_some]
          split_ifs <;> rfl

theorem Aligned.validateUserBufferChecked {self : MemoryManager} (h : self.Aligned)
    (buffer : UserBuffer) (access : BufferAccess) :
    self.validateUserBufferChecked buffer access =
      some (self.validateUserBuffer buffer access) := by
  unfold MemoryManager.validateUserBufferChecked validateUserBuffer
  split_ifs
  · rfl
  · dsimp only
    rw [h.validateUserRangeChecked, Option.bind_eq_bind, Option.bind_some]
    split_ifs
    · rfl
    · cases self.validateUserRange buffer.ptr buffer.len <;> rfl

theorem Aligned.shareRegionChecked {self : MemoryManager} (h : self.Aligned)
    (ownerTask : TaskId) (start len : UInt64) (permissions : MemoryPermissions) :
    self.shareRegionChecked ownerTask start len permissions =
      some (self.shareRegion ownerTask start len permissions) := by
  rw [MemoryManager.shareRegionChecked, h.validateUserRangeChecked, Option.bind_eq_bind,
    Option.bind_some, shareRegion]
  cases self.validateUserRange start len with
  | error error => rfl
  | ok =>
      dsimp only
      split_ifs
      · rfl
      · cases position self.sharedRegions (·.handle.id == 0) with
        | none => rfl
        | some slot =>
            cases checkedAdd64 self.nextSharedId 1 with
            | none => rfl
            | some nextSharedId => rfl

theorem statsChecked_eq (self : MemoryManager) :
    self.statsChecked =
      if ((self.map.ofKind .usable).map fun region => region.len.toNat).sum < 2 ^ 64 then
        some self.stats
      else none := by
  rw [statsChecked, MemoryMap.totalByKindChecked_eq]
  split_ifs <;> rfl

/-! ## The alignment over runs -/

theorem aligned_new : new.Aligned := by
  unfold Aligned
  decide

theorem Aligned.step {self : MemoryManager} (h : self.Aligned) (op : MemoryOp) :
    (self.step op).2.Aligned := by
  rw [Aligned, alignment_step]
  cases op with
  | setMinimumUserAlignment alignment =>
      simp only [written]
      split_ifs with hinvalid
      · exact h
      · exact (not_or.mp hinvalid).1
  | setUserBounds | setMaxUserBufferLen =>
      simp only [written]
      split_ifs <;> exact h
  | shareRegion | sealSharedRegion | setAllocatorPhase => exact h

end MemoryManager

end AlaniKernel
