import AlaniKernel.Syscall.Abi

/-!
# Memory map, user-buffer validation, and shared-memory handles

Sums and ends of ranges are unchecked in the source and wrap here, as they do
in a build without overflow checks.
-/

namespace AlaniKernel

open AlaniKernel.Foundation

abbrev maxMemoryRegions : Nat := 64

abbrev maxSharedRegions : Nat := 32

def defaultUserLowerBound : UInt64 := 0x0000000000001000

def defaultUserUpperBound : UInt64 := 0x0000800000000000

def defaultMaxUserBufferLen : UInt64 := 16 * 1024 * 1024

inductive MemoryRegionKind where
  | usable
  | reserved
  | kernelText
  | kernelReadOnly
  | kernelData
  | stack
  | user
  | mmio
  | guard
  | bootloader
  | device
  deriving DecidableEq, Repr

structure MemoryPermissions where
  bits : UInt32
  deriving DecidableEq, Repr

namespace MemoryPermissions

def read : MemoryPermissions := ⟨1 <<< (0 : UInt32)⟩

def write : MemoryPermissions := ⟨1 <<< (1 : UInt32)⟩

def execute : MemoryPermissions := ⟨1 <<< (2 : UInt32)⟩

def user : MemoryPermissions := ⟨1 <<< (3 : UInt32)⟩

def device : MemoryPermissions := ⟨1 <<< (4 : UInt32)⟩

def sealed : MemoryPermissions := ⟨1 <<< (5 : UInt32)⟩

def empty : MemoryPermissions := ⟨0⟩

def knownBits : UInt32 :=
  read.bits ||| write.bits ||| execute.bits ||| user.bits ||| device.bits |||
    sealed.bits

def fromBits (bits : UInt32) : KernelResult MemoryPermissions :=
  if bits &&& ~~~knownBits = 0 then .ok ⟨bits⟩ else .error .reservedBits

def contains (self other : MemoryPermissions) : Bool :=
  self.bits &&& other.bits == other.bits

def union (self other : MemoryPermissions) : MemoryPermissions :=
  ⟨self.bits ||| other.bits⟩

def isUserMapping (self : MemoryPermissions) : Bool := self.contains user

end MemoryPermissions

structure MemoryRegion where
  start : UInt64
  len : UInt64
  kind : MemoryRegionKind
  permissions : MemoryPermissions
  deriving DecidableEq, Repr

namespace MemoryRegion

def empty : MemoryRegion :=
  { start := 0, len := 0, kind := .reserved, permissions := .empty }

def new (start len : UInt64) (kind : MemoryRegionKind)
    (permissions : MemoryPermissions) : KernelResult MemoryRegion :=
  if len = 0 then .error .invalidArgument
  else if (checkedAdd64 start len).isNone then .error .invalidArgument
  else .ok { start, len, kind, permissions }

def «end» (self : MemoryRegion) : UInt64 := self.start + self.len

def overlaps (self other : MemoryRegion) : Bool :=
  self.start < other.end && other.start < self.end

def containsRange (self : MemoryRegion) (start len : UInt64) : Bool :=
  match checkedAdd64 start len with
  | some rangeEnd => self.start ≤ start && rangeEnd ≤ self.end
  | none => false

end MemoryRegion

structure MemoryMap where
  cells : Vector MemoryRegion maxMemoryRegions
  len : Nat
  len_le : len ≤ maxMemoryRegions
  deriving DecidableEq

namespace MemoryMap

def new : MemoryMap :=
  { cells := Vector.replicate maxMemoryRegions .empty
    len := 0
    len_le := Nat.zero_le _ }

def regions (self : MemoryMap) : List MemoryRegion :=
  self.cells.toList.take self.len

def push (self : MemoryMap) (region : MemoryRegion) :
    KernelResult Unit × MemoryMap :=
  if hfull : self.len = maxMemoryRegions then (.error .capacityExceeded, self)
  else if self.regions.any (·.overlaps region) then (.error .overlap, self)
  else
    have hlen : self.len < maxMemoryRegions :=
      Nat.lt_of_le_of_ne self.len_le hfull
    (.ok (),
      { cells := self.cells.set self.len region
        len := self.len + 1
        len_le := hlen })

def findContaining (self : MemoryMap) (start len : UInt64) :
    Option MemoryRegion :=
  self.regions.find? (·.containsRange start len)

def totalByKind (self : MemoryMap) (kind : MemoryRegionKind) : UInt64 :=
  ((self.regions.filter (·.kind == kind)).map MemoryRegion.len).sum

end MemoryMap

inductive AllocatorPhase where
  | uninitialized
  | bootBump
  | frame
  | heap
  deriving DecidableEq, Repr

inductive BufferAccess where
  | read
  | write
  | readWrite
  deriving DecidableEq, Repr

structure ValidatedUserBuffer where
  ptr : UInt64
  len : UInt64
  access : BufferAccess
  deriving DecidableEq, Repr

structure SharedMemoryHandle where
  id : UInt64
  ownerTask : TaskId
  permissions : UInt32
  deriving DecidableEq, Repr

def SharedMemoryHandle.invalid : SharedMemoryHandle :=
  { id := 0, ownerTask := 0, permissions := 0 }

structure SharedRegion where
  handle : SharedMemoryHandle
  start : UInt64
  len : UInt64
  isSealed : Bool
  deriving DecidableEq, Repr

/-- A free slot, which is itself marked sealed. -/
def SharedRegion.empty : SharedRegion :=
  { handle := .invalid, start := 0, len := 0, isSealed := true }

structure MemoryStats where
  usableBytes : UInt64
  regionCount : Nat
  sharedRegionCount : Nat
  allocatorPhase : AllocatorPhase
  deriving DecidableEq, Repr

structure MemoryManager where
  map : MemoryMap
  allocatorPhase : AllocatorPhase
  userLowerBound : UInt64
  userUpperBound : UInt64
  maxUserBufferLen : UInt64
  minimumUserAlignment : UInt64
  sharedRegions : Vector SharedRegion maxSharedRegions
  nextSharedId : UInt64
  deriving DecidableEq

namespace MemoryManager

def new : MemoryManager :=
  { map := .new
    allocatorPhase := .uninitialized
    userLowerBound := defaultUserLowerBound
    userUpperBound := defaultUserUpperBound
    maxUserBufferLen := defaultMaxUserBufferLen
    minimumUserAlignment := 1
    sharedRegions := Vector.replicate maxSharedRegions .empty
    nextSharedId := 1 }

/-- The allocator phase that the boot order puts after `phase`. -/
def isNextPhase : AllocatorPhase → AllocatorPhase → Bool
  | .uninitialized, .bootBump => true
  | .bootBump, .frame => true
  | .frame, .heap => true
  | _, _ => false

def setAllocatorPhase (self : MemoryManager) (phase : AllocatorPhase) :
    KernelResult Unit × MemoryManager :=
  let valid := self.allocatorPhase == phase || isNextPhase self.allocatorPhase phase
  if !valid then (.error .invalidState, self)
  else (.ok (), { self with allocatorPhase := phase })

def setUserBounds (self : MemoryManager) (lower upper : UInt64) :
    KernelResult Unit × MemoryManager :=
  if lower = 0 ∨ upper ≤ lower then (.error .invalidArgument, self)
  else (.ok (), { self with userLowerBound := lower, userUpperBound := upper })

def setMaxUserBufferLen (self : MemoryManager) (maxLen : UInt64) :
    KernelResult Unit × MemoryManager :=
  if maxLen = 0 then (.error .invalidArgument, self)
  else (.ok (), { self with maxUserBufferLen := maxLen })

/-- `u64::is_power_of_two`. -/
def isPowerOfTwo (value : UInt64) : Bool :=
  value != 0 && value &&& (value - 1) == 0

def setMinimumUserAlignment (self : MemoryManager) (alignment : UInt64) :
    KernelResult Unit × MemoryManager :=
  if alignment = 0 ∨ !isPowerOfTwo alignment then (.error .invalidArgument, self)
  else (.ok (), { self with minimumUserAlignment := alignment })

def validateUserRange (self : MemoryManager) (ptr len : UInt64) :
    KernelResult Unit :=
  if ptr = 0 ∨ len = 0 then .error .invalidUserBuffer
  else if self.maxUserBufferLen < len then .error .bufferTooLarge
  else
    match checkedAdd64 ptr len with
    | none => .error .invalidUserBuffer
    | some rangeEnd =>
        if ptr < self.userLowerBound ∨ self.userUpperBound < rangeEnd then
          .error .bufferOutOfRange
        else if ptr &&& (self.minimumUserAlignment - 1) ≠ 0 then
          .error .invalidUserBuffer
        else .ok ()

def requiredFlags : BufferAccess → UInt32
  | .read => userBufferRead
  | .write => userBufferWrite
  | .readWrite => userBufferRead ||| userBufferWrite

def validateUserBuffer (self : MemoryManager) (buffer : UserBuffer)
    (access : BufferAccess) : KernelResult ValidatedUserBuffer :=
  if buffer.reserved ≠ 0 ∨ buffer.hasUnknownFlags then .error .reservedBits
  else
    let required := requiredFlags access
    if buffer.flags &&& required ≠ required then .error .permissionDenied
    else
      match self.validateUserRange buffer.ptr buffer.len with
      | .error error => .error error
      | .ok () => .ok { ptr := buffer.ptr, len := buffer.len, access }

def shareRegion (self : MemoryManager) (ownerTask : TaskId) (start len : UInt64)
    (permissions : MemoryPermissions) :
    KernelResult SharedMemoryHandle × MemoryManager :=
  match self.validateUserRange start len with
  | .error error => (.error error, self)
  | .ok () =>
      if permissions.contains .sealed then (.error .sealed, self)
      else
        match position self.sharedRegions (·.handle.id == 0) with
        | none => (.error .capacityExceeded, self)
        | some slot =>
            let handle : SharedMemoryHandle :=
              { id := self.nextSharedId
                ownerTask
                permissions := permissions.bits }
            match checkedAdd64 self.nextSharedId 1 with
            | none => (.error .internal, self)
            | some nextSharedId =>
                (.ok handle,
                  { self with
                    nextSharedId
                    sharedRegions := self.sharedRegions.set slot
                      { handle, start, len, isSealed := false } slot.isLt })

/-- The test by which a live shared region is looked up: by id alone. -/
def namedBy (handle : SharedMemoryHandle) (region : SharedRegion) : Bool :=
  region.handle.id == handle.id && region.handle.id != 0

def sealRegion (region : SharedRegion) : SharedRegion :=
  { region with
    isSealed := true
    handle :=
      { region.handle with
        permissions :=
          region.handle.permissions &&& ~~~MemoryPermissions.write.bits |||
            MemoryPermissions.sealed.bits } }

def sealSharedRegion (self : MemoryManager) (handle : SharedMemoryHandle) :
    KernelResult Unit × MemoryManager :=
  match position self.sharedRegions (namedBy handle) with
  | none => (.error .notFound, self)
  | some slot =>
      (.ok (),
        { self with
          sharedRegions := self.sharedRegions.set slot
            (sealRegion (self.sharedRegions.get slot)) slot.isLt })

def sharedRegion (self : MemoryManager) (handle : SharedMemoryHandle) :
    KernelResult SharedRegion :=
  match first self.sharedRegions (namedBy handle) with
  | none => .error .notFound
  | some region => .ok region

def stats (self : MemoryManager) : MemoryStats :=
  { usableBytes := self.map.totalByKind .usable
    regionCount := self.map.len
    sharedRegionCount := countCells self.sharedRegions (·.handle.id != 0)
    allocatorPhase := self.allocatorPhase }

end MemoryManager

end AlaniKernel
