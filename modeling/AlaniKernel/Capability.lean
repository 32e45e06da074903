import AlaniKernel.Error
import AlaniKernel.Foundation.Cells
import AlaniKernel.Foundation.Word

/-!
# Capability sets and the handle registry

Compact authority bitsets and the bounded registry of capability handles.
Operations that take the registry by mutable reference return their result
together with the registry they leave behind, on failure as well.
-/

namespace AlaniKernel

open AlaniKernel.Foundation

abbrev maxCapabilityRecords : Nat := 64

abbrev TaskId := UInt64

inductive Capability where
  | taskSpawn
  | taskManage
  | memoryMap
  | memoryShare
  | deviceList
  | deviceOpen
  | deviceCall
  | cognitionInfer
  | cognitionMemory
  | securityManage
  | auditAppend
  | auditQuery
  | auditVerify
  | debugTrace
  | kernelMaintenance
  deriving DecidableEq, Repr

/-- The `repr(u8)` value of a capability. -/
def Capability.toUInt8 : Capability → UInt8
  | .taskSpawn => 0
  | .taskManage => 1
  | .memoryMap => 2
  | .memoryShare => 3
  | .deviceList => 4
  | .deviceOpen => 5
  | .deviceCall => 6
  | .cognitionInfer => 7
  | .cognitionMemory => 8
  | .securityManage => 9
  | .auditAppend => 10
  | .auditQuery => 11
  | .auditVerify => 12
  | .debugTrace => 13
  | .kernelMaintenance => 14

def Capability.bit (self : Capability) : UInt64 :=
  1 <<< self.toUInt8.toUInt64

def knownCapabilityBits : UInt64 :=
  Capability.taskSpawn.bit ||| Capability.taskManage.bit |||
    Capability.memoryMap.bit ||| Capability.memoryShare.bit |||
    Capability.deviceList.bit ||| Capability.deviceOpen.bit |||
    Capability.deviceCall.bit ||| Capability.cognitionInfer.bit |||
    Capability.cognitionMemory.bit ||| Capability.securityManage.bit |||
    Capability.auditAppend.bit ||| Capability.auditQuery.bit |||
    Capability.auditVerify.bit ||| Capability.debugTrace.bit |||
    Capability.kernelMaintenance.bit

structure CapabilitySet where
  bits : UInt64
  deriving DecidableEq, Repr

namespace CapabilitySet

def empty : CapabilitySet := ⟨0⟩

def single (capability : Capability) : CapabilitySet := ⟨capability.bit⟩

/-- Constructs a set from raw bits after rejecting reserved authority bits. -/
def fromBits (bits : UInt64) : KernelResult CapabilitySet :=
  if bits &&& ~~~knownCapabilityBits = 0 then .ok ⟨bits⟩
  else .error .reservedBits

def isEmpty (self : CapabilitySet) : Bool := self.bits == 0

def contains (self : CapabilitySet) (capability : Capability) : Bool :=
  self.bits &&& capability.bit != 0

def containsAll (self required : CapabilitySet) : Bool :=
  self.bits &&& required.bits == required.bits

def insert (self : CapabilitySet) (capability : Capability) : CapabilitySet :=
  ⟨self.bits ||| capability.bit⟩

def intersect (self other : CapabilitySet) : CapabilitySet :=
  ⟨self.bits &&& other.bits⟩

def derive (self requested : CapabilitySet) : KernelResult CapabilitySet :=
  if self.containsAll requested then .ok requested
  else .error .missingCapability

def require (self : CapabilitySet) (required : Capability) : KernelResult Unit :=
  if self.contains required then .ok () else .error .missingCapability

end CapabilitySet

structure CapabilityHandle where
  id : UInt64
  rights : UInt64
  ownerTask : TaskId
  generation : UInt32
  deriving DecidableEq, Repr

def CapabilityHandle.invalid : CapabilityHandle :=
  { id := 0, rights := 0, ownerTask := 0, generation := 0 }

structure CapabilityRecord where
  handle : CapabilityHandle
  revoked : Bool
  deriving DecidableEq, Repr

def CapabilityRecord.empty : CapabilityRecord :=
  { handle := .invalid, revoked := true }

structure CapabilityRegistry where
  records : Vector CapabilityRecord maxCapabilityRecords
  nextId : UInt64
  nextGeneration : UInt32
  deriving DecidableEq

namespace CapabilityRegistry

def new : CapabilityRegistry :=
  { records := Vector.replicate maxCapabilityRecords .empty
    nextId := 1
    nextGeneration := 1 }

def issue (self : CapabilityRegistry) (ownerTask : TaskId)
    (rights : CapabilitySet) : KernelResult CapabilityHandle × CapabilityRegistry :=
  match position self.records
      (fun record => record.handle.id == 0 || record.revoked) with
  | none => (.error .capacityExceeded, self)
  | some slot =>
      let handle : CapabilityHandle :=
        { id := self.nextId
          rights := rights.bits
          ownerTask
          generation := self.nextGeneration }
      match checkedAdd64 self.nextId 1 with
      | none => (.error .internal, self)
      | some nextId =>
          (.ok handle,
            { records := self.records.set slot { handle, revoked := false } slot.isLt
              nextId
              nextGeneration := (checkedAdd32 self.nextGeneration 1).getD 1 })

/-- The test by which `revoke` and `resolve` look a live handle up. -/
def liveAs (handle : CapabilityHandle) (record : CapabilityRecord) : Bool :=
  !record.revoked && record.handle.id == handle.id &&
    record.handle.generation == handle.generation

def revoke (self : CapabilityRegistry) (handle : CapabilityHandle) :
    KernelResult Unit × CapabilityRegistry :=
  match position self.records (liveAs handle) with
  | none => (.error .notFound, self)
  | some slot =>
      let record := self.records.get slot
      (.ok (),
        { self with
          records := self.records.set slot { record with revoked := true } slot.isLt })

def resolve (self : CapabilityRegistry) (handle : CapabilityHandle) :
    KernelResult CapabilitySet :=
  if handle.id = 0 then .error .notFound
  else
    match first self.records (liveAs handle) with
    | none => .error .notFound
    | some record => CapabilitySet.fromBits record.handle.rights

def handleContains (self : CapabilityRegistry) (handle : CapabilityHandle)
    (required : Capability) : KernelResult Bool :=
  match self.resolve handle with
  | .error error => .error error
  | .ok rights => .ok (rights.contains required)

def derive (self : CapabilityRegistry) (parent : CapabilityHandle)
    (ownerTask : TaskId) (requested : CapabilitySet) :
    KernelResult CapabilityHandle × CapabilityRegistry :=
  match self.resolve parent with
  | .error error => (.error error, self)
  | .ok parentRights =>
      match parentRights.derive requested with
      | .error error => (.error error, self)
      | .ok childRights => self.issue ownerTask childRights

end CapabilityRegistry

end AlaniKernel
