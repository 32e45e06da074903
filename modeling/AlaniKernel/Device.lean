import AlaniKernel.Capability

/-!
# Device registry and mediation

Device descriptors, the bounded registry, and the checks that a caller passes
before a driver is reached.
-/

namespace AlaniKernel

open AlaniKernel.Foundation

abbrev maxDevices : Nat := 32

abbrev DeviceId := UInt64

inductive DeviceClass where
  | console
  | timer
  | block
  | entropy
  | networkSim
  | sensorSim
  | accelerator
  | memory
  | auditStorage
  deriving DecidableEq, Repr

/-- The `repr(u8)` value of a device class, as `u64`. -/
def DeviceClass.toUInt64 : DeviceClass → UInt64
  | .console => 0
  | .timer => 1
  | .block => 2
  | .entropy => 3
  | .networkSim => 4
  | .sensorSim => 5
  | .accelerator => 6
  | .memory => 7
  | .auditStorage => 8

inductive DeviceLifecycle where
  | discovered
  | probed
  | registered
  | configured
  | open
  | suspended
  | removed
  deriving DecidableEq, Repr

inductive DmaPolicy where
  | none
  | pinnedUser
  | kernelOnly
  deriving DecidableEq, Repr

inductive DeviceOperation where
  | query
  | read
  | write
  | submit
  | cancel
  | reset
  | health
  deriving DecidableEq, Repr

namespace DeviceOperation

def toUInt32 : DeviceOperation → UInt32
  | .query => 0
  | .read => 1
  | .write => 2
  | .submit => 3
  | .cancel => 4
  | .reset => 5
  | .health => 6

def fromRaw (raw : UInt64) : Option DeviceOperation :=
  if raw = 0 then some .query
  else if raw = 1 then some .read
  else if raw = 2 then some .write
  else if raw = 3 then some .submit
  else if raw = 4 then some .cancel
  else if raw = 5 then some .reset
  else if raw = 6 then some .health
  else none

end DeviceOperation

structure DeviceDescriptor where
  id : DeviceId
  deviceClass : DeviceClass
  lifecycle : DeviceLifecycle
  requiredCapabilities : CapabilitySet
  supportedOperations : UInt32
  maxInputLen : UInt32
  maxOutputLen : UInt32
  dmaPolicy : DmaPolicy
  deriving DecidableEq, Repr

namespace DeviceDescriptor

def empty : DeviceDescriptor :=
  { id := 0
    deviceClass := .console
    lifecycle := .removed
    requiredCapabilities := .empty
    supportedOperations := 0
    maxInputLen := 0
    maxOutputLen := 0
    dmaPolicy := .none }

def supports (self : DeviceDescriptor) (operation : DeviceOperation) : Bool :=
  self.supportedOperations &&& (1 <<< operation.toUInt32) != 0

def isAvailable (self : DeviceDescriptor) : Bool :=
  match self.lifecycle with
  | .registered | .configured | .open => true
  | _ => false

end DeviceDescriptor

structure DeviceSlot where
  occupied : Bool
  descriptor : DeviceDescriptor
  deriving DecidableEq, Repr

def DeviceSlot.empty : DeviceSlot :=
  { occupied := false, descriptor := .empty }

structure DeviceRegistry where
  slots : Vector DeviceSlot maxDevices
  deriving DecidableEq

namespace DeviceRegistry

def new : DeviceRegistry :=
  { slots := Vector.replicate maxDevices .empty }

def get (self : DeviceRegistry) (id : DeviceId) : Option DeviceDescriptor :=
  (first self.slots fun slot => slot.occupied && slot.descriptor.id == id).map
    DeviceSlot.descriptor

def register (self : DeviceRegistry) (descriptor : DeviceDescriptor) :
    KernelResult Unit × DeviceRegistry :=
  if descriptor.id = 0 then (.error .invalidArgument, self)
  else if (self.get descriptor.id).isSome then (.error .duplicate, self)
  else
    match position self.slots (fun slot => !slot.occupied) with
    | none => (.error .capacityExceeded, self)
    | some slot =>
        (.ok (),
          { slots := self.slots.set slot { occupied := true, descriptor } slot.isLt })

def len (self : DeviceRegistry) : Nat :=
  countCells self.slots DeviceSlot.occupied

def authorizeOpen (self : DeviceRegistry) (id : DeviceId)
    (caller : CapabilitySet) : KernelResult DeviceDescriptor :=
  match caller.require .deviceOpen with
  | .error error => .error error
  | .ok () =>
      match self.get id with
      | none => .error .notFound
      | some descriptor =>
          if !descriptor.isAvailable then .error .busy
          else if !caller.containsAll descriptor.requiredCapabilities then
            .error .missingCapability
          else .ok descriptor

def authorizeCall (self : DeviceRegistry) (id : DeviceId)
    (operation : DeviceOperation) (caller : CapabilitySet)
    (inputLen outputLen : UInt64) : KernelResult DeviceDescriptor :=
  match caller.require .deviceCall with
  | .error error => .error error
  | .ok () =>
      match self.get id with
      | none => .error .notFound
      | some descriptor =>
          if !descriptor.isAvailable then .error .busy
          else if !descriptor.supports operation then .error .invalidArgument
          else if !caller.containsAll descriptor.requiredCapabilities then
            .error .missingCapability
          else if descriptor.maxInputLen.toUInt64 < inputLen ∨
              descriptor.maxOutputLen.toUInt64 < outputLen then
            .error .bufferTooLarge
          else .ok descriptor

end DeviceRegistry

end AlaniKernel
