import AlaniKernel.Foundation.Ring
import AlaniKernel.Foundation.Word
import AlaniKernel.Syscall.Abi

/-!
# Fault records and the diagnostic ring
-/

namespace AlaniKernel

open AlaniKernel.Foundation

abbrev maxFaultRecords : Nat := 64

inductive FaultKind where
  | panic
  | pageFault
  | invalidSyscall
  | capabilityDenied
  | deviceError
  | doubleFault
  | invariantViolation
  deriving DecidableEq, Repr

inductive FaultSeverity where
  | info
  | warning
  | error
  | fatal
  deriving DecidableEq, Repr

inductive FaultPhase where
  | preBoot
  | boot
  | runtime
  | shutdown
  deriving DecidableEq, Repr

structure FaultRecord where
  sequence : UInt64
  kind : FaultKind
  severity : FaultSeverity
  taskId : TaskId
  address : UInt64
  status : KernelStatus
  phase : FaultPhase
  trace : TraceContext
  reason : String
  deriving DecidableEq, Repr

namespace FaultRecord

def empty : FaultRecord :=
  { sequence := 0
    kind := .invariantViolation
    severity := .info
    taskId := 0
    address := 0
    status := .ok
    phase := .preBoot
    trace := .empty
    reason := "" }

def fromError (kind : FaultKind) (severity : FaultSeverity) (taskId : TaskId)
    (address : UInt64) (error : KernelError) (phase : FaultPhase)
    (trace : TraceContext) : FaultRecord :=
  { sequence := 0
    kind
    severity
    taskId
    address
    status := error.status
    phase
    trace
    reason := error.reason }

end FaultRecord

structure FaultReporter extends Ring FaultRecord maxFaultRecords where
  nextSequence : UInt64

namespace FaultReporter

def new : FaultReporter :=
  { Ring.empty FaultRecord.empty (by decide) with nextSequence := 1 }

def len (self : FaultReporter) : Nat := self.count

/-- Records a fault and assigns the next sequence, which wraps. -/
def record (self : FaultReporter) (fault : FaultRecord) : FaultReporter :=
  { self.push { fault with sequence := self.nextSequence } with
    nextSequence := self.nextSequence + 1 }

def recordError (self : FaultReporter) (kind : FaultKind)
    (severity : FaultSeverity) (taskId : TaskId) (error : KernelError)
    (phase : FaultPhase) (trace : TraceContext) : FaultReporter :=
  self.record (FaultRecord.fromError kind severity taskId 0 error phase trace)

def recordAll (self : FaultReporter) (faults : List FaultRecord) : FaultReporter :=
  faults.foldl record self

@[simp] theorem nextSequence_record (self : FaultReporter) (fault : FaultRecord) :
    (self.record fault).nextSequence = self.nextSequence + 1 := rfl

theorem last_record (self : FaultReporter) (fault : FaultRecord) :
    (self.record fault).last =
      some { fault with sequence := self.nextSequence } :=
  Ring.last_push _ _

theorem nextSequence_recordAll (self : FaultReporter) (faults : List FaultRecord) :
    (self.recordAll faults).nextSequence =
      self.nextSequence + UInt64.ofNat faults.length :=
  counter_foldl nextSequence_record self faults

def numbered (self : FaultReporter) (faults : List FaultRecord) : List FaultRecord :=
  faults.mapIdx fun k fault =>
    { fault with sequence := self.nextSequence + UInt64.ofNat k }

theorem recent_recordAll (faults : List FaultRecord) :
    (new.recordAll faults).Recent (new.numbered faults) := by
  have hnew : new.Recent [] := Ring.recent_empty _ _
  exact Ring.Recent.foldl FaultReporter.toRing
    (fun sequence fault => { fault with sequence := sequence })
    (fun _ _ => rfl) nextSequence_record hnew faults

end FaultReporter

end AlaniKernel
