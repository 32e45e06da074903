import AlaniKernel.Foundation.Ring
import AlaniKernel.Foundation.Word
import AlaniKernel.Syscall.Abi

/-!
# Audit events and the in-memory audit log

Structured audit records and the ring that keeps the most recent of them.
-/

namespace AlaniKernel

open AlaniKernel.Foundation

abbrev maxAuditEvents : Nat := 128

inductive AuditEventKind where
  | taskSpawn
  | taskStateChanged
  | memoryMap
  | memoryShare
  | deviceOpen
  | deviceCall
  | cognitionInfer
  | cognitiveMemory
  | capabilityChanged
  | securityDecision
  | auditAppend
  | auditQuery
  | auditVerify
  | fault
  deriving DecidableEq, Repr

inductive AuditSeverity where
  | info
  | notice
  | warning
  | critical
  deriving DecidableEq, Repr

inductive DataClass where
  | «public»
  | operational
  | sensitive
  | secret
  deriving DecidableEq, Repr

structure AuditEvent where
  sequence : UInt64
  kind : AuditEventKind
  severity : AuditSeverity
  taskId : TaskId
  syscall : Option SyscallNumber
  status : KernelStatus
  trace : TraceContext
  dataClass : DataClass
  reason : String
  deriving DecidableEq, Repr

def AuditEvent.empty : AuditEvent :=
  { sequence := 0
    kind := .securityDecision
    severity := .info
    taskId := 0
    syscall := none
    status := .ok
    trace := .empty
    dataClass := .«public»
    reason := "" }

structure AuditLog extends Ring AuditEvent maxAuditEvents where
  nextSequence : UInt64

namespace AuditLog

def new : AuditLog :=
  { Ring.empty AuditEvent.empty (by decide) with nextSequence := 1 }

def len (self : AuditLog) : Nat := self.count

/-- Appends an event and assigns the next sequence, which wraps. -/
def append (self : AuditLog) (event : AuditEvent) : AuditLog :=
  { self.push { event with sequence := self.nextSequence } with
    nextSequence := self.nextSequence + 1 }

def appendAll (self : AuditLog) (events : List AuditEvent) : AuditLog :=
  events.foldl append self

def syscallEvent (kind : AuditEventKind) (taskId : TaskId)
    (syscall : SyscallNumber) (status : KernelStatus) (trace : TraceContext)
    (reason : String) : AuditEvent :=
  let severity : AuditSeverity :=
    if status.isOk then .notice
    else if status = .permissionDenied then .critical
    else .warning
  { sequence := 0
    kind
    severity
    taskId
    syscall := some syscall
    status
    trace
    dataClass := .operational
    reason }

def recordSyscall (self : AuditLog) (kind : AuditEventKind) (taskId : TaskId)
    (syscall : SyscallNumber) (status : KernelStatus) (trace : TraceContext)
    (reason : String) : AuditLog :=
  self.append (syscallEvent kind taskId syscall status trace reason)

@[simp] theorem nextSequence_append (self : AuditLog) (event : AuditEvent) :
    (self.append event).nextSequence = self.nextSequence + 1 := rfl

theorem last_append (self : AuditLog) (event : AuditEvent) :
    (self.append event).last =
      some { event with sequence := self.nextSequence } :=
  Ring.last_push _ _

theorem nextSequence_appendAll (self : AuditLog) (events : List AuditEvent) :
    (self.appendAll events).nextSequence =
      self.nextSequence + UInt64.ofNat events.length :=
  counter_foldl nextSequence_append self events

def numbered (self : AuditLog) (events : List AuditEvent) : List AuditEvent :=
  events.mapIdx fun k event =>
    { event with sequence := self.nextSequence + UInt64.ofNat k }

theorem recent_appendAll (events : List AuditEvent) :
    (new.appendAll events).Recent (new.numbered events) := by
  have hnew : new.Recent [] := Ring.recent_empty _ _
  exact Ring.Recent.foldl AuditLog.toRing
    (fun sequence event => { event with sequence := sequence })
    (fun _ _ => rfl) nextSequence_append hnew events

end AuditLog

end AlaniKernel
