import AlaniKernel.Kernel.Accounting
import AlaniKernel.Kernel.Isolation

/-!
# The kernel as the sum of its subsystems

A run of syscalls is a run of the scheduler beside a run of the memory manager.
The operations of both follow from the calls alone, and the two diagnostic rings
from the calls and their results.
-/

namespace AlaniKernel

open AlaniKernel.Foundation

namespace Kernel

namespace SyscallCall

/-- The event of a rejected call: without an audit kind, a denial is still noted. -/
def rejectionEvent (call : SyscallCall) (error : KernelError)
    (descriptor : SyscallDescriptor) : Option AuditEvent :=
  match descriptor.auditEvent with
  | some kind =>
      some (AuditLog.syscallEvent kind call.context.taskId descriptor.number error.status
        call.frame.trace error.reason)
  | none =>
      if error.status = .permissionDenied then
        some (AuditLog.syscallEvent .securityDecision call.context.taskId descriptor.number
          error.status call.frame.trace error.reason)
      else none

def auditEvent (call : SyscallCall) (result : SyscallResult) : Option AuditEvent :=
  match SyscallDispatcher.validate call.frame call.context with
  | .error error =>
      (SyscallDispatcher.lookup call.frame.number).bind (call.rejectionEvent error)
  | .ok descriptor =>
      descriptor.auditEvent.map fun kind =>
        AuditLog.syscallEvent kind call.context.taskId descriptor.number result.status
          call.frame.trace (if result.status.isOk then "ok" else "syscall_failed")

def rejectionFault (call : SyscallCall) (error : KernelError) : FaultRecord :=
  FaultRecord.fromError
    (match error with
      | .unknownSyscall => .invalidSyscall
      | .missingCapability | .permissionDenied => .capabilityDenied
      | _ => .invariantViolation)
    (if error.status = .permissionDenied then .error else .warning)
    call.context.taskId 0 error
    (if call.context.execution = .earlyBoot then .boot else .runtime) call.frame.trace

def faultRecord (call : SyscallCall) (result : SyscallResult) : Option FaultRecord :=
  match SyscallDispatcher.validate call.frame call.context with
  | .error error => some (call.rejectionFault error)
  | .ok _ =>
      if result.status.isOk then none
      else
        some (FaultRecord.fromError (faultKindForStatus result.status) .warning
          call.context.taskId 0 (errorForStatus result.status) .runtime call.frame.trace)

end SyscallCall

theorem audit_replayed (self : Kernel) (call : SyscallCall) :
    (self.step call).2.audit =
      (call.auditEvent (self.step call).1).elim self.audit self.audit.append := by
  cases hvalid : SyscallDispatcher.validate call.frame call.context with
  | error error =>
      rw [audit_of_rejected hvalid, SyscallCall.auditEvent, hvalid, auditRejected]
      cases SyscallDispatcher.lookup call.frame.number with
      | none => rfl
      | some descriptor =>
          simp only [Option.bind_some, SyscallCall.rejectionEvent]
          cases descriptor.auditEvent with
          | some kind => rfl
          | none =>
              dsimp only
              split_ifs
              · rfl
              · rfl
  | ok descriptor =>
      rw [audit_of_validated hvalid, SyscallCall.auditEvent, hvalid, auditOutcome]
      dsimp only
      cases descriptor.auditEvent with
      | none => rfl
      | some kind => rfl

theorem faults_replayed (self : Kernel) (call : SyscallCall) :
    (self.step call).2.faults =
      (call.faultRecord (self.step call).1).elim self.faults self.faults.record := by
  cases hvalid : SyscallDispatcher.validate call.frame call.context with
  | error error =>
      rw [SyscallCall.faultRecord, hvalid, step_of_rejected hvalid]
      rfl
  | ok descriptor =>
      rw [faults_of_validated hvalid, SyscallCall.faultRecord, hvalid, reportOutcome]
      cases hok : (self.step call).1.status.isOk with
      | true => rfl
      | false => rfl

theorem step_replayed (self : Kernel) (call : SyscallCall) :
    (self.step call).2 =
      { config := self.config
        boot := self.boot
        devices := self.devices
        scheduler := (self.schedulerOp call).elim self.scheduler
          fun op => (self.scheduler.step op).2
        memory := (memoryOp call).elim self.memory fun op => (self.memory.step op).2
        audit := (call.auditEvent (self.step call).1).elim self.audit self.audit.append
        faults := (call.faultRecord (self.step call).1).elim self.faults
          self.faults.record } := by
  have heffect := self.effect_step call
  rw [← heffect.scheduler, ← heffect.memory, ← audit_replayed, ← faults_replayed,
    ← heffect.config, ← heffect.boot, ← heffect.devices]

theorem foldl_filterMap_cons {α β γ : Type} (write : γ → β → γ) (f : α → Option β) (log : γ)
    (entry : α) (entries : List α) :
    ((entry :: entries).filterMap f).foldl write log =
      (entries.filterMap f).foldl write ((f entry).elim log (write log)) := by
  cases hentry : f entry with
  | none => rw [List.filterMap_cons_none hentry, Option.elim_none]
  | some written => rw [List.filterMap_cons_some hentry, Option.elim_some, List.foldl_cons]

/--
A run of the kernel is a run of the scheduler beside a run of the memory
manager, over operations that the calls and the first settings determine; the
rings hold what the calls and their results say, and nothing else changes.
-/
theorem run_replayed (self : Kernel) (calls : List SyscallCall) :
    run step self calls =
      { config := self.config
        boot := self.boot
        devices := self.devices
        scheduler := run Scheduler.step self.scheduler (calls.filterMap self.schedulerOp)
        memory := run MemoryManager.step self.memory (calls.filterMap memoryOp)
        audit := self.audit.appendAll
          ((history step self calls).filterMap fun event => event.1.auditEvent event.2)
        faults := self.faults.recordAll
          ((history step self calls).filterMap fun event => event.1.faultRecord event.2) } := by
  induction calls generalizing self with
  | nil => rfl
  | cons call calls ih =>
      have hcalls : (self.step call).2.schedulerOp = self.schedulerOp :=
        funext (schedulerOp_congr (settings_syscall self call))
      rw [run_cons, ih, hcalls, history, run_filterMap_cons, run_filterMap_cons,
        AuditLog.appendAll, AuditLog.appendAll, FaultReporter.recordAll,
        FaultReporter.recordAll, foldl_filterMap_cons, foldl_filterMap_cons]
      simp only [self.step_replayed call]

end Kernel

end AlaniKernel
