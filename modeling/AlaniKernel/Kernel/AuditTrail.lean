import AlaniKernel.Kernel.Charging
import AlaniKernel.Kernel.Denials
import AlaniKernel.Kernel.Diagnostics
import AlaniKernel.Kernel.HostBoot
import AlaniKernel.Kernel.Replay

/-!
# No effect without a trace

Every syscall that changes a subsystem has an audit event, but for the yield.
A run that leaves no event in the audit log can only have yielded.  The audit
syscalls report how many events there were.
-/

namespace AlaniKernel

open AlaniKernel.Foundation

namespace Kernel

def SyscallCall.isYield (call : SyscallCall) : Bool :=
  call.accepted == some .sysYield

theorem schedulerOp_of_isYield {call : SyscallCall} (h : call.isYield = true)
    (self : Kernel) : self.schedulerOp call = some .yieldCurrent := by
  have haccepted : call.accepted = some .sysYield := beq_iff_eq.mp h
  rw [schedulerOp, haccepted]
  rfl

theorem accepted_of_not_audited {call : SyscallCall} (h : call.audited = false)
    {number : SyscallNumber} (haccepted : call.accepted = some number) :
    number ∈ [SyscallNumber.sysInfo, .sysYield, .sysTime, .sysTraceContext,
      .sysTaskStatus, .sysMemQuery, .sysDeviceList, .sysModelList, .sysRandom] := by
  rw [SyscallCall.audited, Bool.or_eq_false_iff] at h
  cases hvalid : SyscallDispatcher.validate call.frame call.context with
  | error error =>
      rw [SyscallCall.accepted, SyscallDispatcher.accepted_of_error hvalid] at haccepted
      contradiction
  | ok descriptor =>
      obtain ⟨hrow, -⟩ := SyscallDispatcher.validate_ok_iff.mp hvalid
      rw [SyscallCall.accepted, SyscallDispatcher.accepted_of_ok hvalid,
        Option.some.injEq] at haccepted
      have hkind : descriptor.auditEvent = none := by
        simpa [SyscallCall.auditKind, hrow] using h.1
      rw [← haccepted]
      exact unaudited_rows descriptor (SyscallDispatcher.lookup_some hrow).2 hkind

theorem memoryOp_of_not_audited {call : SyscallCall} (h : call.audited = false) :
    memoryOp call = none := by
  cases haccepted : call.accepted with
  | none => rw [memoryOp, haccepted, Option.bind_none]
  | some number =>
      have hrow := accepted_of_not_audited h haccepted
      rw [memoryOp, haccepted, Option.bind_some]
      cases number with
      | sysMemShare | sysMemSeal => simp at hrow
      | _ => rfl

theorem schedulerOp_of_not_audited {call : SyscallCall} (h : call.audited = false)
    (hyield : call.isYield = false) (self : Kernel) : self.schedulerOp call = none := by
  cases haccepted : call.accepted with
  | none => rw [schedulerOp, haccepted, Option.bind_none]
  | some number =>
      have hrow := accepted_of_not_audited h haccepted
      rw [SyscallCall.isYield, haccepted] at hyield
      rw [schedulerOp, haccepted, Option.bind_some]
      cases number with
      | sysYield => simp at hyield
      | sysExit | sysTaskSpawn | sysTaskCancel => simp at hrow
      | _ => rfl

theorem step_of_not_audited (self : Kernel) {call : SyscallCall}
    (h : call.audited = false) :
    (self.step call).2 =
      { self with
        scheduler := if call.isYield then (self.scheduler.step .yieldCurrent).2
          else self.scheduler
        faults := (self.step call).2.faults } := by
  have heffect := self.effect_step call
  have hmemory : (self.step call).2.memory = self.memory := by
    rw [heffect.memory, memoryOp_of_not_audited h, Option.elim_none]
  have hscheduler : (self.step call).2.scheduler =
      if call.isYield then (self.scheduler.step .yieldCurrent).2 else self.scheduler := by
    rw [heffect.scheduler]
    cases hyield : call.isYield with
    | true => rw [schedulerOp_of_isYield hyield, Option.elim_some, if_pos rfl]
    | false =>
        rw [schedulerOp_of_not_audited h hyield, Option.elim_none,
          if_neg Bool.false_ne_true]
  rw [← hscheduler, ← hmemory, ← audit_step_of_not_audited self h, ← heffect.config,
    ← heffect.boot, ← heffect.devices]

theorem run_of_not_audited (self : Kernel) {calls : List SyscallCall}
    (h : ∀ call ∈ calls, call.audited = false) :
    run step self calls =
      { self with
        scheduler := run Scheduler.step self.scheduler
          (List.replicate (calls.countP SyscallCall.isYield) .yieldCurrent)
        faults := (run step self calls).faults } := by
  induction calls generalizing self with
  | nil => rfl
  | cons call calls ih =>
      have hstep := self.step_of_not_audited (h call List.mem_cons_self)
      have hrest := ih (self.step call).2 fun other hother =>
        h other (List.mem_cons_of_mem call hother)
      rw [run_cons, hrest]
      have hscheduler := congrArg Kernel.scheduler hstep
      have hyields : run Scheduler.step (self.step call).2.scheduler
            (List.replicate (calls.countP SyscallCall.isYield) .yieldCurrent) =
          run Scheduler.step self.scheduler
            (List.replicate ((call :: calls).countP SyscallCall.isYield) .yieldCurrent) := by
        rw [hscheduler, List.countP_cons]
        cases call.isYield with
        | true => rfl
        | false => rfl
      rw [hyields, hstep]

/--
A run that leaves the sequence of the audit log where it was has left everything
as it was, but for the yields that it made and the faults that it recorded.
-/
theorem silent_run_only_yields (self : Kernel) (calls : List SyscallCall)
    (hcalls : calls.length < 2 ^ 64)
    (hsilent : (run step self calls).audit.nextSequence = self.audit.nextSequence) :
    run step self calls =
      { self with
        scheduler := run Scheduler.step self.scheduler
          (List.replicate (calls.countP SyscallCall.isYield) .yieldCurrent)
        faults := (run step self calls).faults } := by
  apply run_of_not_audited
  obtain ⟨events, haudit, hlength⟩ := audit_run self calls
  have hcount : calls.countP SyscallCall.audited ≤ calls.length := List.countP_le_length
  rw [haudit, AuditLog.nextSequence_appendAll, hlength] at hsilent
  have hnumber := congrArg UInt64.toNat hsilent
  rw [UInt64.toNat_add, UInt64.toNat_ofNat'] at hnumber
  have hlast := self.audit.nextSequence.toNat_lt
  have hnone : calls.countP SyscallCall.audited = 0 := by omega
  intro call hcall
  simpa using List.countP_eq_zero.mp hnone call hcall

theorem silent_run_only_yields_reads :
    run step new
        [⟨.new .sysYield #v[0, 0, 0, 0, 0, 0], .task 1 .empty⟩,
          ⟨.new .sysTaskStatus #v[1, 0, 0, 0, 0, 0], .task 1 (.single .taskManage)⟩] =
      { new with
        scheduler := run Scheduler.step new.scheduler [.yieldCurrent]
        faults := (run step new
          [⟨.new .sysYield #v[0, 0, 0, 0, 0, 0], .task 1 .empty⟩,
            ⟨.new .sysTaskStatus #v[1, 0, 0, 0, 0, 0],
              .task 1 (.single .taskManage)⟩]).faults } :=
  silent_run_only_yields new _ (by decide) (by decide +kernel)

/-! ## What the audit syscalls report -/

theorem Fresh.audit {self : Kernel} (h : self.Fresh) : self.audit = .new := by
  rcases h with rfl | rfl
  · rfl
  · have hheap : ¬ new.memory.PastBootBump := by
      rintro (h | h) <;> exact absurd h (by decide)
    rw [initializeHost_heap rfl hheap]
    rcases completePhases_runtimeSpawn
        { new with
          boot := .upTo (phasesBefore .runtimeSpawn).length
          memory := { new.memory with allocatorPhase := .heap } }
        Scheduler.wellFormed_new rfl with ⟨-, error, nextTaskId, hspawn⟩ | ⟨_, _, -, hspawn⟩
    · rw [hspawn]
      rfl
    · rw [hspawn]
      rfl

/--
After any run that does not wrap the counter, `sys_audit_verify` returns the
number of calls that left an event, `sys_audit_query` that number or the
capacity of the log, and `sys_audit_append` the number that its own event gets.
-/
theorem audit_calls_report (self : Kernel) (h : self.Fresh) (calls : List SyscallCall)
    (hcalls : calls.countP SyscallCall.audited < 2 ^ 64 - 1) (call : SyscallCall) :
    (call.accepted = some .sysAuditVerify →
        ((run step self calls).step call).1 =
          .ok (UInt64.ofNat (calls.countP SyscallCall.audited)) 0) ∧
      (call.accepted = some .sysAuditQuery →
        ((run step self calls).step call).1 =
          .ok (UInt64.ofNat (min (calls.countP SyscallCall.audited) 128)) 0) ∧
      (call.accepted = some .sysAuditAppend →
        ((run step self calls).step call).1 =
          .ok (UInt64.ofNat (calls.countP SyscallCall.audited + 1)) 0) := by
  obtain ⟨events, haudit, hlength⟩ := audit_run self calls
  rw [h.audit] at haudit
  have hnext : (run step self calls).audit.nextSequence =
      UInt64.ofNat (calls.countP SyscallCall.audited + 1) := by
    rw [haudit, AuditLog.nextSequence_appendAll, hlength, UInt64.ofNat_add, UInt64.add_comm]
    rfl
  have hlen : (run step self calls).audit.len =
      min (calls.countP SyscallCall.audited) 128 := by
    rw [haudit, AuditLog.len_appendAll, hlength]
  refine ⟨fun haccepted => ?_, fun haccepted => ?_, fun haccepted => ?_⟩
  · have hpos : (run step self calls).audit.nextSequence ≠ 0 := by
      rw [hnext]
      intro hzero
      have hnumber := congrArg UInt64.toNat hzero
      rw [UInt64.toNat_ofNat', UInt64.toNat_zero] at hnumber
      omega
    rw [step, (result_of_accepted haccepted).1]
    simp only [dispatchValidated, if_neg hpos]
    rw [hnext, UInt64.ofNat_add]
    simp
  · rw [step, (result_of_accepted haccepted).1]
    simp only [dispatchValidated, hlen]
  · rw [step, (result_of_accepted haccepted).1]
    simp only [dispatchValidated, hnext]

theorem audit_calls_report_two :
    ((run step new.initializeHost.2
        [⟨.new .sysMemShare #v[0x1000, 64, 3, 0, 0, 0], .task 1 (.single .memoryShare)⟩,
          ⟨.new .sysDeviceOpen #v[1, 0, 0, 0, 0, 0], .task 1 .empty⟩,
          ⟨.new .sysYield #v[0, 0, 0, 0, 0, 0], .task 1 .empty⟩]).step
        ⟨.new .sysAuditVerify #v[0, 0, 0, 0, 0, 0], .task 1 (.single .auditVerify)⟩).1.value =
      2 := by
  have hreport := (audit_calls_report new.initializeHost.2 (.inr rfl)
    [⟨.new .sysMemShare #v[0x1000, 64, 3, 0, 0, 0], .task 1 (.single .memoryShare)⟩,
      ⟨.new .sysDeviceOpen #v[1, 0, 0, 0, 0, 0], .task 1 .empty⟩,
      ⟨.new .sysYield #v[0, 0, 0, 0, 0, 0], .task 1 .empty⟩] (by decide)
    ⟨.new .sysAuditVerify #v[0, 0, 0, 0, 0, 0], .task 1 (.single .auditVerify)⟩).1 rfl
  rw [hreport]
  decide

end Kernel

end AlaniKernel
