import AlaniKernel.Kernel.Rejection

/-!
# What a run leaves in the audit log and the fault ring

Events and faults are written on two paths, for a rejected call and after a
handler.  On both a call to an audited syscall appends one event, and a call
that fails records one fault.
-/

namespace AlaniKernel

open AlaniKernel.Foundation

theorem KernelStatus.isOk_iff {status : KernelStatus} :
    status.isOk = true ↔ status = .ok := by
  cases status <;> decide

namespace SyscallDispatcher

theorem lookup_none_iff {raw : UInt64} :
    lookup raw = none ↔ SyscallNumber.fromRaw raw = none := by
  cases hnumber : SyscallNumber.fromRaw raw with
  | none => simp [lookup, hnumber]
  | some number =>
      obtain ⟨descriptor, hrow, -⟩ := lookup_toUInt64 number
      rw [SyscallNumber.toUInt64_of_fromRaw hnumber] at hrow
      simp [hrow]

end SyscallDispatcher

namespace Kernel

/-! ## The audit log -/

def SyscallCall.auditKind (call : SyscallCall) : Option AuditEventKind :=
  (SyscallDispatcher.lookup call.frame.number).bind SyscallDescriptor.auditEvent

/-- The call is rejected for a missing capability, under a row without audit event. -/
def SyscallCall.deniedUnaudited (call : SyscallCall) : Bool :=
  match SyscallDispatcher.validate call.frame call.context with
  | .error .missingCapability => call.auditKind.isNone
  | _ => false

theorem audit_of_rejected {self : Kernel} {call : SyscallCall} {error : KernelError}
    (h : SyscallDispatcher.validate call.frame call.context = .error error) :
    (self.step call).2.audit =
      auditRejected self.audit call.frame call.context error := by
  rw [step_of_rejected h]
  rfl

theorem audit_of_validated {self : Kernel} {call : SyscallCall}
    {descriptor : SyscallDescriptor}
    (h : SyscallDispatcher.validate call.frame call.context = .ok descriptor) :
    (self.step call).2.audit =
      auditOutcome self.audit descriptor call.frame call.context
        (self.step call).1 := by
  rw [step, handleSyscall_of_validated h]

theorem audit_step_of_kind (self : Kernel) {call : SyscallCall}
    {descriptor : SyscallDescriptor} {kind : AuditEventKind}
    (hrow : SyscallDispatcher.lookup call.frame.number = some descriptor)
    (hkind : descriptor.auditEvent = some kind) :
    ∃ reason, (self.step call).2.audit =
      self.audit.recordSyscall kind call.context.taskId descriptor.number
        (self.step call).1.status call.frame.trace reason := by
  cases hvalid : SyscallDispatcher.validate call.frame call.context with
  | error error =>
      refine ⟨error.reason, ?_⟩
      rw [audit_of_rejected hvalid, step_of_rejected hvalid]
      simp only [auditRejected, hrow, hkind]
      rfl
  | ok found =>
      obtain ⟨hfound, -⟩ := SyscallDispatcher.validate_ok_iff.mp hvalid
      rw [hrow, Option.some.injEq] at hfound
      subst hfound
      rw [audit_of_validated hvalid]
      simp only [auditOutcome, hkind]
      exact ⟨_, rfl⟩

theorem audit_step_of_none (self : Kernel) {call : SyscallCall}
    (hnone : call.auditKind = none) :
    if call.deniedUnaudited = true then
      ∃ event, (self.step call).2.audit = self.audit.append event
    else (self.step call).2.audit = self.audit := by
  cases hvalid : SyscallDispatcher.validate call.frame call.context with
  | error error =>
      rw [audit_of_rejected hvalid]
      rcases SyscallDispatcher.validate_error hvalid with
        ⟨rfl, hrow⟩ | ⟨descriptor, hrow, hkind⟩
      · simp [SyscallCall.deniedUnaudited, hvalid, auditRejected, hrow]
      · have hevent : descriptor.auditEvent = none := by
          simpa [SyscallCall.auditKind, hrow] using hnone
        rcases hkind with rfl | rfl
        · simp only [SyscallCall.deniedUnaudited, hvalid, auditRejected, hrow, hevent,
            Bool.false_eq_true, if_false]
          rfl
        · simp only [SyscallCall.deniedUnaudited, hvalid, hnone, Option.isNone_none,
            if_true, auditRejected, hrow, hevent]
          exact ⟨_, rfl⟩
  | ok descriptor =>
      obtain ⟨hrow, -⟩ := SyscallDispatcher.validate_ok_iff.mp hvalid
      have hevent : descriptor.auditEvent = none := by
        simpa [SyscallCall.auditKind, hrow] using hnone
      rw [audit_of_validated hvalid]
      simp [SyscallCall.deniedUnaudited, hvalid, auditOutcome, hevent]

def SyscallCall.audited (call : SyscallCall) : Bool :=
  call.auditKind.isSome || call.deniedUnaudited

theorem audit_step_of_audited (self : Kernel) {call : SyscallCall}
    (h : call.audited = true) :
    ∃ event, (self.step call).2.audit = self.audit.append event := by
  cases hkind : call.auditKind with
  | none =>
      have hdenied : call.deniedUnaudited = true := by
        simpa [SyscallCall.audited, hkind] using h
      have hstep := audit_step_of_none self hkind
      rwa [if_pos hdenied] at hstep
  | some kind =>
      obtain ⟨descriptor, hrow, hevent⟩ := Option.bind_eq_some_iff.mp hkind
      obtain ⟨reason, haudit⟩ := audit_step_of_kind self hrow hevent
      exact ⟨_, haudit⟩

theorem audit_step_of_not_audited (self : Kernel) {call : SyscallCall}
    (h : call.audited = false) : (self.step call).2.audit = self.audit := by
  rw [SyscallCall.audited, Bool.or_eq_false_iff] at h
  have hstep := audit_step_of_none self (by simpa using h.1)
  rwa [if_neg (by simp [h.2])] at hstep

theorem audit_run (self : Kernel) (calls : List SyscallCall) :
    ∃ events, (run step self calls).audit = self.audit.appendAll events ∧
      events.length = calls.countP SyscallCall.audited := by
  obtain ⟨events, hlog, hlength⟩ := run_logged Kernel.audit AuditLog.append
    (fun _ call => call.audited) (fun self _ h => audit_step_of_audited self h)
    (fun self _ h => audit_step_of_not_audited self h) self calls
  exact ⟨events, hlog, hlength.trans (countAlong_eq_countP _ self calls)⟩

theorem countP_audited (calls : List SyscallCall) :
    calls.countP SyscallCall.audited =
      calls.countP (fun call => call.auditKind.isSome) +
        calls.countP SyscallCall.deniedUnaudited := by
  induction calls with
  | nil => rfl
  | cons call calls ih =>
      have hapart : call.deniedUnaudited = true → call.auditKind.isSome = false := by
        unfold SyscallCall.deniedUnaudited
        split
        · exact fun h => by simpa using h
        · exact fun h => absurd h Bool.false_ne_true
      simp only [List.countP_cons, ih, SyscallCall.audited]
      by_cases hdenied : call.deniedUnaudited = true
      · simp only [hdenied, hapart hdenied, Bool.or_true, Bool.false_eq_true, if_true,
          if_false]
        omega
      · simp only [hdenied, Bool.or_false, Bool.false_eq_true, if_false]
        omega

/--
A call to a syscall with an audit event appends exactly that event, under the
status that the caller gets.  A run appends an event for each such call and for
each capability denial of another syscall, and no others.
-/
theorem audit_accounts (self : Kernel) :
    (∀ (call : SyscallCall) (descriptor : SyscallDescriptor) (kind : AuditEventKind),
        SyscallDispatcher.lookup call.frame.number = some descriptor →
        descriptor.auditEvent = some kind →
        ∃ event, (self.step call).2.audit = self.audit.append event ∧
          (self.step call).2.audit.last =
            some { event with sequence := self.audit.nextSequence } ∧
          event.kind = kind ∧ event.taskId = call.context.taskId ∧
          event.syscall = some descriptor.number ∧ event.trace = call.frame.trace ∧
          event.status = (self.step call).1.status) ∧
      ∀ calls : List SyscallCall, ∃ events,
        (run step self calls).audit = self.audit.appendAll events ∧
          (run step self calls).audit.nextSequence =
            self.audit.nextSequence + UInt64.ofNat events.length ∧
          events.length =
            calls.countP (fun call => call.auditKind.isSome) +
              calls.countP SyscallCall.deniedUnaudited := by
  refine ⟨fun call descriptor kind hrow hkind => ?_, fun calls => ?_⟩
  · obtain ⟨reason, haudit⟩ := audit_step_of_kind self hrow hkind
    refine ⟨_, haudit, ?_, rfl, rfl, rfl, rfl, rfl⟩
    rw [haudit]
    exact AuditLog.last_append _ _
  · obtain ⟨events, haudit, hlength⟩ := audit_run self calls
    refine ⟨events, haudit, ?_, hlength.trans (countP_audited calls)⟩
    rw [haudit, AuditLog.nextSequence_appendAll]

theorem audit_accounts_refused_spawn :
    let call : SyscallCall :=
      { frame := .new .sysTaskSpawn #v[0, 0, 0, 0, 0, 0]
        context := .task 1 .empty }
    ∃ event, (new.step call).2.audit = new.audit.append event ∧
      event.kind = .taskSpawn ∧ event.status = (new.step call).1.status := by
  intro call
  obtain ⟨event, haudit, -, hkind, -, -, -, hstatus⟩ :=
    (audit_accounts new).1 call _ .taskSpawn rfl rfl
  exact ⟨event, haudit, hkind, hstatus⟩

/-! ## The fault ring -/

theorem status_errorForStatus {status : KernelStatus} (h : status ≠ .ok) :
    (errorForStatus status).status = status := by
  cases status with
  | ok => contradiction
  | invalidArgument | permissionDenied | notFound | busy | deadlineExceeded
  | internal => rfl

theorem faultKindForStatus_eq (status : KernelStatus) :
    faultKindForStatus status =
      if status = .permissionDenied then .capabilityDenied else .invariantViolation := by
  cases status <;> rfl

/-- The fault that a failed call records, by the status that the call returned. -/
structure FaultOf (call : SyscallCall) (returned : KernelStatus) (fault : FaultRecord) :
    Prop where
  status : fault.status = returned
  taskId : fault.taskId = call.context.taskId
  trace : fault.trace = call.frame.trace
  invalid : fault.kind = .invalidSyscall ↔
    SyscallNumber.fromRaw call.frame.number = none
  denied : fault.kind = .capabilityDenied ↔ returned = .permissionDenied
  violation : SyscallNumber.fromRaw call.frame.number ≠ none →
    returned ≠ .permissionDenied → fault.kind = .invariantViolation

theorem faults_of_rejected {self : Kernel} {call : SyscallCall} {error : KernelError}
    (h : SyscallDispatcher.validate call.frame call.context = .error error) :
    ∃ fault, (self.step call).2.faults = self.faults.record fault ∧
      FaultOf call error.status fault := by
  rw [step_of_rejected h]
  have hunknown : SyscallDispatcher.lookup call.frame.number = none ↔
      SyscallNumber.fromRaw call.frame.number = none :=
    SyscallDispatcher.lookup_none_iff
  refine ⟨_, rfl, ?_⟩
  rcases SyscallDispatcher.validate_error h with
    ⟨rfl, hrow⟩ | ⟨descriptor, hrow, rfl | rfl⟩
  · have hnumber := hunknown.mp hrow
    exact ⟨rfl, rfl, rfl, by simp [FaultRecord.fromError, hnumber],
      by simp [FaultRecord.fromError, KernelError.status], by simp [hnumber]⟩
  · have hnumber := mt hunknown.mpr (by simp [hrow])
    exact ⟨rfl, rfl, rfl, by simp [FaultRecord.fromError, hnumber],
      by simp [FaultRecord.fromError, KernelError.status], fun _ _ => rfl⟩
  · have hnumber := mt hunknown.mpr (by simp [hrow])
    exact ⟨rfl, rfl, rfl, by simp [FaultRecord.fromError, hnumber],
      by simp [FaultRecord.fromError, KernelError.status],
      fun _ hstatus => absurd rfl hstatus⟩

theorem faults_of_validated {self : Kernel} {call : SyscallCall}
    {descriptor : SyscallDescriptor}
    (h : SyscallDispatcher.validate call.frame call.context = .ok descriptor) :
    (self.step call).2.faults =
      reportOutcome self.faults call.frame call.context (self.step call).1 := by
  rw [step, handleSyscall_of_validated h]

/-- The error rebuilt from the status of a failed handler reports that status again. -/
theorem faults_of_failed {self : Kernel} {call : SyscallCall}
    {descriptor : SyscallDescriptor}
    (h : SyscallDispatcher.validate call.frame call.context = .ok descriptor)
    (hfailed : (self.step call).1.status ≠ .ok) :
    ∃ fault, (self.step call).2.faults = self.faults.record fault ∧
      FaultOf call (self.step call).1.status fault := by
  have hisOk : (self.step call).1.status.isOk = false := by
    rwa [← Bool.not_eq_true, KernelStatus.isOk_iff]
  rw [faults_of_validated h, reportOutcome, hisOk, Bool.not_false, if_pos rfl]
  obtain ⟨hrow, -⟩ := SyscallDispatcher.validate_ok_iff.mp h
  have hnumber : SyscallNumber.fromRaw call.frame.number ≠ none := by
    rw [ne_eq, ← SyscallDispatcher.lookup_none_iff, hrow]
    simp
  have hkind := faultKindForStatus_eq (self.step call).1.status
  refine ⟨_, rfl, ⟨status_errorForStatus hfailed, rfl, rfl, ?_, ?_, ?_⟩⟩
  · simp only [FaultRecord.fromError, hkind, hnumber, iff_false]
    split_ifs <;> simp
  · simp only [FaultRecord.fromError, hkind]
    split_ifs with hdenied <;> simp [hdenied]
  · intro _ hdenied
    simp only [FaultRecord.fromError, hkind, if_neg hdenied]

theorem faults_step_of_failed (self : Kernel) {call : SyscallCall}
    (hfailed : (self.step call).1.status ≠ .ok) :
    ∃ fault, (self.step call).2.faults = self.faults.record fault ∧
      FaultOf call (self.step call).1.status fault := by
  cases hvalid : SyscallDispatcher.validate call.frame call.context with
  | error error =>
      have hstatus : (self.step call).1.status = error.status := by
        rw [step_of_rejected hvalid]
        rfl
      rw [hstatus]
      exact faults_of_rejected hvalid
  | ok descriptor => exact faults_of_failed hvalid hfailed

theorem faults_step_of_ok (self : Kernel) {call : SyscallCall}
    (hok : (self.step call).1.status = .ok) :
    (self.step call).2.faults = self.faults := by
  cases hvalid : SyscallDispatcher.validate call.frame call.context with
  | error error =>
      rw [step_of_rejected hvalid] at hok
      exact absurd hok error.status_ne_ok
  | ok descriptor =>
      rw [faults_of_validated hvalid, reportOutcome, hok]
      rfl

theorem faults_run (self : Kernel) (calls : List SyscallCall) :
    ∃ faults, (run step self calls).faults = self.faults.recordAll faults ∧
      faults.length =
        (history step self calls).countP fun entry => !entry.2.status.isOk := by
  have hfailed : ∀ status : KernelStatus, (!status.isOk) = true ↔ status ≠ .ok := by
    intro status
    rw [ne_eq, ← KernelStatus.isOk_iff, Bool.not_eq_true', Bool.not_eq_true]
  have hrecord : ∀ (self : Kernel) (call : SyscallCall),
      (!(self.step call).1.status.isOk) = true →
        ∃ fault, (self.step call).2.faults = self.faults.record fault := by
    intro self call h
    obtain ⟨fault, hfault, -⟩ := faults_step_of_failed self ((hfailed _).mp h)
    exact ⟨fault, hfault⟩
  have hkeep : ∀ (self : Kernel) (call : SyscallCall),
      (!(self.step call).1.status.isOk) = false →
        (self.step call).2.faults = self.faults := by
    intro self call h
    refine faults_step_of_ok self (of_not_not fun hne => ?_)
    rw [(hfailed _).mpr hne] at h
    contradiction
  obtain ⟨faults, hlog, hlength⟩ := run_logged Kernel.faults FaultReporter.record
    (fun self call => !(self.step call).1.status.isOk) hrecord hkeep self calls
  refine ⟨faults, hlog, hlength.trans ?_⟩
  exact countAlong_eq_countP_history
    (fun _ (result : SyscallResult) => !result.status.isOk) self calls

/--
A call that fails records one fault, which carries the returned status, and a
call that completes records none.
-/
theorem faults_account (self : Kernel) :
    (∀ call : SyscallCall,
        ((self.step call).1.status = .ok → (self.step call).2.faults = self.faults) ∧
          ((self.step call).1.status ≠ .ok →
            ∃ fault, (self.step call).2.faults = self.faults.record fault ∧
              (self.step call).2.faults.last =
                some { fault with sequence := self.faults.nextSequence } ∧
              FaultOf call (self.step call).1.status fault)) ∧
      ∀ calls : List SyscallCall,
        (run step self calls).faults.nextSequence =
          self.faults.nextSequence +
            UInt64.ofNat ((history step self calls).countP
              fun entry => !entry.2.status.isOk) := by
  refine ⟨fun call => ⟨faults_step_of_ok self, fun hfailed => ?_⟩, fun calls => ?_⟩
  · obtain ⟨fault, hfault, hof⟩ := faults_step_of_failed self hfailed
    refine ⟨fault, hfault, ?_, hof⟩
    rw [hfault]
    exact FaultReporter.last_record _ _
  · obtain ⟨faults, hlog, hlength⟩ := faults_run self calls
    rw [hlog, FaultReporter.nextSequence_recordAll, hlength]

theorem faults_account_unknown :
    let call : SyscallCall :=
      { frame := { number := 0xffff, args := #v[0, 0, 0, 0, 0, 0], trace := .empty }
        context := .task 1 .empty }
    ∃ fault, (new.step call).2.faults = new.faults.record fault ∧
      fault.kind = .invalidSyscall := by
  intro call
  obtain ⟨fault, hfault, -, hof⟩ := ((faults_account new).1 call).2 (by decide)
  exact ⟨fault, hfault, hof.invalid.mpr (by decide)⟩

end Kernel

end AlaniKernel
