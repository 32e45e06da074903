import AlaniKernel.Kernel.Syscalls
import Mathlib.Data.Nat.Bitwise

/-!
# Denials and the audit log

Which calls return `PermissionDenied`, and which of them leave an event.
-/

namespace AlaniKernel

open AlaniKernel.Foundation

namespace UserBuffer

theorem writable_iff (flags : UInt32) :
    flags &&& userBufferWrite ≠ userBufferWrite ↔ flags &&& userBufferWrite = 0 := by
  have hbit : (flags &&& userBufferWrite).toNat = 0 ∨
      (flags &&& userBufferWrite).toNat = 2 := by
    rw [UInt32.toNat_and]
    change flags.toNat &&& 2 ^ 1 = 0 ∨ flags.toNat &&& 2 ^ 1 = 2 ^ 1
    rw [Nat.and_two_pow]
    cases flags.toNat.testBit 1 <;> simp
  rw [ne_eq, ← UInt32.toNat_inj, ← UInt32.toNat_inj]
  change ¬ _ = 2 ↔ _ = 0
  omega

end UserBuffer

namespace MemoryManager

theorem validateUserRange_error {self : MemoryManager} {ptr len : UInt64}
    {error : KernelError} (h : self.validateUserRange ptr len = .error error) :
    error.status = .invalidArgument := by
  unfold validateUserRange at h
  split at h
  · cases h
    rfl
  · split at h
    · cases h
      rfl
    · split at h
      · cases h
        rfl
      · split at h
        · cases h
          rfl
        · split at h
          · cases h
            rfl
          · contradiction

theorem validateUserBuffer_denied_iff (self : MemoryManager) (buffer : UserBuffer)
    (access : BufferAccess) :
    (∃ error, self.validateUserBuffer buffer access = .error error ∧
        error.status = .permissionDenied) ↔
      buffer.reserved = 0 ∧ buffer.hasUnknownFlags = false ∧
        buffer.flags &&& requiredFlags access ≠ requiredFlags access := by
  unfold validateUserBuffer
  by_cases hreserved : buffer.reserved ≠ 0 ∨ buffer.hasUnknownFlags = true
  · rw [if_pos hreserved]
    refine iff_of_false ?_ ?_
    · rintro ⟨error, h, hdenied⟩
      cases h
      contradiction
    · rintro ⟨hzero, hknown, -⟩
      rcases hreserved with h | h
      · exact h hzero
      · rw [hknown] at h
        contradiction
  · rw [if_neg hreserved]
    simp only [not_or, ne_eq, not_not, Bool.not_eq_true] at hreserved
    by_cases hflags : buffer.flags &&& requiredFlags access ≠ requiredFlags access
    · refine iff_of_true ⟨.permissionDenied, ?_, rfl⟩ ⟨hreserved.1, hreserved.2, hflags⟩
      simp [hflags]
    · refine iff_of_false ?_ (fun h => hflags h.2.2)
      rintro ⟨error, h, hdenied⟩
      simp only [hflags, if_false] at h
      cases hrange : self.validateUserRange buffer.ptr buffer.len with
      | ok => simp [hrange] at h
      | error first =>
          simp only [hrange, Except.error.injEq] at h
          subst h
          rw [validateUserRange_error hrange] at hdenied
          contradiction

theorem validateUserBuffer_error {self : MemoryManager} {buffer : UserBuffer}
    {access : BufferAccess} {error : KernelError}
    (h : self.validateUserBuffer buffer access = .error error) :
    error.status = .invalidArgument ∨ error.status = .permissionDenied := by
  unfold validateUserBuffer at h
  split at h
  · cases h
    exact .inl rfl
  · dsimp only at h
    split at h
    · cases h
      exact .inr rfl
    · cases hrange : self.validateUserRange buffer.ptr buffer.len with
      | ok => simp [hrange] at h
      | error first =>
          simp only [hrange, Except.error.injEq] at h
          subst h
          exact .inl (validateUserRange_error hrange)

end MemoryManager

namespace Scheduler

theorem yieldCurrent_not_denied {self : Scheduler} {error : KernelError}
    (h : self.yieldCurrent.1 = .error error) : error.status ≠ .permissionDenied := by
  unfold yieldCurrent at h
  cases hcharge : self.chargeCurrent with
  | error first =>
      simp only [hcharge, Except.error.injEq] at h
      subst h
      rcases self.chargeCurrent_cases with
        ⟨error, rfl | rfl, herror⟩ | ⟨-, hidle⟩ |
          ⟨current, i, remainingTicks, -, -, -, hpaid⟩
      · rw [hcharge] at herror
        cases herror
        decide
      · rw [hcharge] at herror
        cases herror
        decide
      · rw [hcharge] at hidle
        contradiction
      · rw [hcharge] at hpaid
        contradiction
  | ok charged =>
      simp only [hcharge] at h
      rcases charged.scheduleNext_cases with
        ⟨-, hnext⟩ | ⟨tick, -, -, hnext⟩ | ⟨k, next, -, hnext⟩ | ⟨k, next, hnext, -⟩
      · rw [hnext] at h
        cases h
        decide
      · rw [hnext] at h
        contradiction
      · rw [hnext] at h
        contradiction
      · rw [hnext] at h
        cases h
        decide

end Scheduler

namespace Kernel

def infoBuffer (frame : SyscallFrame) : UserBuffer :=
  .new frame.arg0 frame.arg1 frame.arg2.toUInt32

/-- A `sys_info` call whose flags are known and lack the write direction. -/
def UnwritableInfo (frame : SyscallFrame) : Prop :=
  frame.number = SyscallNumber.sysInfo.toUInt64 ∧
    (infoBuffer frame).hasUnknownFlags = false ∧
    (infoBuffer frame).isWritable = false

instance (frame : SyscallFrame) : Decidable (UnwritableInfo frame) :=
  inferInstanceAs (Decidable (_ ∧ _))

/-- A denied call appends exactly one event, which records the denial. -/
def DenialAudited (self : Kernel) (frame : SyscallFrame)
    (context : DispatchContext) : Prop :=
  (self.handleSyscall frame context).1.status = .permissionDenied →
    (self.handleSyscall frame context).2.audit.nextSequence =
        self.audit.nextSequence + 1 ∧
      ∃ event,
        (self.handleSyscall frame context).2.audit = self.audit.append event ∧
        (self.handleSyscall frame context).2.audit.last =
          some { event with sequence := self.audit.nextSequence } ∧
        event.status = .permissionDenied ∧ event.taskId = context.taskId ∧
        event.trace = frame.trace

theorem sysInfo_denied_iff (self : Kernel) (frame : SyscallFrame) :
    (self.sysInfo frame).status = .permissionDenied ↔
      (infoBuffer frame).hasUnknownFlags = false ∧
        (infoBuffer frame).isWritable = false := by
  have hdenied := self.memory.validateUserBuffer_denied_iff (infoBuffer frame) .write
  have hflags := UserBuffer.writable_iff (infoBuffer frame).flags
  have hwritable : (infoBuffer frame).isWritable = false ↔
      (infoBuffer frame).flags &&& userBufferWrite = 0 := by
    simp [UserBuffer.isWritable]
  rw [hwritable, ← hflags]
  change _ ↔ (infoBuffer frame).reserved = 0 ∧ _ ∧ _ at hdenied
  rw [show (infoBuffer frame).reserved = 0 from rfl] at hdenied
  simp only [true_and] at hdenied
  rw [show userBufferWrite = MemoryManager.requiredFlags .write from rfl, ← hdenied]
  have hbuffer : UserBuffer.new frame.arg0 frame.arg1 frame.arg2.toUInt32 =
      infoBuffer frame := rfl
  unfold sysInfo
  dsimp only
  rw [hbuffer]
  cases self.memory.validateUserBuffer (infoBuffer frame) .write with
  | ok buffer => simp
  | error error => simp

theorem sysRandom_not_denied (self : Kernel) (frame : SyscallFrame) :
    (self.sysRandom frame).status ≠ .permissionDenied := by
  unfold sysRandom
  dsimp only
  cases hbuffer : self.memory.validateUserBuffer
      (.new frame.arg0 frame.arg1 userBufferWrite) .write with
  | ok buffer => simp
  | error error =>
      intro hdenied
      have h := (self.memory.validateUserBuffer_denied_iff _ _).mp
        ⟨error, hbuffer, hdenied⟩
      have hflags : userBufferWrite &&& userBufferWrite = userBufferWrite := by decide
      exact h.2.2 hflags

theorem sysYield_not_denied (self : Kernel) :
    self.sysYield.1.status ≠ .permissionDenied := by
  unfold sysYield
  cases hyield : self.scheduler.yieldCurrent with
  | mk reply scheduler =>
      cases reply with
      | error error =>
          exact Scheduler.yieldCurrent_not_denied (by rw [hyield])
      | ok selected => cases selected <;> simp

theorem sysTaskStatus_not_denied (self : Kernel) (frame : SyscallFrame) :
    (self.sysTaskStatus frame).status ≠ .permissionDenied := by
  unfold sysTaskStatus
  cases self.scheduler.runQueue.get frame.arg0 with
  | none => decide
  | some task => simp

theorem unaudited_rows : ∀ descriptor ∈ syscallDescriptors,
    descriptor.auditEvent = none →
    descriptor.number ∈ [SyscallNumber.sysInfo, .sysYield, .sysTime, .sysTraceContext,
      .sysTaskStatus, .sysMemQuery, .sysDeviceList, .sysModelList, .sysRandom] := by
  decide

theorem denied_unaudited {self : Kernel} {descriptor : SyscallDescriptor}
    {frame : SyscallFrame} {context : DispatchContext}
    (hmem : descriptor ∈ syscallDescriptors) (haudit : descriptor.auditEvent = none)
    (hdenied : (self.dispatchValidated descriptor.number frame context).1.status =
      .permissionDenied) :
    descriptor.number = .sysInfo := by
  have hrow := unaudited_rows descriptor hmem haudit
  generalize descriptor.number = number at hrow hdenied
  simp only [List.mem_cons, List.not_mem_nil, or_false] at hrow
  rcases hrow with rfl | rfl | rfl | rfl | rfl | rfl | rfl | rfl | rfl
  · rfl
  · exact absurd hdenied (sysYield_not_denied self)
  · contradiction
  · contradiction
  · exact absurd hdenied (sysTaskStatus_not_denied self frame)
  · contradiction
  · contradiction
  · contradiction
  · exact absurd hdenied (sysRandom_not_denied self frame)

theorem denialAudited_of_append {self : Kernel} {frame : SyscallFrame}
    {context : DispatchContext} {event : AuditEvent}
    (h : (self.handleSyscall frame context).2.audit = self.audit.append event)
    (hstatus : event.status = (self.handleSyscall frame context).1.status)
    (htask : event.taskId = context.taskId) (htrace : event.trace = frame.trace) :
    self.DenialAudited frame context := by
  intro hdenied
  refine ⟨?_, event, h, ?_, hstatus.trans hdenied, htask, htrace⟩
  · rw [h, AuditLog.nextSequence_append]
  · rw [h, AuditLog.last_append]

theorem denialAudited_of_not_unwritable {self : Kernel} {frame : SyscallFrame}
    {context : DispatchContext} (h : ¬ UnwritableInfo frame) :
    self.DenialAudited frame context := by
  cases hvalid : SyscallDispatcher.validate frame context with
  | error error =>
      have hhandle : self.handleSyscall frame context =
          (.error error, self.recordRejectedSyscall frame context error) :=
        handleSyscall_of_rejected hvalid
      rcases SyscallDispatcher.validate_error hvalid with
        ⟨rfl, -⟩ | ⟨descriptor, hlookup, rfl | rfl⟩
      · intro hdenied
        rw [hhandle] at hdenied
        contradiction
      · intro hdenied
        rw [hhandle] at hdenied
        contradiction
      · have haudit : (self.handleSyscall frame context).2.audit =
            auditRejected self.audit frame context .missingCapability := by
          rw [hhandle]
          rfl
        simp only [auditRejected, hlookup] at haudit
        have hstatus : (self.handleSyscall frame context).1.status =
            .permissionDenied := by
          rw [hhandle]
          rfl
        cases hevent : descriptor.auditEvent with
        | some kind =>
            rw [hevent] at haudit
            exact denialAudited_of_append haudit hstatus.symm rfl rfl
        | none =>
            rw [hevent] at haudit
            exact denialAudited_of_append haudit hstatus.symm rfl rfl
  | ok descriptor =>
      have hresult : (self.handleSyscall frame context).1 =
          (self.dispatchValidated descriptor.number frame context).1 := by
        rw [handleSyscall_of_validated hvalid]
      have haudit : (self.handleSyscall frame context).2.audit =
          auditOutcome self.audit descriptor frame context
            (self.handleSyscall frame context).1 := by
        rw [handleSyscall_of_validated hvalid]
      cases hevent : descriptor.auditEvent with
      | some kind =>
          simp only [auditOutcome, hevent] at haudit
          exact denialAudited_of_append haudit rfl rfl rfl
      | none =>
          intro hdenied
          obtain ⟨hlookup, -⟩ := SyscallDispatcher.validate_ok_iff.mp hvalid
          obtain ⟨hnumber, hmem⟩ := SyscallDispatcher.lookup_some hlookup
          rw [hresult] at hdenied
          have hinfo := denied_unaudited hmem hevent hdenied
          rw [hinfo] at hnumber hdenied
          exact absurd ⟨hnumber, (sysInfo_denied_iff self frame).mp hdenied⟩ h

theorem handleSyscall_unwritable (self : Kernel) {frame : SyscallFrame}
    (context : DispatchContext) (h : UnwritableInfo frame) :
    (self.handleSyscall frame context).1.status = .permissionDenied ∧
      (self.handleSyscall frame context).2.audit = self.audit := by
  obtain ⟨descriptor, hvalid, hnumber, hsilent⟩ :=
    SyscallDispatcher.validate_sysInfo h.1 context
  have hdispatch : self.dispatchValidated descriptor.number frame context =
      (self.sysInfo frame, self) := by
    rw [hnumber]
    rfl
  rw [handleSyscall_of_validated hvalid, hdispatch]
  simp only [auditOutcome, hsilent]
  exact ⟨(sysInfo_denied_iff self frame).mpr h.2, trivial⟩

theorem succ_ne_self (sequence : UInt64) : sequence + 1 ≠ sequence := by
  intro h
  rw [← UInt64.toNat_inj, UInt64.toNat_add] at h
  have := sequence.toNat_lt
  change (sequence.toNat + 1) % 2 ^ 64 = sequence.toNat at h
  omega

/--
A denial is audited unless it is the one that `sys_info` makes for an output
buffer without the write flag: its row names no audit event.
-/
theorem denialAudited_iff (self : Kernel) (frame : SyscallFrame)
    (context : DispatchContext) :
    self.DenialAudited frame context ↔ ¬ UnwritableInfo frame := by
  refine ⟨fun haudited hunwritable => ?_, denialAudited_of_not_unwritable⟩
  obtain ⟨hdenied, haudit⟩ := handleSyscall_unwritable self context hunwritable
  have hnext := (haudited hdenied).1
  rw [haudit] at hnext
  exact succ_ne_self _ hnext.symm

def readOnlyInfo : SyscallFrame :=
  .new .sysInfo #v[0x1000, 128, 0, 0, 0, 0]

theorem not_denialAudited_readOnlyInfo :
    ¬ new.DenialAudited readOnlyInfo (.task 1 .empty) := by
  intro h
  have hunwritable : UnwritableInfo readOnlyInfo := by decide
  obtain ⟨hdenied, haudit⟩ := handleSyscall_unwritable new (.task 1 .empty) hunwritable
  have hnext := (h hdenied).1
  rw [haudit] at hnext
  exact succ_ne_self _ hnext.symm

end Kernel

end AlaniKernel
