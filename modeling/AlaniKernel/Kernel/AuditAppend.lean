import AlaniKernel.Kernel.Accounting
import AlaniKernel.Kernel.Registers

/-!
# Sequences returned by audit appends

`sys_audit_append` reads the next sequence of the log, and the dispatcher
appends the event afterwards.  Nothing is appended in between, so the caller
gets the sequence of its own event, and later appends return larger ones for as
long as the counter does not wrap.
-/

namespace AlaniKernel

open AlaniKernel.Foundation

namespace Kernel

/-! ## One append -/

theorem auditKind_of_append {call : SyscallCall}
    (h : call.frame.number = SyscallNumber.sysAuditAppend.toUInt64) :
    ∃ descriptor, SyscallDispatcher.lookup call.frame.number = some descriptor ∧
      descriptor.auditEvent = some .auditAppend := by
  rw [h]
  exact ⟨_, rfl, rfl⟩

theorem audited_of_append {call : SyscallCall}
    (h : call.frame.number = SyscallNumber.sysAuditAppend.toUInt64) :
    call.audited = true := by
  obtain ⟨descriptor, hrow, hkind⟩ := auditKind_of_append h
  simp [SyscallCall.audited, SyscallCall.auditKind, hrow, hkind]

theorem value_of_append {self : Kernel} {call : SyscallCall}
    (h : call.frame.number = SyscallNumber.sysAuditAppend.toUInt64)
    (hok : (self.step call).1.status = .ok) :
    (self.step call).1.value = self.audit.nextSequence := by
  rw [step, result_of_ok h hok]
  rfl

/-! ## Successive appends -/

def returnedSequence (entry : SyscallCall × SyscallResult) : Option UInt64 :=
  if entry.1.frame.number = SyscallNumber.sysAuditAppend.toUInt64 ∧
      entry.2.status = .ok then
    some entry.2.value
  else none

def returnedSequences (self : Kernel) (calls : List SyscallCall) : List UInt64 :=
  (history step self calls).filterMap returnedSequence

theorem returnedSequence_eq_some {self : Kernel} {call : SyscallCall} {value : UInt64}
    (h : returnedSequence (call, (self.step call).1) = some value) :
    call.audited = true ∧ value = self.audit.nextSequence := by
  unfold returnedSequence at h
  split_ifs at h with happend
  cases h
  exact ⟨audited_of_append happend.1, value_of_append happend.1 happend.2⟩

theorem toNat_nextSequence_step (self : Kernel) (call : SyscallCall)
    (h : self.audit.nextSequence.toNat + [call].countP SyscallCall.audited < 2 ^ 64) :
    (self.step call).2.audit.nextSequence.toNat =
      self.audit.nextSequence.toNat + [call].countP SyscallCall.audited := by
  cases haudited : call.audited with
  | true =>
      obtain ⟨event, haudit⟩ := audit_step_of_audited self haudited
      have hone : [call].countP SyscallCall.audited = 1 := by simp [haudited]
      rw [hone] at h ⊢
      rw [haudit, AuditLog.nextSequence_append, UInt64.toNat_add]
      exact Nat.mod_eq_of_lt h
  | false =>
      rw [audit_step_of_not_audited self haudited]
      simp [haudited]

theorem returnedSequences_increase {self : Kernel} {calls : List SyscallCall}
    (h : self.audit.nextSequence.toNat + calls.countP SyscallCall.audited < 2 ^ 64) :
    (∀ value ∈ self.returnedSequences calls, self.audit.nextSequence ≤ value) ∧
      (self.returnedSequences calls).Pairwise (· < ·) := by
  induction calls generalizing self with
  | nil => simp [returnedSequences, history]
  | cons call calls ih =>
      have hsplit : (call :: calls).countP SyscallCall.audited =
          [call].countP SyscallCall.audited + calls.countP SyscallCall.audited := by
        rw [← List.countP_append, List.singleton_append]
      have hnext := toNat_nextSequence_step self call (by omega)
      obtain ⟨hlater, hincrease⟩ := @ih (self.step call).2 (by omega)
      have hle : self.audit.nextSequence ≤ (self.step call).2.audit.nextSequence := by
        rw [UInt64.le_iff_toNat_le]
        omega
      cases hreturned : returnedSequence (call, (self.step call).1) with
      | none =>
          have hsame : self.returnedSequences (call :: calls) =
              (self.step call).2.returnedSequences calls := by
            rw [returnedSequences, history, List.filterMap_cons_none hreturned]
            rfl
          rw [hsame]
          exact ⟨fun value hvalue => UInt64.le_trans hle (hlater value hvalue), hincrease⟩
      | some first =>
          obtain ⟨haudited, rfl⟩ := returnedSequence_eq_some hreturned
          have hcons : self.returnedSequences (call :: calls) =
              self.audit.nextSequence :: (self.step call).2.returnedSequences calls := by
            rw [returnedSequences, history, List.filterMap_cons_some hreturned]
            rfl
          have hlt : self.audit.nextSequence < (self.step call).2.audit.nextSequence := by
            have hone : [call].countP SyscallCall.audited = 1 := by simp [haudited]
            rw [UInt64.lt_iff_toNat_lt]
            omega
          rw [hcons]
          constructor
          · intro value hvalue
            rcases List.mem_cons.mp hvalue with rfl | hvalue
            · exact UInt64.le_refl _
            · exact UInt64.le_trans hle (hlater value hvalue)
          · rw [List.pairwise_cons]
            exact ⟨fun value hvalue => UInt64.lt_of_lt_of_le hlt (hlater value hvalue),
              hincrease⟩

/--
A successful `sys_audit_append` returns the sequence of the event that it
appended, which is then the last of the log.  Over a run of any calls with fewer
than `2 ^ 64 - 1` events in all, the returned sequences strictly increase.
-/
theorem audit_append_returns_own_sequence (self : Kernel) :
    (∀ call : SyscallCall,
        call.frame.number = SyscallNumber.sysAuditAppend.toUInt64 →
        (self.step call).1.status = .ok →
        ∃ event, (self.step call).2.audit = self.audit.append event ∧
          (self.step call).2.audit.last = some event ∧
          event.sequence = (self.step call).1.value ∧
          event.kind = .auditAppend ∧ event.taskId = call.context.taskId) ∧
      ∀ earlier calls, self.audit = AuditLog.new.appendAll earlier →
        earlier.length + calls.countP SyscallCall.audited < 2 ^ 64 - 1 →
        (self.returnedSequences calls).Pairwise (· < ·) := by
  constructor
  · intro call happend hok
    obtain ⟨descriptor, hrow, hkind⟩ := auditKind_of_append happend
    obtain ⟨reason, haudit⟩ := audit_step_of_kind self hrow hkind
    refine ⟨{ AuditLog.syscallEvent .auditAppend call.context.taskId descriptor.number
        (self.step call).1.status call.frame.trace reason with
      sequence := self.audit.nextSequence }, haudit, ?_, ?_, rfl, rfl⟩
    · rw [haudit]
      exact AuditLog.last_append _ _
    · exact (value_of_append happend hok).symm
  · intro earlier calls hlog hfew
    have hcounter : self.audit.nextSequence = 1 + UInt64.ofNat earlier.length := by
      rw [hlog, AuditLog.nextSequence_appendAll]
      rfl
    apply (returnedSequences_increase _).2
    rw [hcounter, UInt64.toNat_add, UInt64.toNat_ofNat']
    have hone : (1 : UInt64).toNat = 1 := rfl
    omega

def interleavedAppends : List SyscallCall :=
  let append : SyscallCall :=
    { frame := .new .sysAuditAppend (.replicate 6 0)
      context := .task 1 (.single .auditAppend) }
  let spawn : SyscallCall :=
    { frame := .new .sysTaskSpawn (.replicate 6 0)
      context := .task 2 .empty }
  [append, spawn, append]

theorem audit_append_returns_own_sequence_interleaved :
    (new.returnedSequences interleavedAppends) = [1, 3] ∧
      (new.returnedSequences interleavedAppends).Pairwise (· < ·) := by
  constructor
  · decide +kernel
  · exact (audit_append_returns_own_sequence new).2 [] interleavedAppends rfl
      (by decide +kernel)

end Kernel

end AlaniKernel
