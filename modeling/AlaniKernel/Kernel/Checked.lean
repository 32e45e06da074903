import AlaniKernel.Kernel.Api
import AlaniKernel.Memory.Checked
import AlaniKernel.Scheduler.Checked

/-!
# Syscalls in a build with overflow checks

Every syscall runs to its end in such a build but one: `sys_mem_query` adds up
the lengths of the usable regions, which the memory map does not bound.
-/

namespace AlaniKernel

open AlaniKernel.Foundation

def AuditLog.appendChecked (self : AuditLog) (event : AuditEvent) : Option AuditLog := do
  let ring ← self.pushChecked { event with sequence := self.nextSequence }
  return { ring with nextSequence := self.nextSequence + 1 }

theorem AuditLog.appendChecked_eq (self : AuditLog) (event : AuditEvent) :
    self.appendChecked event = some (self.append event) := by
  rw [appendChecked, Ring.pushChecked_eq _ (by decide)]
  rfl

def AuditLog.recordSyscallChecked (self : AuditLog) (kind : AuditEventKind)
    (taskId : TaskId) (syscall : SyscallNumber) (status : KernelStatus)
    (trace : TraceContext) (reason : String) : Option AuditLog :=
  self.appendChecked (syscallEvent kind taskId syscall status trace reason)

def FaultReporter.recordChecked (self : FaultReporter) (fault : FaultRecord) :
    Option FaultReporter := do
  let ring ← self.pushChecked { fault with sequence := self.nextSequence }
  return { ring with nextSequence := self.nextSequence + 1 }

theorem FaultReporter.recordChecked_eq (self : FaultReporter) (fault : FaultRecord) :
    self.recordChecked fault = some (self.record fault) := by
  rw [recordChecked, Ring.pushChecked_eq _ (by decide)]
  rfl

def FaultReporter.recordErrorChecked (self : FaultReporter) (kind : FaultKind)
    (severity : FaultSeverity) (taskId : TaskId) (error : KernelError)
    (phase : FaultPhase) (trace : TraceContext) : Option FaultReporter :=
  self.recordChecked (FaultRecord.fromError kind severity taskId 0 error phase trace)

namespace Kernel

/-! ## The handlers -/

def sysInfoChecked (self : Kernel) (frame : SyscallFrame) : Option SyscallResult := do
  let out := UserBuffer.new frame.arg0 frame.arg1 frame.arg2.toUInt32
  match ← self.memory.validateUserBufferChecked out .write with
  | .ok _ => return .ok alaniAbiVersion.packed sizeOfSyscallTableInfo
  | .error error => return .error error

def sysYieldChecked (self : Kernel) : Option (SyscallResult × Kernel) := do
  match ← self.scheduler.yieldCurrentChecked with
  | (.ok (some taskId), scheduler) => return (.ok taskId 0, { self with scheduler })
  | (.ok none, scheduler) => return (.ok 0 0, { self with scheduler })
  | (.error error, scheduler) => return (.error error, { self with scheduler })

def validateManifestChecked (self : Kernel) (frame : SyscallFrame) :
    Option (KernelResult Unit) :=
  if frame.arg1 ≠ 0 then do
    let manifest := UserBuffer.new frame.arg0 frame.arg1 userBufferRead
    match ← self.memory.validateUserBufferChecked manifest .read with
    | .error error => return .error error
    | .ok _ => return .ok ()
  else some (.ok ())

def sysTaskSpawnChecked (self : Kernel) (frame : SyscallFrame)
    (context : DispatchContext) : Option (SyscallResult × Kernel) := do
  match ← self.validateManifestChecked frame with
  | .error error => return (.error error, self)
  | .ok () =>
      if frame.arg3 ≤ 255 then
        let priority := frame.arg3.toUInt8
        let priority := if priority = 0 then defaultPriority else priority
        match self.scheduler.spawn context.taskId .runtime priority .empty
          .unlimited with
        | (.ok taskId, scheduler) => return (.ok taskId 0, { self with scheduler })
        | (.error error, scheduler) => return (.error error, { self with scheduler })
      else return (.error .invalidArgument, self)

def sysMemRangeChecked (self : Kernel) (frame : SyscallFrame) :
    Option SyscallResult := do
  match ← self.memory.validateUserRangeChecked frame.arg0 frame.arg1 with
  | .ok () => return .ok frame.arg0 frame.arg1
  | .error error => return .error error

def sysMemQueryChecked (self : Kernel) : Option SyscallResult := do
  let stats ← self.memory.statsChecked
  return .ok stats.usableBytes (UInt64.ofNat stats.regionCount)

def sysMemShareChecked (self : Kernel) (frame : SyscallFrame) (taskId : TaskId) :
    Option (SyscallResult × Kernel) :=
  match MemoryPermissions.fromBits frame.arg2.toUInt32 with
  | .error error => some (.error error, self)
  | .ok permissions => do
      match ← self.memory.shareRegionChecked taskId frame.arg0 frame.arg1
        permissions with
      | (.ok handle, memory) =>
          return (.ok handle.id handle.permissions.toUInt64, { self with memory })
      | (.error error, memory) => return (.error error, { self with memory })

def sysRandomChecked (self : Kernel) (frame : SyscallFrame) : Option SyscallResult := do
  let out := UserBuffer.new frame.arg0 frame.arg1 userBufferWrite
  match ← self.memory.validateUserBufferChecked out .write with
  | .ok buffer => return .ok 0 buffer.len
  | .error error => return .error error

/-- The other handlers add, subtract and index nothing. -/
def dispatchValidatedChecked (self : Kernel) (number : SyscallNumber)
    (frame : SyscallFrame) (context : DispatchContext) :
    Option (SyscallResult × Kernel) :=
  match number with
  | .sysInfo => (self.sysInfoChecked frame).map (·, self)
  | .sysYield => self.sysYieldChecked
  | .sysTaskSpawn => self.sysTaskSpawnChecked frame context
  | .sysMemMap | .sysMemUnmap => (self.sysMemRangeChecked frame).map (·, self)
  | .sysMemQuery => self.sysMemQueryChecked.map (·, self)
  | .sysMemShare => self.sysMemShareChecked frame context.taskId
  | .sysRandom => (self.sysRandomChecked frame).map (·, self)
  | _ => some (self.dispatchValidated number frame context)

/-! ## The records of a call -/

def auditRejectedChecked (audit : AuditLog) (frame : SyscallFrame)
    (context : DispatchContext) (error : KernelError) : Option AuditLog :=
  match SyscallDispatcher.lookup frame.number with
  | none => some audit
  | some descriptor =>
      match descriptor.auditEvent with
      | some kind =>
          audit.recordSyscallChecked kind context.taskId descriptor.number
            error.status frame.trace error.reason
      | none =>
          if error.status = .permissionDenied then
            audit.recordSyscallChecked .securityDecision context.taskId
              descriptor.number error.status frame.trace error.reason
          else some audit

def recordRejectedSyscallChecked (self : Kernel) (frame : SyscallFrame)
    (context : DispatchContext) (error : KernelError) : Option Kernel := do
  let kind : FaultKind :=
    match error with
    | .unknownSyscall => .invalidSyscall
    | .missingCapability | .permissionDenied => .capabilityDenied
    | _ => .invariantViolation
  let severity : FaultSeverity :=
    if error.status = .permissionDenied then .error else .warning
  let phase : FaultPhase :=
    if context.execution = .earlyBoot then .boot else .runtime
  let audit ← auditRejectedChecked self.audit frame context error
  let faults ←
    self.faults.recordErrorChecked kind severity context.taskId error phase frame.trace
  return { self with audit, faults }

def auditOutcomeChecked (audit : AuditLog) (descriptor : SyscallDescriptor)
    (frame : SyscallFrame) (context : DispatchContext) (result : SyscallResult) :
    Option AuditLog :=
  match descriptor.auditEvent with
  | none => some audit
  | some kind =>
      let reason := if result.status.isOk then "ok" else "syscall_failed"
      audit.recordSyscallChecked kind context.taskId descriptor.number result.status
        frame.trace reason

def reportOutcomeChecked (faults : FaultReporter) (frame : SyscallFrame)
    (context : DispatchContext) (result : SyscallResult) : Option FaultReporter :=
  if !result.status.isOk then
    faults.recordErrorChecked (faultKindForStatus result.status) .warning
      context.taskId (errorForStatus result.status) .runtime frame.trace
  else some faults

def handleSyscallChecked (self : Kernel) (frame : SyscallFrame)
    (context : DispatchContext) : Option (SyscallResult × Kernel) :=
  match SyscallDispatcher.validate frame context with
  | .error error => do
      let self ← self.recordRejectedSyscallChecked frame context error
      return (.error error, self)
  | .ok descriptor => do
      let (result, self) ←
        self.dispatchValidatedChecked descriptor.number frame context
      let audit ← auditOutcomeChecked self.audit descriptor frame context result
      let faults ← reportOutcomeChecked self.faults frame context result
      return (result, { self with audit, faults })

/-! ## What can stop a call -/

def usableLength (self : Kernel) : Nat :=
  ((self.memory.map.ofKind .usable).map fun region => region.len.toNat).sum

variable {self : Kernel}

theorem validateManifestChecked_eq (h : self.memory.Aligned) (frame : SyscallFrame) :
    self.validateManifestChecked frame = some (self.validateManifest frame) := by
  rw [validateManifestChecked, validateManifest]
  dsimp only
  rw [h.validateUserBufferChecked, Option.bind_eq_bind, Option.bind_some]
  split_ifs
  · cases self.memory.validateUserBuffer (.new frame.arg0 frame.arg1 userBufferRead)
      .read <;> rfl
  · rfl

theorem sysInfoChecked_eq (h : self.memory.Aligned) (frame : SyscallFrame) :
    self.sysInfoChecked frame = some (self.sysInfo frame) := by
  rw [sysInfoChecked, sysInfo, h.validateUserBufferChecked, Option.bind_eq_bind,
    Option.bind_some]
  cases self.memory.validateUserBuffer
    (.new frame.arg0 frame.arg1 frame.arg2.toUInt32) .write <;> rfl

theorem sysYieldChecked_eq : self.sysYieldChecked = some self.sysYield := by
  rw [sysYieldChecked, sysYield, Scheduler.yieldCurrentChecked_eq, Option.bind_eq_bind,
    Option.bind_some]
  generalize self.scheduler.yieldCurrent = outcome
  obtain ⟨result, scheduler⟩ := outcome
  cases result with
  | error error => rfl
  | ok selected => cases selected <;> rfl

theorem sysTaskSpawnChecked_eq (h : self.memory.Aligned) (frame : SyscallFrame)
    (context : DispatchContext) :
    self.sysTaskSpawnChecked frame context = some (self.sysTaskSpawn frame context) := by
  rw [sysTaskSpawnChecked, sysTaskSpawn, validateManifestChecked_eq h,
    Option.bind_eq_bind, Option.bind_some]
  cases self.validateManifest frame with
  | error error => rfl
  | ok =>
      dsimp only
      generalize (if frame.arg3.toUInt8 = 0 then defaultPriority
        else frame.arg3.toUInt8) = priority
      generalize self.scheduler.spawn context.taskId .runtime priority .empty
        .unlimited = outcome
      obtain ⟨result, scheduler⟩ := outcome
      split_ifs
      · cases result <;> rfl
      · rfl

theorem sysMemRangeChecked_eq (h : self.memory.Aligned) (frame : SyscallFrame) :
    self.sysMemRangeChecked frame = some (self.sysMemRange frame) := by
  rw [sysMemRangeChecked, sysMemRange, h.validateUserRangeChecked, Option.bind_eq_bind,
    Option.bind_some]
  cases self.memory.validateUserRange frame.arg0 frame.arg1 <;> rfl

theorem sysMemQueryChecked_eq :
    self.sysMemQueryChecked =
      if self.usableLength < 2 ^ 64 then some self.sysMemQuery else none := by
  rw [sysMemQueryChecked, MemoryManager.statsChecked_eq, usableLength]
  split_ifs <;> rfl

theorem sysMemShareChecked_eq (h : self.memory.Aligned) (frame : SyscallFrame)
    (taskId : TaskId) :
    self.sysMemShareChecked frame taskId = some (self.sysMemShare frame taskId) := by
  rw [sysMemShareChecked, sysMemShare]
  cases MemoryPermissions.fromBits frame.arg2.toUInt32 with
  | error error => rfl
  | ok permissions =>
      dsimp only
      rw [h.shareRegionChecked, Option.bind_eq_bind, Option.bind_some]
      generalize self.memory.shareRegion taskId frame.arg0 frame.arg1 permissions =
        outcome
      obtain ⟨result, memory⟩ := outcome
      cases result <;> rfl

theorem sysRandomChecked_eq (h : self.memory.Aligned) (frame : SyscallFrame) :
    self.sysRandomChecked frame = some (self.sysRandom frame) := by
  rw [sysRandomChecked, sysRandom, h.validateUserBufferChecked, Option.bind_eq_bind,
    Option.bind_some]
  cases self.memory.validateUserBuffer (.new frame.arg0 frame.arg1 userBufferWrite)
    .write <;> rfl

theorem dispatchValidatedChecked_eq (h : self.memory.Aligned) (number : SyscallNumber)
    (frame : SyscallFrame) (context : DispatchContext) :
    self.dispatchValidatedChecked number frame context =
      if number = .sysMemQuery ∧ 2 ^ 64 ≤ self.usableLength then none
      else some (self.dispatchValidated number frame context) := by
  by_cases hquery : number = .sysMemQuery
  · subst hquery
    rw [dispatchValidatedChecked, sysMemQueryChecked_eq]
    by_cases hfits : self.usableLength < 2 ^ 64
    · rw [if_pos hfits, if_neg (by omega)]
      rfl
    · rw [if_neg hfits, if_pos ⟨rfl, by omega⟩]
      rfl
  · rw [if_neg fun hstops => hquery hstops.1]
    cases number with
    | sysMemQuery => exact absurd rfl hquery
    | sysInfo => rw [dispatchValidatedChecked, sysInfoChecked_eq h]; rfl
    | sysYield => exact sysYieldChecked_eq
    | sysTaskSpawn => exact sysTaskSpawnChecked_eq h frame context
    | sysMemMap => rw [dispatchValidatedChecked, sysMemRangeChecked_eq h]; rfl
    | sysMemUnmap => rw [dispatchValidatedChecked, sysMemRangeChecked_eq h]; rfl
    | sysMemShare => exact sysMemShareChecked_eq h frame context.taskId
    | sysRandom => rw [dispatchValidatedChecked, sysRandomChecked_eq h]; rfl
    | sysExit | sysTime | sysTraceContext | sysTaskJoin | sysTaskCancel
    | sysTaskStatus | sysMemSeal | sysDeviceList | sysDeviceOpen | sysDeviceCall
    | sysDeviceClose | sysModelList | sysModelOpen | sysInfer | sysMemoryQuery
    | sysMemoryPut | sysCapDerive | sysCapRevoke | sysAttest | sysAuditAppend
    | sysAuditQuery | sysAuditVerify => rfl

theorem recordRejectedSyscallChecked_eq (self : Kernel) (frame : SyscallFrame)
    (context : DispatchContext) (error : KernelError) :
    self.recordRejectedSyscallChecked frame context error =
      some (self.recordRejectedSyscall frame context error) := by
  have haudit : auditRejectedChecked self.audit frame context error =
      some (auditRejected self.audit frame context error) := by
    unfold auditRejectedChecked auditRejected
    cases SyscallDispatcher.lookup frame.number with
    | none => rfl
    | some descriptor =>
        dsimp only
        cases descriptor.auditEvent with
        | some kind => exact AuditLog.appendChecked_eq _ _
        | none =>
            dsimp only
            split_ifs
            · exact AuditLog.appendChecked_eq _ _
            · rfl
  unfold recordRejectedSyscallChecked
  dsimp only
  rw [haudit, Option.bind_eq_bind, Option.bind_some, FaultReporter.recordErrorChecked,
    FaultReporter.recordChecked_eq]
  rfl

theorem auditOutcomeChecked_eq (audit : AuditLog) (descriptor : SyscallDescriptor)
    (frame : SyscallFrame) (context : DispatchContext) (result : SyscallResult) :
    auditOutcomeChecked audit descriptor frame context result =
      some (auditOutcome audit descriptor frame context result) := by
  unfold auditOutcomeChecked auditOutcome
  cases descriptor.auditEvent with
  | none => rfl
  | some kind => exact AuditLog.appendChecked_eq _ _

theorem reportOutcomeChecked_eq (faults : FaultReporter) (frame : SyscallFrame)
    (context : DispatchContext) (result : SyscallResult) :
    reportOutcomeChecked faults frame context result =
      some (reportOutcome faults frame context result) := by
  unfold reportOutcomeChecked reportOutcome
  split_ifs
  · exact FaultReporter.recordChecked_eq _ _
  · rfl

/-- A memory query in task context, on a map whose usable lengths sum too high. -/
def Overflows (self : Kernel) (frame : SyscallFrame) (context : DispatchContext) : Prop :=
  frame.number = SyscallNumber.sysMemQuery.toUInt64 ∧ context.execution = .task ∧
    2 ^ 64 ≤ self.usableLength

instance (self : Kernel) (frame : SyscallFrame) (context : DispatchContext) :
    Decidable (self.Overflows frame context) :=
  inferInstanceAs (Decidable (_ ∧ _))

theorem accepted_memQuery_iff {frame : SyscallFrame} {context : DispatchContext} :
    SyscallDispatcher.accepted frame context = some .sysMemQuery ↔
      frame.number = SyscallNumber.sysMemQuery.toUInt64 ∧ context.execution = .task := by
  obtain ⟨row, hlookup, hnumber, hopen, hboot, hinterrupt⟩ :
      ∃ row, SyscallDispatcher.lookup SyscallNumber.sysMemQuery.toUInt64 = some row ∧
        row.number = .sysMemQuery ∧ row.requiredCapability = none ∧
        row.earlyBootSafe = false ∧ row.interruptSafe = false :=
    ⟨_, rfl, rfl, rfl, rfl, rfl⟩
  rw [← hnumber] at hlookup ⊢
  rw [SyscallDispatcher.accepted_iff hlookup, hopen]
  cases context.execution <;>
    simp [SyscallDescriptor.allowsContext, hboot, hinterrupt]

theorem handleSyscallChecked_eq (h : self.memory.Aligned) (frame : SyscallFrame)
    (context : DispatchContext) :
    self.handleSyscallChecked frame context =
      if self.Overflows frame context then none
      else some (self.handleSyscall frame context) := by
  unfold handleSyscallChecked handleSyscall
  cases hvalid : SyscallDispatcher.validate frame context with
  | error error =>
      have hnone := SyscallDispatcher.accepted_of_error hvalid
      have hsafe : ¬ self.Overflows frame context := by
        rintro ⟨hnumber, htask, -⟩
        rw [accepted_memQuery_iff.mpr ⟨hnumber, htask⟩] at hnone
        contradiction
      rw [if_neg hsafe]
      dsimp only
      rw [recordRejectedSyscallChecked_eq]
      rfl
  | ok descriptor =>
      have hsome := SyscallDispatcher.accepted_of_ok hvalid
      have hquery : descriptor.number = .sysMemQuery ∧ 2 ^ 64 ≤ self.usableLength ↔
          self.Overflows frame context := by
        rw [Overflows, ← and_assoc, ← accepted_memQuery_iff, hsome, Option.some.injEq]
      dsimp only
      rw [dispatchValidatedChecked_eq h]
      by_cases hstops : self.Overflows frame context
      · rw [if_pos hstops, if_pos (hquery.mpr hstops)]
        rfl
      · rw [if_neg hstops, if_neg (hquery.not.mpr hstops), Option.bind_eq_bind,
          Option.bind_some]
        generalize self.dispatchValidated descriptor.number frame context = outcome
        obtain ⟨result, next⟩ := outcome
        dsimp only
        rw [auditOutcomeChecked_eq, reportOutcomeChecked_eq]
        rfl

theorem aligned_run (ops : List KernelOp) : (run apply new ops).memory.Aligned :=
  memory_run MemoryManager.aligned_new (fun _ op h => h.step op) (fun _ h => h)
    (fun _ _ _ h => h)

/--
In a kernel that any run of the public interface reaches, a syscall stops a
build with overflow checks exactly if it is a memory query in task context and
the usable lengths of the map sum to `2 ^ 64` or more.  Every other syscall
does there what it does without the checks.
-/
theorem handleSyscall_safe_iff (ops : List KernelOp) (frame : SyscallFrame)
    (context : DispatchContext) :
    ((run apply new ops).handleSyscallChecked frame context =
        some ((run apply new ops).handleSyscall frame context) ↔
      ¬ (run apply new ops).Overflows frame context) ∧
    ((run apply new ops).handleSyscallChecked frame context = none ↔
      (run apply new ops).Overflows frame context) := by
  rw [handleSyscallChecked_eq (aligned_run ops)]
  by_cases hstops : (run apply new ops).Overflows frame context
  · simp [hstops]
  · simp [hstops]

def topRegion : MemoryRegion :=
  { start := 0xFFFFFFFFFFFFFFFF, len := 0xFFFFFFFFFFFFFFFF, kind := .usable
    permissions := .read }

def wideRegion : MemoryRegion :=
  { start := 0, len := 0xFFFFFFFFFFFFFFFE, kind := .usable, permissions := .read }

/-- Neither push overflows, and the query that follows them does. -/
theorem memQuery_stops_overlong :
    topRegion.overlapsChecked wideRegion = some false ∧
      (history apply new [.pushRegion topRegion, .pushRegion wideRegion]).map Prod.snd =
        [.ok .done, .ok .done] ∧
      (run apply new [.pushRegion topRegion,
          .pushRegion wideRegion]).handleSyscallChecked
        (.new .sysMemQuery #v[0, 0, 0, 0, 0, 0]) (.task 1 .empty) = none := by
  refine ⟨by decide, by decide +kernel, ?_⟩
  rw [handleSyscallChecked_eq (aligned_run _), if_pos]
  decide +kernel

theorem handleSyscall_safe_of_valid {ops : List KernelOp}
    (h : ∀ region, KernelOp.pushRegion region ∈ ops → region.Valid)
    (frame : SyscallFrame) (context : DispatchContext) :
    ¬ (run apply new ops).Overflows frame context := by
  have hmap : (run apply new ops).memory.map.WellFormed :=
    memory_run (I := fun memory : MemoryManager => memory.map.WellFormed)
      MemoryMap.wellFormed_new
      (fun memory op hmemory => by rwa [(memory.settings_step op).1])
      (fun _ _ => MemoryMap.wellFormed_new)
      (fun region hregion _ hmemory => hmemory.push (h region hregion))
  rintro ⟨-, -, hover⟩
  exact absurd (hmap.total_ofKind_lt .usable) (not_lt.mpr hover)

end Kernel

end AlaniKernel
