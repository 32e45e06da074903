import AlaniKernel.Kernel
import AlaniKernel.Memory.Sharing
import AlaniKernel.Scheduler.Aging

/-!
# What a syscall can do

A syscall that passes validation executes at most one operation of the
scheduler or of the memory manager and leaves the other subsystems alone.
-/

namespace AlaniKernel

open AlaniKernel.Foundation

/-! ## The syscall table -/

namespace SyscallDispatcher

theorem lookup_some {raw : UInt64} {descriptor : SyscallDescriptor}
    (h : lookup raw = some descriptor) :
    raw = descriptor.number.toUInt64 ∧ descriptor ∈ syscallDescriptors := by
  unfold lookup at h
  cases hnumber : SyscallNumber.fromRaw raw with
  | none => simp [hnumber] at h
  | some number =>
      simp only [hnumber] at h
      have hfound := List.find?_some h
      rw [beq_iff_eq] at hfound
      rw [hfound]
      exact ⟨SyscallNumber.fromRaw_eq_some_iff.mp hnumber, List.mem_of_find?_eq_some h⟩

theorem lookup_toUInt64 (number : SyscallNumber) :
    ∃ descriptor, lookup number.toUInt64 = some descriptor ∧
      descriptor.number = number := by
  cases number <;> exact ⟨_, rfl, rfl⟩

theorem validate_ok_iff {frame : SyscallFrame} {context : DispatchContext}
    {descriptor : SyscallDescriptor} :
    validate frame context = .ok descriptor ↔
      lookup frame.number = some descriptor ∧
        descriptor.allowsContext context.execution = true ∧
        ∀ required, descriptor.requiredCapability = some required →
          context.capabilities.contains required = true := by
  unfold validate
  cases hlookup : lookup frame.number with
  | none => simp
  | some row =>
      by_cases hcontext : row.allowsContext context.execution = true
      · cases hrequired : row.requiredCapability with
        | none =>
            simp only [hcontext, hrequired, Bool.not_true, Bool.false_eq_true,
              if_false, Except.ok.injEq, Option.some.injEq]
            constructor
            · rintro rfl
              simp [hcontext, hrequired]
            · exact fun h => h.1
        | some required =>
            by_cases hheld : context.capabilities.contains required = true
            · simp only [hcontext, hrequired, CapabilitySet.require, hheld,
                Bool.not_true, Bool.false_eq_true, if_false, if_true,
                Except.ok.injEq, Option.some.injEq]
              constructor
              · rintro rfl
                simp [hcontext, hrequired, hheld]
              · exact fun h => h.1
            · simp only [hcontext, hrequired, CapabilitySet.require, hheld,
                Bool.not_true, Bool.false_eq_true, if_false, reduceCtorEq,
                Option.some.injEq, false_iff, not_and]
              rintro rfl - hall
              exact hheld (hall required hrequired)
      · simp only [hcontext, Bool.not_false, if_true, reduceCtorEq,
          Option.some.injEq, false_iff, not_and]
        rintro rfl h
        exact absurd h hcontext

theorem validate_error {frame : SyscallFrame} {context : DispatchContext}
    {error : KernelError} (h : validate frame context = .error error) :
    error = .unknownSyscall ∧ lookup frame.number = none ∨
      ∃ descriptor, lookup frame.number = some descriptor ∧
        (error = .busy ∨ error = .missingCapability) := by
  unfold validate at h
  cases hlookup : lookup frame.number with
  | none =>
      simp only [hlookup, Except.error.injEq] at h
      exact .inl ⟨h.symm, rfl⟩
  | some row =>
      refine .inr ⟨row, rfl, ?_⟩
      simp only [hlookup] at h
      split at h
      · cases h
        exact .inl rfl
      · cases hrequired : row.requiredCapability with
        | none => simp [hrequired] at h
        | some required =>
            simp only [hrequired, CapabilitySet.require] at h
            by_cases hheld : context.capabilities.contains required = true
            · simp [hheld] at h
            · simp only [hheld, Bool.false_eq_true, if_false, Except.error.injEq] at h
              exact .inr h.symm

def accepted (frame : SyscallFrame) (context : DispatchContext) :
    Option SyscallNumber :=
  match validate frame context with
  | .ok descriptor => some descriptor.number
  | .error _ => none

theorem accepted_of_ok {frame : SyscallFrame} {context : DispatchContext}
    {descriptor : SyscallDescriptor} (h : validate frame context = .ok descriptor) :
    accepted frame context = some descriptor.number := by
  simp [accepted, h]

theorem accepted_of_error {frame : SyscallFrame} {context : DispatchContext}
    {error : KernelError} (h : validate frame context = .error error) :
    accepted frame context = none := by
  simp [accepted, h]

theorem accepted_number {frame : SyscallFrame} {context : DispatchContext}
    {number : SyscallNumber} (h : accepted frame context = some number) :
    frame.number = number.toUInt64 := by
  cases hvalid : validate frame context with
  | error error =>
      rw [accepted_of_error hvalid] at h
      contradiction
  | ok descriptor =>
      rw [accepted_of_ok hvalid, Option.some.injEq] at h
      subst h
      exact (lookup_some (validate_ok_iff.mp hvalid).1).1

theorem accepted_iff {frame : SyscallFrame} {context : DispatchContext}
    {descriptor : SyscallDescriptor}
    (hrow : lookup descriptor.number.toUInt64 = some descriptor) :
    accepted frame context = some descriptor.number ↔
      frame.number = descriptor.number.toUInt64 ∧
        descriptor.allowsContext context.execution = true ∧
        ∀ required, descriptor.requiredCapability = some required →
          context.capabilities.contains required = true := by
  constructor
  · intro h
    have hnumber := accepted_number h
    cases hvalid : validate frame context with
    | error error =>
        rw [accepted_of_error hvalid] at h
        contradiction
    | ok found =>
        obtain ⟨hlookup, hrest⟩ := validate_ok_iff.mp hvalid
        rw [hnumber, hrow, Option.some.injEq] at hlookup
        subst hlookup
        exact ⟨hnumber, hrest⟩
  · rintro ⟨hnumber, hrest⟩
    refine accepted_of_ok (validate_ok_iff.mpr ⟨?_, hrest⟩)
    rw [hnumber, hrow]

/-- The row of a syscall that task context alone may call, under one capability. -/
def Guarded (number : SyscallNumber) (capability : Capability) : Prop :=
  ∃ descriptor, lookup number.toUInt64 = some descriptor ∧
    descriptor.number = number ∧
    descriptor.requiredCapability = some capability ∧
    descriptor.earlyBootSafe = false ∧ descriptor.interruptSafe = false

theorem guarded_taskSpawn : Guarded .sysTaskSpawn .taskSpawn :=
  ⟨_, rfl, rfl, rfl, rfl, rfl⟩

theorem guarded_taskCancel : Guarded .sysTaskCancel .taskManage :=
  ⟨_, rfl, rfl, rfl, rfl, rfl⟩

theorem guarded_memShare : Guarded .sysMemShare .memoryShare :=
  ⟨_, rfl, rfl, rfl, rfl, rfl⟩

theorem guarded_memSeal : Guarded .sysMemSeal .memoryShare :=
  ⟨_, rfl, rfl, rfl, rfl, rfl⟩

theorem guarded_deviceOpen : Guarded .sysDeviceOpen .deviceOpen :=
  ⟨_, rfl, rfl, rfl, rfl, rfl⟩

theorem guarded_deviceCall : Guarded .sysDeviceCall .deviceCall :=
  ⟨_, rfl, rfl, rfl, rfl, rfl⟩

theorem Guarded.accepted_iff {number : SyscallNumber} {capability : Capability}
    (h : Guarded number capability) {frame : SyscallFrame}
    {context : DispatchContext} :
    accepted frame context = some number ↔
      frame.number = number.toUInt64 ∧ context.execution = .task ∧
        context.capabilities.contains capability = true := by
  obtain ⟨descriptor, hrow, rfl, hcapability, hboot, hinterrupt⟩ := h
  rw [SyscallDispatcher.accepted_iff hrow, hcapability]
  simp only [Option.some.injEq, forall_eq']
  cases context.execution <;>
    simp [SyscallDescriptor.allowsContext, hboot, hinterrupt]

/-- Only three reads are open to early boot and to interrupts. -/
theorem accepted_task {frame : SyscallFrame} {context : DispatchContext}
    {number : SyscallNumber} (h : accepted frame context = some number)
    (hnumber : number ∉ [.sysInfo, .sysTime, .sysTraceContext]) :
    context.execution = .task := by
  have htable : ∀ descriptor ∈ syscallDescriptors,
      descriptor.number ∉ [.sysInfo, .sysTime, .sysTraceContext] →
      descriptor.earlyBootSafe = false ∧ descriptor.interruptSafe = false := by
    decide
  cases hvalid : validate frame context with
  | error error =>
      rw [accepted_of_error hvalid] at h
      contradiction
  | ok descriptor =>
      rw [accepted_of_ok hvalid, Option.some.injEq] at h
      subst h
      obtain ⟨hlookup, hcontext, -⟩ := validate_ok_iff.mp hvalid
      obtain ⟨hboot, hinterrupt⟩ := htable descriptor (lookup_some hlookup).2 hnumber
      cases hexecution : context.execution with
      | task => rfl
      | earlyBoot => simp [SyscallDescriptor.allowsContext, hexecution, hboot] at hcontext
      | interrupt =>
          simp [SyscallDescriptor.allowsContext, hexecution, hinterrupt] at hcontext

theorem accepted_of_number {frame : SyscallFrame} {context : DispatchContext}
    {number named : SyscallNumber} (hnamed : frame.number = named.toUInt64)
    (h : accepted frame context = some number) : number = named := by
  have hnumber := accepted_number h
  rw [hnamed] at hnumber
  have hfound := SyscallNumber.fromRaw_eq_some_iff.mpr hnumber
  rw [SyscallNumber.fromRaw_eq_some_iff.mpr rfl, Option.some.injEq] at hfound
  exact hfound.symm

theorem validate_sysInfo {frame : SyscallFrame}
    (h : frame.number = SyscallNumber.sysInfo.toUInt64) (context : DispatchContext) :
    ∃ descriptor, validate frame context = .ok descriptor ∧
      descriptor.number = .sysInfo ∧ descriptor.auditEvent = none := by
  obtain ⟨descriptor, hrow, hnumber⟩ := lookup_toUInt64 .sysInfo
  have hopen : descriptor.allowsContext context.execution = true ∧
      descriptor.requiredCapability = none ∧ descriptor.auditEvent = none := by
    cases hrow
    refine ⟨?_, rfl, rfl⟩
    cases context.execution <;> rfl
  refine ⟨descriptor, ?_, hnumber, hopen.2.2⟩
  rw [validate_ok_iff, h]
  refine ⟨hrow, hopen.1, fun required hrequired => ?_⟩
  rw [hopen.2.1] at hrequired
  contradiction

theorem accepted_sysInfo {frame : SyscallFrame}
    (h : frame.number = SyscallNumber.sysInfo.toUInt64) (context : DispatchContext) :
    accepted frame context = some .sysInfo := by
  obtain ⟨descriptor, hvalid, hnumber, -⟩ := validate_sysInfo h context
  rw [accepted_of_ok hvalid, hnumber]

end SyscallDispatcher

/-! ## The operations behind the handlers -/

namespace Kernel

def schedulerCall (self : Kernel) (frame : SyscallFrame)
    (context : DispatchContext) : SyscallNumber → Option SchedulerOp
  | .sysYield => some .yieldCurrent
  | .sysExit => some (.cancel context.taskId)
  | .sysTaskSpawn =>
      if (self.validateManifest frame).isOk = true ∧ frame.arg3 ≤ 255 then
        some (.spawn context.taskId .runtime
          (if frame.arg3.toUInt8 = 0 then defaultPriority
            else frame.arg3.toUInt8) .empty .unlimited)
      else none
  | .sysTaskCancel => some (.cancel frame.arg0)
  | _ => none

def sealHandle (frame : SyscallFrame) (context : DispatchContext) :
    SharedMemoryHandle :=
  { id := frame.arg0, ownerTask := context.taskId, permissions := 0 }

def memoryCall (frame : SyscallFrame) (context : DispatchContext) :
    SyscallNumber → Option MemoryOp
  | .sysMemShare =>
      match MemoryPermissions.fromBits frame.arg2.toUInt32 with
      | .error _ => none
      | .ok permissions =>
          some (.shareRegion context.taskId frame.arg0 frame.arg1 permissions)
  | .sysMemSeal => some (.sealSharedRegion (sealHandle frame context))
  | _ => none

/-- A handler leaves behind what its operation leaves behind. -/
structure Executes (kernel : Kernel) (schedulerOp : Option SchedulerOp)
    (memoryOp : Option MemoryOp) (outcome : SyscallResult × Kernel) : Prop where
  kernel_eq : outcome.2 =
    { kernel with
      scheduler :=
        schedulerOp.elim kernel.scheduler fun op => (kernel.scheduler.step op).2
      memory := memoryOp.elim kernel.memory fun op => (kernel.memory.step op).2 }
  scheduler_ok : ∀ op, schedulerOp = some op →
    (outcome.1.status = .ok ↔ (kernel.scheduler.step op).1.isOk = true)
  memory_ok : ∀ op, memoryOp = some op →
    (outcome.1.status = .ok ↔ (kernel.memory.step op).1.isOk = true)

theorem executes_none (self : Kernel) (result : SyscallResult) :
    self.Executes none none (result, self) :=
  ⟨rfl, by simp, by simp⟩

theorem executes_scheduler {self : Kernel} {op : SchedulerOp}
    {reply : KernelResult SchedulerReply} {scheduler : Scheduler}
    {result : SyscallResult} (hstep : self.scheduler.step op = (reply, scheduler))
    (hstatus : result.status = .ok ↔ reply.isOk = true) :
    self.Executes (some op) none (result, { self with scheduler }) := by
  refine ⟨?_, fun op' hop => ?_, by simp⟩
  · simp [hstep]
  · cases hop
    rw [hstep]
    exact hstatus

theorem executes_memory {self : Kernel} {op : MemoryOp}
    {reply : KernelResult MemoryReply} {memory : MemoryManager}
    {result : SyscallResult} (hstep : self.memory.step op = (reply, memory))
    (hstatus : result.status = .ok ↔ reply.isOk = true) :
    self.Executes none (some op) (result, { self with memory }) := by
  refine ⟨?_, by simp, fun op' hop => ?_⟩
  · simp [hstep]
  · cases hop
    rw [hstep]
    exact hstatus

theorem isOk_ok_iff (value detail : UInt64) {α : Type} (reply : α) :
    (SyscallResult.ok value detail).status = .ok ↔
      (Except.ok reply : KernelResult α).isOk = true :=
  iff_of_true rfl rfl

theorem isOk_error_iff {α : Type} (error : KernelError) :
    (SyscallResult.error error).status = .ok ↔
      (Except.error error : KernelResult α).isOk = true :=
  iff_of_false (KernelError.status_ne_ok error) Bool.false_ne_true

theorem executes_yield (self : Kernel) :
    self.Executes (some .yieldCurrent) none self.sysYield := by
  have hstep : self.scheduler.step .yieldCurrent =
      (self.scheduler.yieldCurrent.1.map .selected, self.scheduler.yieldCurrent.2) := rfl
  unfold sysYield
  generalize self.scheduler.yieldCurrent = outcome at hstep
  obtain ⟨reply, scheduler⟩ := outcome
  cases reply with
  | error error => exact executes_scheduler hstep (isOk_error_iff error)
  | ok selected =>
      cases selected with
      | none => exact executes_scheduler hstep (isOk_ok_iff 0 0 _)
      | some taskId => exact executes_scheduler hstep (isOk_ok_iff taskId 0 _)

theorem executes_exit (self : Kernel) (taskId : TaskId) :
    self.Executes (some (.cancel taskId)) none (self.sysExit taskId) := by
  have hstep : self.scheduler.step (.cancel taskId) =
      ((self.scheduler.cancel taskId).1.map .moved,
        (self.scheduler.cancel taskId).2) := rfl
  unfold sysExit
  generalize self.scheduler.cancel taskId = outcome at hstep
  obtain ⟨reply, scheduler⟩ := outcome
  cases reply with
  | error error => exact executes_scheduler hstep (isOk_error_iff error)
  | ok record => exact executes_scheduler hstep (isOk_ok_iff taskId 0 _)

theorem executes_taskSpawn (self : Kernel) (frame : SyscallFrame)
    (context : DispatchContext) :
    self.Executes (self.schedulerCall frame context .sysTaskSpawn) none
      (self.sysTaskSpawn frame context) := by
  unfold sysTaskSpawn schedulerCall
  cases hmanifest : self.validateManifest frame with
  | error error =>
      rw [if_neg (by simp [Except.isOk, Except.toBool])]
      exact executes_none self _
  | ok =>
      by_cases hpriority : frame.arg3 ≤ 255
      · simp only [hpriority, if_true, and_true]
        rw [if_pos (by simp [Except.isOk, Except.toBool])]
        generalize (if frame.arg3.toUInt8 = 0 then defaultPriority
          else frame.arg3.toUInt8) = priority
        have hstep : self.scheduler.step
            (.spawn context.taskId .runtime priority .empty .unlimited) =
              ((self.scheduler.spawn context.taskId .runtime priority .empty
                  .unlimited).1.map .spawned,
                (self.scheduler.spawn context.taskId .runtime priority .empty
                  .unlimited).2) := rfl
        generalize self.scheduler.spawn context.taskId .runtime priority .empty
          .unlimited = outcome at hstep
        obtain ⟨reply, scheduler⟩ := outcome
        cases reply with
        | error error => exact executes_scheduler hstep (isOk_error_iff error)
        | ok taskId => exact executes_scheduler hstep (isOk_ok_iff taskId 0 _)
      · simp only [hpriority, if_false, and_false]
        exact executes_none self _

theorem executes_memShare (self : Kernel) (frame : SyscallFrame)
    (context : DispatchContext) :
    self.Executes none (memoryCall frame context .sysMemShare)
      (self.sysMemShare frame context.taskId) := by
  unfold sysMemShare memoryCall
  cases hbits : MemoryPermissions.fromBits frame.arg2.toUInt32 with
  | error error => exact executes_none self _
  | ok permissions =>
      have hstep : self.memory.step
          (.shareRegion context.taskId frame.arg0 frame.arg1 permissions) =
            ((self.memory.shareRegion context.taskId frame.arg0 frame.arg1
                permissions).1.map .shared,
              (self.memory.shareRegion context.taskId frame.arg0 frame.arg1
                permissions).2) := rfl
      dsimp only
      generalize self.memory.shareRegion context.taskId frame.arg0 frame.arg1
        permissions = outcome at hstep
      obtain ⟨reply, memory⟩ := outcome
      cases reply with
      | error error => exact executes_memory hstep (isOk_error_iff error)
      | ok handle => exact executes_memory hstep (isOk_ok_iff handle.id _ _)

theorem executes_memSeal (self : Kernel) (frame : SyscallFrame)
    (context : DispatchContext) :
    self.Executes none (memoryCall frame context .sysMemSeal)
      (self.sysMemSeal frame context.taskId) := by
  have hstep : self.memory.step (.sealSharedRegion (sealHandle frame context)) =
      ((self.memory.sealSharedRegion (sealHandle frame context)).1.map fun _ => .done,
        (self.memory.sealSharedRegion (sealHandle frame context)).2) := rfl
  have hhandle : sealHandle frame context =
      { id := frame.arg0, ownerTask := context.taskId, permissions := 0 } := rfl
  unfold sysMemSeal memoryCall
  rw [← hhandle]
  dsimp only
  generalize self.memory.sealSharedRegion (sealHandle frame context) = outcome at hstep ⊢
  obtain ⟨reply, memory⟩ := outcome
  cases reply with
  | error error => exact executes_memory hstep (isOk_error_iff error)
  | ok => exact executes_memory hstep (isOk_ok_iff frame.arg0 0 _)

theorem executes_dispatchValidated (self : Kernel) (number : SyscallNumber)
    (frame : SyscallFrame) (context : DispatchContext) :
    self.Executes (self.schedulerCall frame context number)
      (memoryCall frame context number)
      (self.dispatchValidated number frame context) := by
  cases number with
  | sysYield => exact executes_yield self
  | sysExit => exact executes_exit self context.taskId
  | sysTaskSpawn => exact executes_taskSpawn self frame context
  | sysTaskCancel => exact executes_exit self frame.arg0
  | sysMemShare => exact executes_memShare self frame context
  | sysMemSeal => exact executes_memSeal self frame context
  | sysInfo | sysTime | sysTraceContext | sysTaskJoin | sysTaskStatus | sysMemMap
  | sysMemUnmap | sysMemQuery | sysDeviceList | sysDeviceOpen | sysDeviceCall
  | sysDeviceClose | sysModelList | sysModelOpen | sysInfer | sysMemoryQuery
  | sysMemoryPut | sysCapDerive | sysCapRevoke | sysAttest | sysRandom
  | sysAuditAppend | sysAuditQuery | sysAuditVerify => exact executes_none self _

/-! ## One call of the kernel -/

theorem handleSyscall_of_rejected {self : Kernel} {frame : SyscallFrame}
    {context : DispatchContext} {error : KernelError}
    (h : SyscallDispatcher.validate frame context = .error error) :
    self.handleSyscall frame context =
      (.error error, self.recordRejectedSyscall frame context error) := by
  simp only [handleSyscall, h]

/-- Handlers write no records, so those of a validated call follow the kernel's own. -/
theorem handleSyscall_of_validated {self : Kernel} {frame : SyscallFrame}
    {context : DispatchContext} {descriptor : SyscallDescriptor}
    (h : SyscallDispatcher.validate frame context = .ok descriptor) :
    self.handleSyscall frame context =
      ((self.dispatchValidated descriptor.number frame context).1,
        { (self.dispatchValidated descriptor.number frame context).2 with
          audit := auditOutcome self.audit descriptor frame context
            (self.dispatchValidated descriptor.number frame context).1
          faults := reportOutcome self.faults frame context
            (self.dispatchValidated descriptor.number frame context).1 }) := by
  have hkernel :=
    (executes_dispatchValidated self descriptor.number frame context).kernel_eq
  have haudit : (self.dispatchValidated descriptor.number frame context).2.audit =
      self.audit := by rw [hkernel]
  have hfaults : (self.dispatchValidated descriptor.number frame context).2.faults =
      self.faults := by rw [hkernel]
  simp only [handleSyscall, h, haudit, hfaults]

structure SyscallCall where
  frame : SyscallFrame
  context : DispatchContext

def SyscallCall.accepted (call : SyscallCall) : Option SyscallNumber :=
  SyscallDispatcher.accepted call.frame call.context

def step (self : Kernel) (call : SyscallCall) : SyscallResult × Kernel :=
  self.handleSyscall call.frame call.context

def schedulerOp (self : Kernel) (call : SyscallCall) : Option SchedulerOp :=
  call.accepted.bind (self.schedulerCall call.frame call.context)

def memoryOp (call : SyscallCall) : Option MemoryOp :=
  call.accepted.bind (memoryCall call.frame call.context)

def SyscallCall.Wields (call : SyscallCall) (capability : Capability) : Prop :=
  call.context.execution = .task ∧
    call.context.capabilities.contains capability = true

theorem schedulerOp_cases {self : Kernel} {call : SyscallCall} {op : SchedulerOp}
    (h : self.schedulerOp call = some op) :
    call.context.execution = .task ∧
      (op = .yieldCurrent ∨
        call.frame.number = SyscallNumber.sysExit.toUInt64 ∧
          op = .cancel call.context.taskId ∨
        call.frame.number = SyscallNumber.sysTaskSpawn.toUInt64 ∧
          call.Wields .taskSpawn ∧
          (self.validateManifest call.frame).isOk = true ∧
          call.frame.arg3 ≤ 255 ∧
          (∃ priority, op = .spawn call.context.taskId .runtime priority .empty
            .unlimited) ∨
        call.frame.number = SyscallNumber.sysTaskCancel.toUInt64 ∧
          call.Wields .taskManage ∧ op = .cancel call.frame.arg0) := by
  cases haccepted : call.accepted with
  | none => simp [schedulerOp, haccepted] at h
  | some number =>
      simp only [schedulerOp, haccepted, Option.bind_some] at h
      cases number with
      | sysYield =>
          cases h
          exact ⟨SyscallDispatcher.accepted_task haccepted (by decide), .inl rfl⟩
      | sysExit =>
          cases h
          exact ⟨SyscallDispatcher.accepted_task haccepted (by decide),
            .inr (.inl ⟨SyscallDispatcher.accepted_number haccepted, rfl⟩)⟩
      | sysTaskSpawn =>
          obtain ⟨hnumber, hwields⟩ :=
            SyscallDispatcher.guarded_taskSpawn.accepted_iff.mp haccepted
          simp only [schedulerCall] at h
          split at h
          · rename_i hchecks
            cases h
            exact ⟨hwields.1, .inr (.inr (.inl
              ⟨hnumber, hwields, hchecks.1, hchecks.2, _, rfl⟩))⟩
          · contradiction
      | sysTaskCancel =>
          obtain ⟨hnumber, hwields⟩ :=
            SyscallDispatcher.guarded_taskCancel.accepted_iff.mp haccepted
          cases h
          exact ⟨hwields.1, .inr (.inr (.inr ⟨hnumber, hwields, rfl⟩))⟩
      | sysInfo | sysTime | sysTraceContext | sysTaskJoin | sysTaskStatus | sysMemMap
      | sysMemUnmap | sysMemQuery | sysMemShare | sysMemSeal | sysDeviceList
      | sysDeviceOpen | sysDeviceCall | sysDeviceClose | sysModelList | sysModelOpen
      | sysInfer | sysMemoryQuery | sysMemoryPut | sysCapDerive | sysCapRevoke
      | sysAttest | sysRandom | sysAuditAppend | sysAuditQuery | sysAuditVerify =>
          simp [schedulerCall] at h

theorem memoryOp_cases {call : SyscallCall} {op : MemoryOp}
    (h : memoryOp call = some op) :
    call.Wields .memoryShare ∧
      ((∃ permissions, op = .shareRegion call.context.taskId call.frame.arg0
          call.frame.arg1 permissions) ∨
        call.accepted = some .sysMemSeal ∧
          op = .sealSharedRegion (sealHandle call.frame call.context)) := by
  cases haccepted : call.accepted with
  | none => simp [memoryOp, haccepted] at h
  | some number =>
      simp only [memoryOp, haccepted, Option.bind_some] at h
      cases number with
      | sysMemShare =>
          obtain ⟨-, hwields⟩ :=
            SyscallDispatcher.guarded_memShare.accepted_iff.mp haccepted
          simp only [memoryCall] at h
          split at h
          · contradiction
          · cases h
            exact ⟨hwields, .inl ⟨_, rfl⟩⟩
      | sysMemSeal =>
          obtain ⟨-, hwields⟩ :=
            SyscallDispatcher.guarded_memSeal.accepted_iff.mp haccepted
          cases h
          exact ⟨hwields, .inr ⟨rfl, rfl⟩⟩
      | sysInfo | sysYield | sysExit | sysTime | sysTraceContext | sysTaskSpawn
      | sysTaskJoin | sysTaskCancel | sysTaskStatus | sysMemMap | sysMemUnmap
      | sysMemQuery | sysDeviceList | sysDeviceOpen | sysDeviceCall | sysDeviceClose
      | sysModelList | sysModelOpen | sysInfer | sysMemoryQuery | sysMemoryPut
      | sysCapDerive | sysCapRevoke | sysAttest | sysRandom | sysAuditAppend
      | sysAuditQuery | sysAuditVerify =>
          simp [memoryCall] at h

/-- What a call leaves behind outside the audit log and the fault ring. -/
structure Effect (kernel : Kernel) (call : SyscallCall) (next : Kernel)
    (status : KernelStatus) : Prop where
  config : next.config = kernel.config
  boot : next.boot = kernel.boot
  devices : next.devices = kernel.devices
  scheduler : next.scheduler =
    (kernel.schedulerOp call).elim kernel.scheduler
      fun op => (kernel.scheduler.step op).2
  memory : next.memory =
    (memoryOp call).elim kernel.memory fun op => (kernel.memory.step op).2
  scheduler_ok : ∀ op, kernel.schedulerOp call = some op →
    (status = .ok ↔ (kernel.scheduler.step op).1.isOk = true)
  memory_ok : ∀ op, memoryOp call = some op →
    (status = .ok ↔ (kernel.memory.step op).1.isOk = true)

theorem effect_step (self : Kernel) (call : SyscallCall) :
    self.Effect call (self.step call).2 (self.step call).1.status := by
  cases hvalid : SyscallDispatcher.validate call.frame call.context with
  | error error =>
      rw [step, handleSyscall_of_rejected hvalid]
      have hnone := SyscallDispatcher.accepted_of_error hvalid
      have hscheduler : self.schedulerOp call = none := by
        simp [schedulerOp, SyscallCall.accepted, hnone]
      have hmemory : memoryOp call = none := by
        simp [memoryOp, SyscallCall.accepted, hnone]
      refine ⟨rfl, rfl, rfl, ?_, ?_, ?_, ?_⟩
      · rw [hscheduler]
        rfl
      · rw [hmemory]
        rfl
      · rw [hscheduler]
        simp
      · rw [hmemory]
        simp
  | ok descriptor =>
      have hsome := SyscallDispatcher.accepted_of_ok hvalid
      have hscheduler : self.schedulerOp call =
          self.schedulerCall call.frame call.context descriptor.number := by
        simp [schedulerOp, SyscallCall.accepted, hsome]
      have hmemory : memoryOp call =
          memoryCall call.frame call.context descriptor.number := by
        simp [memoryOp, SyscallCall.accepted, hsome]
      have hexecutes := executes_dispatchValidated self descriptor.number
        call.frame call.context
      rw [← hscheduler, ← hmemory] at hexecutes
      have hkernel := hexecutes.kernel_eq
      rw [step, handleSyscall_of_validated hvalid]
      refine ⟨?_, ?_, ?_, ?_, ?_, hexecutes.scheduler_ok, hexecutes.memory_ok⟩
      · rw [hkernel]
      · rw [hkernel]
      · rw [hkernel]
      · rw [hkernel]
      · rw [hkernel]

end Kernel

end AlaniKernel
