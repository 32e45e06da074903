import AlaniKernel.Foundation.Noninterference
import AlaniKernel.Kernel.Registers

/-!
# Isolation of the subsystems

A syscall reads and writes one subsystem.  The task calls also read the settings
of the memory manager, which no syscall writes, and the audit log is written by
all of them.
-/

namespace AlaniKernel

open AlaniKernel.Foundation

/-- The part of the kernel state that decides the result of a syscall. -/
inductive Subsystem where
  | tasks
  | memory
  | devices
  | audit
  | stateless
  deriving DecidableEq, Repr

def SyscallNumber.subsystem : SyscallNumber → Subsystem
  | .sysYield | .sysExit | .sysTime | .sysTaskSpawn | .sysTaskCancel
  | .sysTaskStatus => .tasks
  | .sysInfo | .sysMemMap | .sysMemUnmap | .sysMemQuery | .sysMemShare | .sysMemSeal
  | .sysRandom => .memory
  | .sysDeviceList | .sysDeviceOpen | .sysDeviceCall => .devices
  | .sysAuditAppend | .sysAuditQuery | .sysAuditVerify => .audit
  | .sysTraceContext | .sysTaskJoin | .sysDeviceClose | .sysModelList | .sysModelOpen
  | .sysInfer | .sysMemoryQuery | .sysMemoryPut | .sysCapDerive | .sysCapRevoke
  | .sysAttest => .stateless

namespace MemoryManager

section Settings

variable {self other : MemoryManager} (h : self.settings = other.settings)

include h

theorem validateUserRange_congr (ptr len : UInt64) :
    self.validateUserRange ptr len = other.validateUserRange ptr len := by
  have hlongest : self.maxUserBufferLen = other.maxUserBufferLen :=
    congrArg Settings.longest h
  have hlower : self.userLowerBound = other.userLowerBound := congrArg Settings.lower h
  have hupper : self.userUpperBound = other.userUpperBound := congrArg Settings.upper h
  have halignment : self.minimumUserAlignment = other.minimumUserAlignment :=
    congrArg Settings.alignment h
  rw [validateUserRange, validateUserRange, hlongest, hlower, hupper, halignment]

theorem validateUserBuffer_congr (buffer : UserBuffer) (access : BufferAccess) :
    self.validateUserBuffer buffer access = other.validateUserBuffer buffer access := by
  rw [validateUserBuffer, validateUserBuffer, validateUserRange_congr h]

end Settings

end MemoryManager

namespace Kernel

def subsystem (call : SyscallCall) : Subsystem :=
  call.accepted.elim .stateless SyscallNumber.subsystem

theorem schedulerOp_eq_none {call : SyscallCall} (h : subsystem call ≠ .tasks)
    (self : Kernel) : self.schedulerOp call = none := by
  cases haccepted : call.accepted with
  | none => rw [schedulerOp, haccepted, Option.bind_none]
  | some number =>
      rw [subsystem, haccepted, Option.elim_some] at h
      rw [schedulerOp, haccepted, Option.bind_some]
      cases number <;> first | rfl | exact absurd rfl h

theorem memoryOp_eq_none {call : SyscallCall} (h : subsystem call ≠ .memory) :
    memoryOp call = none := by
  cases haccepted : call.accepted with
  | none => rw [memoryOp, haccepted, Option.bind_none]
  | some number =>
      rw [subsystem, haccepted, Option.elim_some] at h
      rw [memoryOp, haccepted, Option.bind_some]
      cases number <;> first | rfl | exact absurd rfl h

theorem settings_syscall (self : Kernel) (call : SyscallCall) :
    (self.step call).2.memory.settings = self.memory.settings := by
  rw [(self.effect_step call).memory]
  cases hop : memoryOp call with
  | none => rfl
  | some op =>
      have hwritten : self.memory.written op = none := by
        rcases (memoryOp_cases hop).2 with ⟨permissions, rfl⟩ | ⟨-, rfl⟩
        · rfl
        · rfl
      rw [Option.elim_some, (self.memory.settings_step op).2, hwritten, Option.getD_none]

theorem validateManifest_congr {self other : Kernel}
    (h : self.memory.settings = other.memory.settings) (frame : SyscallFrame) :
    self.validateManifest frame = other.validateManifest frame := by
  rw [validateManifest, validateManifest]
  simp only [MemoryManager.validateUserBuffer_congr h]

theorem schedulerOp_congr {self other : Kernel}
    (h : self.memory.settings = other.memory.settings) (call : SyscallCall) :
    self.schedulerOp call = other.schedulerOp call := by
  have hcall : self.schedulerCall call.frame call.context =
      other.schedulerCall call.frame call.context := by
    funext number
    cases number <;> simp only [schedulerCall, validateManifest_congr h]
  rw [schedulerOp, schedulerOp, hcall]

/-! ## What a result depends on -/

/-- The kernels agree on what the calls of a subsystem read. -/
def AgreeOn (self other : Kernel) : Subsystem → Prop
  | .tasks => self.scheduler = other.scheduler ∧
      self.memory.settings = other.memory.settings
  | .memory => self.memory = other.memory
  | .devices => self.devices = other.devices
  | .audit => self.audit = other.audit
  | .stateless => True

theorem sysYield_congr {self other : Kernel} (h : self.scheduler = other.scheduler) :
    self.sysYield.1 = other.sysYield.1 := by
  simp only [sysYield, h]
  rcases other.scheduler.yieldCurrent with ⟨_ | _ | _, scheduler⟩ <;> rfl

theorem sysExit_congr {self other : Kernel} (h : self.scheduler = other.scheduler)
    (taskId : TaskId) : (self.sysExit taskId).1 = (other.sysExit taskId).1 := by
  simp only [sysExit, h]
  rcases other.scheduler.cancel taskId with ⟨_ | _, scheduler⟩ <;> rfl

theorem sysTaskSpawn_congr {self other : Kernel} (h : self.scheduler = other.scheduler)
    (hsettings : self.memory.settings = other.memory.settings) (frame : SyscallFrame)
    (context : DispatchContext) :
    (self.sysTaskSpawn frame context).1 = (other.sysTaskSpawn frame context).1 := by
  simp only [sysTaskSpawn, h, validateManifest_congr hsettings]
  cases other.validateManifest frame with
  | error error => rfl
  | ok =>
      dsimp only
      split_ifs
      · rcases other.scheduler.spawn context.taskId .runtime defaultPriority .empty
          .unlimited with ⟨_ | _, scheduler⟩ <;> rfl
      · rcases other.scheduler.spawn context.taskId .runtime frame.arg3.toUInt8 .empty
          .unlimited with ⟨_ | _, scheduler⟩ <;> rfl
      · rfl

theorem sysMemShare_congr {self other : Kernel} (h : self.memory = other.memory)
    (frame : SyscallFrame) (taskId : TaskId) :
    (self.sysMemShare frame taskId).1 = (other.sysMemShare frame taskId).1 := by
  simp only [sysMemShare, h]
  cases MemoryPermissions.fromBits frame.arg2.toUInt32 with
  | error error => rfl
  | ok permissions =>
      dsimp only
      rcases other.memory.shareRegion taskId frame.arg0 frame.arg1 permissions with
        ⟨_ | _, memory⟩ <;> rfl

theorem sysMemSeal_congr {self other : Kernel} (h : self.memory = other.memory)
    (frame : SyscallFrame) (taskId : TaskId) :
    (self.sysMemSeal frame taskId).1 = (other.sysMemSeal frame taskId).1 := by
  simp only [sysMemSeal, h]
  rcases other.memory.sealSharedRegion
    { id := frame.arg0, ownerTask := taskId, permissions := 0 } with ⟨_ | _, memory⟩ <;> rfl

theorem dispatchValidated_congr {self other : Kernel} {number : SyscallNumber}
    (h : self.AgreeOn other number.subsystem) (frame : SyscallFrame)
    (context : DispatchContext) :
    (self.dispatchValidated number frame context).1 =
      (other.dispatchValidated number frame context).1 := by
  cases number with
  | sysYield => exact sysYield_congr h.1
  | sysExit => exact sysExit_congr h.1 context.taskId
  | sysTaskCancel => exact sysExit_congr h.1 frame.arg0
  | sysTaskSpawn => exact sysTaskSpawn_congr h.1 h.2 frame context
  | sysMemShare => exact sysMemShare_congr h frame context.taskId
  | sysMemSeal => exact sysMemSeal_congr h frame context.taskId
  | sysTime | sysTaskStatus =>
      simp only [dispatchValidated, sysTaskStatus, h.1]
  | sysInfo | sysMemMap | sysMemUnmap | sysMemQuery | sysRandom =>
      have hmemory : self.memory = other.memory := h
      simp only [dispatchValidated, sysInfo, sysMemRange, sysMemQuery, sysRandom, hmemory]
  | sysDeviceList | sysDeviceOpen | sysDeviceCall =>
      have hdevices : self.devices = other.devices := h
      simp only [dispatchValidated, sysDeviceOpen, sysDeviceCall, hdevices]
  | sysAuditAppend | sysAuditQuery | sysAuditVerify =>
      have haudit : self.audit = other.audit := h
      simp only [dispatchValidated, haudit]
  | sysTraceContext | sysTaskJoin | sysDeviceClose | sysModelList | sysModelOpen
  | sysInfer | sysMemoryQuery | sysMemoryPut | sysCapDerive | sysCapRevoke
  | sysAttest => rfl

theorem result_congr {self other : Kernel} {call : SyscallCall}
    (h : self.AgreeOn other (subsystem call)) :
    (self.step call).1 = (other.step call).1 := by
  cases hvalid : SyscallDispatcher.validate call.frame call.context with
  | error error =>
      rw [step, step, handleSyscall_of_rejected hvalid, handleSyscall_of_rejected hvalid]
  | ok descriptor =>
      have haccepted := SyscallDispatcher.accepted_of_ok hvalid
      rw [subsystem, SyscallCall.accepted, haccepted, Option.elim_some] at h
      rw [step, step, handleSyscall_of_validated hvalid, handleSyscall_of_validated hvalid]
      exact dispatchValidated_congr h call.frame call.context

/-! ## Noninterference -/

def AgreeWithin (scope : Subsystem → Bool) (self other : Kernel) : Prop :=
  ∀ subsystem, scope subsystem = true → self.AgreeOn other subsystem

def concerns (scope : Subsystem → Bool) (call : SyscallCall) : Bool :=
  scope (subsystem call)

theorem agreeOn_step {self other : Kernel} {call : SyscallCall} {d : Subsystem}
    (h : self.AgreeOn other d) (hd : d ≠ .audit) :
    (self.step call).2.AgreeOn (other.step call).2 d := by
  have hself := self.effect_step call
  have hother := other.effect_step call
  cases d with
  | tasks =>
      have hsettings : (self.step call).2.memory.settings =
          (other.step call).2.memory.settings := by
        rw [settings_syscall, settings_syscall, h.2]
      exact ⟨by rw [hself.scheduler, hother.scheduler, schedulerOp_congr h.2, h.1], hsettings⟩
  | memory =>
      have hmemory : self.memory = other.memory := h
      change (self.step call).2.memory = (other.step call).2.memory
      rw [hself.memory, hother.memory, hmemory]
  | devices =>
      have hdevices : self.devices = other.devices := h
      change (self.step call).2.devices = (other.step call).2.devices
      rw [hself.devices, hother.devices, hdevices]
  | audit => exact absurd rfl hd
  | stateless => trivial

theorem agreeOn_skip {self other : Kernel} {call : SyscallCall} {d : Subsystem}
    (h : self.AgreeOn other d) (hd : d ≠ .audit) (hother : subsystem call ≠ d) :
    (self.step call).2.AgreeOn other d := by
  have hself := self.effect_step call
  cases d with
  | tasks =>
      refine ⟨?_, (settings_syscall self call).trans h.2⟩
      rw [hself.scheduler, schedulerOp_eq_none hother]
      exact h.1
  | memory =>
      change (self.step call).2.memory = other.memory
      rw [hself.memory, memoryOp_eq_none hother]
      exact h
  | devices => exact hself.devices.trans h
  | audit => exact absurd rfl hd
  | stateless => trivial

theorem unwinding_subsystems {scope : Subsystem → Bool} (haudit : scope .audit = false) :
    Unwinding step (concerns scope) (AgreeWithin scope) := by
  have hne : ∀ d, scope d = true → d ≠ .audit := by
    rintro d hd rfl
    rw [haudit] at hd
    contradiction
  constructor
  · intro self other call h hvisible
    exact result_congr (h _ hvisible)
  · intro self other call h hvisible d hd
    exact agreeOn_step (h d hd) (hne d hd)
  · intro self other call h hinvisible d hd
    apply agreeOn_skip (h d hd) (hne d hd)
    rintro rfl
    rw [concerns, hd] at hinvisible
    contradiction

theorem agreeWithin_refl (scope : Subsystem → Bool) (self : Kernel) :
    AgreeWithin scope self self := by
  intro d hd
  cases d with
  | tasks => exact ⟨rfl, rfl⟩
  | memory | devices | audit => rfl
  | stateless => trivial

/--
The subsystems do not interfere: in any run, the calls that concern some of them
are answered, and leave these subsystems, as if no other call had been made.
-/
theorem subsystems_isolated (self : Kernel) (scope : Subsystem → Bool)
    (haudit : scope .audit = false) (calls : List SyscallCall) :
    (history step self calls).filter (fun event => concerns scope event.1) =
        history step self (calls.filter (concerns scope)) ∧
      AgreeWithin scope (run step self calls)
        (run step self (calls.filter (concerns scope))) :=
  ⟨(unwinding_subsystems haudit).history_purged (agreeWithin_refl scope self) calls,
    (unwinding_subsystems haudit).run_purged (agreeWithin_refl scope self) calls⟩

theorem subsystems_isolated_tasks :
    (history step new
        [⟨.new .sysYield #v[0, 0, 0, 0, 0, 0], .task 1 .empty⟩,
          ⟨.new .sysMemShare #v[0x1000, 64, 1, 0, 0, 0], .task 1 (.single .memoryShare)⟩,
          ⟨.new .sysYield #v[0, 0, 0, 0, 0, 0], .task 1 .empty⟩]).filter
        (fun event => concerns (fun d => d == .tasks) event.1) =
      history step new
        ([⟨.new .sysYield #v[0, 0, 0, 0, 0, 0], .task 1 .empty⟩,
          ⟨.new .sysMemShare #v[0x1000, 64, 1, 0, 0, 0], .task 1 (.single .memoryShare)⟩,
          ⟨.new .sysYield #v[0, 0, 0, 0, 0, 0], .task 1 .empty⟩].filter
            (concerns fun d => d == .tasks)) :=
  (subsystems_isolated new (fun d => d == .tasks) rfl _).1

end Kernel

end AlaniKernel
