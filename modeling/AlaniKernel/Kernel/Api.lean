import AlaniKernel.Kernel.Syscalls

/-!
# Runs of the public interface

The subsystems of a kernel are public fields.  A caller may use the operations
of each, push any region and write any configuration, and put a fresh subsystem
in place of the current one.
-/

namespace AlaniKernel

open AlaniKernel.Foundation

/-- What a caller can replace by a new value of its type. -/
inductive KernelPart where
  | boot
  | memory
  | memoryMap
  | scheduler
  | devices
  | audit
  | faults
  deriving DecidableEq, Repr

inductive KernelOp where
  | initializeHost
  | handleSyscall (call : Kernel.SyscallCall)
  | setConfig (config : KernelConfig)
  | completePhase (phase : BootPhase)
  | pushRegion (region : MemoryRegion)
  | memory (op : MemoryOp)
  | scheduler (op : SchedulerOp)
  | registerDevice (descriptor : DeviceDescriptor)
  | appendEvent (event : AuditEvent)
  | recordFault (fault : FaultRecord)
  | renew (part : KernelPart)

inductive KernelReply where
  | done
  | memory (reply : MemoryReply)
  | scheduler (reply : SchedulerReply)
  | syscall (result : SyscallResult)
  deriving DecidableEq, Repr

namespace Kernel

def renew (self : Kernel) : KernelPart → Kernel
  | .boot => { self with boot := .new }
  | .memory => { self with memory := .new }
  | .memoryMap => { self with memory := { self.memory with map := .new } }
  | .scheduler => { self with scheduler := .new }
  | .devices => { self with devices := .new }
  | .audit => { self with audit := .new }
  | .faults => { self with faults := .new }

def apply (self : Kernel) : KernelOp → KernelResult KernelReply × Kernel
  | .initializeHost =>
      let (result, self) := self.initializeHost
      (result.map fun _ => .done, self)
  | .handleSyscall call =>
      let (result, self) := self.step call
      (.ok (.syscall result), self)
  | .setConfig config => (.ok .done, { self with config })
  | .completePhase phase =>
      let (result, boot) := self.boot.complete phase
      (result.map fun _ => .done, { self with boot })
  | .pushRegion region =>
      let (result, map) := self.memory.map.push region
      (result.map fun _ => .done, { self with memory := { self.memory with map } })
  | .memory op =>
      let (result, memory) := self.memory.step op
      (result.map .memory, { self with memory })
  | .scheduler op =>
      let (result, scheduler) := self.scheduler.step op
      (result.map .scheduler, { self with scheduler })
  | .registerDevice descriptor =>
      let (result, devices) := self.devices.register descriptor
      (result.map fun _ => .done, { self with devices })
  | .appendEvent event => (.ok .done, { self with audit := self.audit.append event })
  | .recordFault fault => (.ok .done, { self with faults := self.faults.record fault })
  | .renew part => (.ok .done, self.renew part)

/-! ## The steps of the boot sequence -/

/-- What each step of the boot sequence keeps, whether it fails or not. -/
structure BootInvariant (I : Kernel → Prop) : Prop where
  allocator : ∀ (kernel : Kernel) phase, I kernel →
    I { kernel with memory := (kernel.memory.setAllocatorPhase phase).2 }
  spawn : ∀ kernel : Kernel, I kernel →
    I { kernel with
      scheduler :=
        (kernel.scheduler.spawn 0 .runtime defaultPriority .empty .unlimited).2 }
  complete : ∀ (kernel : Kernel) phase, I kernel →
    I { kernel with boot := (kernel.boot.complete phase).2 }

namespace BootInvariant

variable {I : Kernel → Prop}

theorem advanceAllocator (hI : BootInvariant I) {self : Kernel} (h : I self)
    (phases : List AllocatorPhase) : I (self.advanceAllocator phases).2 := by
  induction phases generalizing self with
  | nil => exact h
  | cons phase phases ih =>
      have hnext := hI.allocator self phase h
      rw [Kernel.advanceAllocator]
      generalize self.memory.setAllocatorPhase phase = outcome at hnext
      obtain ⟨result, memory⟩ := outcome
      cases result with
      | error error => exact hnext
      | ok => exact ih hnext

theorem phaseBody (hI : BootInvariant I) {self : Kernel} (h : I self) (phase : BootPhase) :
    I (self.phaseBody phase).2 := by
  cases phase with
  | allocator => exact hI.advanceAllocator h _
  | runtimeSpawn =>
      have hnext := hI.spawn self h
      rw [Kernel.phaseBody]
      generalize self.scheduler.spawn 0 .runtime defaultPriority .empty .unlimited =
        outcome at hnext
      obtain ⟨result, scheduler⟩ := outcome
      cases result <;> exact hnext
  | loaderHandoff | earlyConsole | cpuFeatures | memoryMap | paging | interrupts | timer
  | scheduler | devices | security | audit | syscalls => exact h

theorem completePhases (hI : BootInvariant I) {self : Kernel} (h : I self)
    (phases : List BootPhase) : I (self.completePhases phases).2 := by
  induction phases generalizing self with
  | nil => exact h
  | cons phase phases ih =>
      have hbody := hI.phaseBody h phase
      rw [Kernel.completePhases]
      generalize self.phaseBody phase = outcome at hbody
      obtain ⟨result, next⟩ := outcome
      cases result with
      | error error => exact hbody
      | ok =>
          have hnext := hI.complete next phase hbody
          dsimp only
          generalize next.boot.complete phase = booted at hnext
          obtain ⟨result, boot⟩ := booted
          cases result with
          | error error => exact hnext
          | ok => exact ih hnext

theorem initializeHost (hI : BootInvariant I) {self : Kernel} (h : I self) :
    I self.initializeHost.2 :=
  hI.completePhases h _

end BootInvariant

/-! ## The subsystems over runs -/

/--
What holds of a new memory manager, and is kept by its operations, by an empty
map and by the pushes of a run, holds of the memory manager after the run.
-/
theorem memory_run {I : MemoryManager → Prop} (hnew : I .new)
    (hstep : ∀ (memory : MemoryManager) op, I memory → I (memory.step op).2)
    (hempty : ∀ (memory : MemoryManager), I memory → I { memory with map := .new })
    {ops : List KernelOp}
    (hpush : ∀ region, KernelOp.pushRegion region ∈ ops → ∀ (memory : MemoryManager),
      I memory → I { memory with map := (memory.map.push region).2 }) :
    I (run apply new ops).memory := by
  have hboot : BootInvariant fun kernel => I kernel.memory :=
    { allocator := fun kernel phase => hstep kernel.memory (.setAllocatorPhase phase)
      spawn := fun _ h => h
      complete := fun _ _ h => h }
  refine run_invariant_of_along (I := fun kernel : Kernel => I kernel.memory)
    ?_ hnew (along_of_mem (P := (· ∈ ops)) (fun _ hop => hop) new)
  intro self op h hop
  cases op with
  | initializeHost => exact hboot.initializeHost h
  | handleSyscall call =>
      change I (self.step call).2.memory
      rw [(effect_step self call).memory]
      cases memoryOp call with
      | none => exact h
      | some op => exact hstep _ op h
  | pushRegion region => exact hpush region hop _ h
  | memory op => exact hstep _ op h
  | renew part =>
      cases part with
      | memory => exact hnew
      | memoryMap => exact hempty _ h
      | boot | scheduler | devices | audit | faults => exact h
  | setConfig | completePhase | scheduler | registerDevice | appendEvent | recordFault =>
      exact h

theorem scheduler_run {I : Scheduler → Prop} (hnew : I .new)
    (hstep : ∀ (sched : Scheduler) op, I sched → I (sched.step op).2)
    (ops : List KernelOp) : I (run apply new ops).scheduler := by
  have hboot : BootInvariant fun kernel => I kernel.scheduler :=
    { allocator := fun _ _ h => h
      spawn := fun kernel =>
        hstep kernel.scheduler (.spawn 0 .runtime defaultPriority .empty .unlimited)
      complete := fun _ _ h => h }
  refine run_invariant (I := fun kernel : Kernel => I kernel.scheduler) ?_ hnew ops
  intro self op h
  cases op with
  | initializeHost => exact hboot.initializeHost h
  | handleSyscall call =>
      change I (self.step call).2.scheduler
      rw [(effect_step self call).scheduler]
      cases self.schedulerOp call with
      | none => exact h
      | some op => exact hstep _ op h
  | scheduler op => exact hstep _ op h
  | renew part =>
      cases part with
      | scheduler => exact hnew
      | boot | memory | memoryMap | devices | audit | faults => exact h
  | setConfig | completePhase | pushRegion | memory | registerDevice | appendEvent
  | recordFault => exact h

theorem boot_run (ops : List KernelOp) : (run apply new ops).boot.InOrder := by
  have hboot : BootInvariant fun kernel => kernel.boot.InOrder :=
    { allocator := fun _ _ h => h
      spawn := fun _ h => h
      complete := fun _ phase h => h.complete phase }
  refine run_invariant (I := fun kernel : Kernel => kernel.boot.InOrder) ?_
    BootProgress.inOrder_new ops
  intro self op h
  cases op with
  | initializeHost => exact hboot.initializeHost h
  | handleSyscall call =>
      change (self.step call).2.boot.InOrder
      rw [(effect_step self call).boot]
      exact h
  | completePhase phase => exact h.complete phase
  | renew part =>
      cases part with
      | boot => exact BootProgress.inOrder_new
      | memory | memoryMap | scheduler | devices | audit | faults => exact h
  | setConfig | pushRegion | memory | scheduler | registerDevice | appendEvent
  | recordFault => exact h

end Kernel

end AlaniKernel
