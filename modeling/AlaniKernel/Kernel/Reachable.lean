import AlaniKernel.Kernel.Syscalls

/-!
# Kernels that a run of syscalls reaches

A fresh or host-initialized kernel meets the invariants of the scheduler and of
the memory manager, and every syscall keeps them.
-/

namespace AlaniKernel

open AlaniKernel.Foundation

namespace Scheduler

theorem tick_scheduleNext (self : Scheduler) :
    self.scheduleNext.2.tick.toNat ≤ self.tick.toNat + 1 := by
  rcases self.scheduleNext_cases with
    ⟨-, h⟩ | ⟨tick, htick, -, h⟩ | ⟨k, next, hselects, h⟩ | ⟨k, next, h, htick, -⟩
  · rw [h]
    exact Nat.le_succ _
  · rw [h]
    exact htick.le
  · rw [h]
    exact hselects.tick.le
  · rw [h]
    exact htick.le

theorem tick_step (self : Scheduler) (op : SchedulerOp) :
    (self.step op).2.tick.toNat ≤ self.tick.toNat + 1 := by
  rcases self.step_cases op with
    ⟨-, -, hspawned⟩ | ⟨-, hwritten⟩ | ⟨charged, -, hcharged, hstep⟩
  · rw [hspawned.tick]
    exact Nat.le_succ _
  · rw [hwritten.tick]
    exact Nat.le_succ _
  · rw [hstep, ← hcharged.tick]
    exact charged.tick_scheduleNext

end Scheduler

namespace Kernel

structure Sound (kernel : Kernel) : Prop where
  scheduler : kernel.scheduler.Reachable
  memory : kernel.memory.WellFormed

/-- The kernel before its first syscall: fresh, or initialized by the host. -/
def Fresh (kernel : Kernel) : Prop :=
  kernel = new ∨ kernel = new.initializeHost.2

theorem scheduler_initializeHost : new.initializeHost.2.scheduler =
    Scheduler.runNew [.spawn 0 .runtime defaultPriority .empty .unlimited] := by
  decide +kernel

theorem memory_initializeHost : new.initializeHost.2.memory =
    MemoryManager.runNew [.setAllocatorPhase .bootBump, .setAllocatorPhase .frame,
      .setAllocatorPhase .heap] := by
  decide +kernel

theorem sound_new : new.Sound :=
  ⟨Scheduler.reachable_runNew [], MemoryManager.wellFormed_new⟩

theorem sound_initializeHost : new.initializeHost.2.Sound := by
  refine ⟨?_, ?_⟩
  · rw [scheduler_initializeHost]
    exact Scheduler.reachable_runNew _
  · rw [memory_initializeHost]
    exact MemoryManager.wellFormed_runNew _

theorem Fresh.sound {kernel : Kernel} (h : kernel.Fresh) : kernel.Sound := by
  rcases h with rfl | rfl
  · exact sound_new
  · exact sound_initializeHost

theorem Sound.step {self : Kernel} (h : self.Sound) (call : SyscallCall) :
    (self.step call).2.Sound := by
  have heffect := effect_step self call
  refine ⟨?_, ?_⟩
  · rw [heffect.scheduler]
    cases self.schedulerOp call with
    | none => exact h.scheduler
    | some op => exact h.scheduler.step op
  · rw [heffect.memory]
    cases memoryOp call with
    | none => exact h.memory
    | some op => exact h.memory.step op

theorem Sound.run {self : Kernel} (h : self.Sound) (calls : List SyscallCall) :
    (run Kernel.step self calls).Sound :=
  run_invariant (fun _ call hself => hself.step call) h calls

theorem tick_run (self : Kernel) (calls : List SyscallCall) :
    (run step self calls).scheduler.tick.toNat ≤
      self.scheduler.tick.toNat + calls.length := by
  induction calls generalizing self with
  | nil => exact Nat.le_refl _
  | cons call calls ih =>
      have hrest := ih (self.step call).2
      have hfirst : (self.step call).2.scheduler.tick.toNat ≤
          self.scheduler.tick.toNat + 1 := by
        rw [(effect_step self call).scheduler]
        cases self.schedulerOp call with
        | none => exact Nat.le_succ _
        | some op => exact self.scheduler.tick_step op
      rw [run_cons, List.length_cons]
      omega

end Kernel

end AlaniKernel
