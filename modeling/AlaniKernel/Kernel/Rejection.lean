import AlaniKernel.Kernel.Syscalls

/-!
# Rejected syscalls

A rejection depends on the number, the capabilities and the execution context
of a call alone.  It says nothing about the kernel or the arguments, and it
writes nothing but the audit log and the fault ring.
-/

namespace AlaniKernel

namespace Kernel

/-- Two calls that the dispatcher cannot tell apart. -/
structure SyscallCall.SameRequest (call other : SyscallCall) : Prop where
  number : call.frame.number = other.frame.number
  capabilities : call.context.capabilities = other.context.capabilities
  execution : call.context.execution = other.context.execution

structure Undisturbed (before after : Kernel) : Prop where
  config : after.config = before.config
  boot : after.boot = before.boot
  memory : after.memory = before.memory
  scheduler : after.scheduler = before.scheduler
  devices : after.devices = before.devices

theorem validate_congr {call other : SyscallCall} (h : call.SameRequest other) :
    SyscallDispatcher.validate call.frame call.context =
      SyscallDispatcher.validate other.frame other.context := by
  simp only [SyscallDispatcher.validate, h.number, h.capabilities, h.execution]

theorem step_of_rejected {self : Kernel} {call : SyscallCall} {error : KernelError}
    (h : SyscallDispatcher.validate call.frame call.context = .error error) :
    self.step call =
      (.error error, self.recordRejectedSyscall call.frame call.context error) :=
  handleSyscall_of_rejected h

theorem undisturbed_of_rejected {self : Kernel} {call : SyscallCall}
    {error : KernelError}
    (h : SyscallDispatcher.validate call.frame call.context = .error error) :
    self.Undisturbed (self.step call).2 := by
  rw [step_of_rejected h]
  exact ⟨rfl, rfl, rfl, rfl, rfl⟩

/--
Two calls that the dispatcher cannot tell apart are rejected alike, with one
result for both kernels, and neither kernel changes.
-/
theorem rejection_reveals_nothing (first second : Kernel) {call other : SyscallCall}
    (h : call.SameRequest other) (error : KernelError) :
    (SyscallDispatcher.validate call.frame call.context = .error error ↔
        SyscallDispatcher.validate other.frame other.context = .error error) ∧
      (SyscallDispatcher.validate call.frame call.context = .error error →
        (first.step call).1 = (second.step other).1 ∧
          (first.step call).1.value = 0 ∧ (first.step call).1.detail = 0 ∧
          first.Undisturbed (first.step call).2 ∧
          second.Undisturbed (second.step other).2) := by
  have hsame := validate_congr h
  refine ⟨by rw [hsame], fun hrejected => ?_⟩
  have hother := hsame.symm.trans hrejected
  have hresult : (first.step call).1 = .error error := by
    rw [step_of_rejected hrejected]
  have hresult' : (second.step other).1 = .error error := by
    rw [step_of_rejected hother]
  refine ⟨hresult.trans hresult'.symm, ?_, ?_, undisturbed_of_rejected hrejected,
    undisturbed_of_rejected hother⟩
  · rw [hresult]
    rfl
  · rw [hresult]
    rfl

theorem rejection_reveals_nothing_spawn :
    let call : SyscallCall :=
      { frame := .new .sysTaskSpawn #v[0, 4096, 0, 0, 0, 0]
        context := .task 1 .empty }
    let other : SyscallCall :=
      { frame := .new .sysTaskSpawn #v[0x1000, 0, 0, 300, 0, 0]
        context := .task 2 .empty }
    (new.step call).1 = (new.initializeHost.2.step other).1 := by
  intro call other
  have hrejected : SyscallDispatcher.validate call.frame call.context =
      .error .missingCapability := by decide
  have hsame : call.SameRequest other := ⟨rfl, rfl, rfl⟩
  exact ((rejection_reveals_nothing new new.initializeHost.2 hsame
    .missingCapability).2 hrejected).1

end Kernel

end AlaniKernel
