import AlaniKernel.Device.Mediation
import AlaniKernel.Kernel.Syscalls

/-!
# Authority only adds

Capabilities are checked and never consumed or passed on.  A call that completes
does the same for a caller that holds more.
-/

namespace AlaniKernel

open AlaniKernel.Foundation

theorem DeviceRegistry.authorizeOpen_mono {self : DeviceRegistry} {id : DeviceId}
    {caller more : CapabilitySet} {descriptor : DeviceDescriptor}
    (h : self.authorizeOpen id caller = .ok descriptor) (hmore : more.Includes caller) :
    self.authorizeOpen id more = .ok descriptor := by
  unfold authorizeOpen CapabilitySet.require at h ⊢
  split_ifs at h with hcaller
  · cases hget : self.get id with
    | none =>
        rw [hget] at h
        contradiction
    | some found =>
        rw [hget] at h
        dsimp only at h
        split_ifs at h with hready hheld
        cases h
        simp only [Bool.not_eq_true', Bool.not_eq_false] at hready hheld
        have hincludes := CapabilitySet.containsAll_iff_includes.mp hheld
        have hheld' : more.containsAll descriptor.requiredCapabilities = true :=
          CapabilitySet.containsAll_iff_includes.mpr fun i hi => hmore i (hincludes i hi)
        simp [hmore.contains hcaller, hready, hheld']

theorem DeviceRegistry.authorizeCall_mono {self : DeviceRegistry} {id : DeviceId}
    {operation : DeviceOperation} {caller more : CapabilitySet} {inputLen outputLen : UInt64}
    {descriptor : DeviceDescriptor}
    (h : self.authorizeCall id operation caller inputLen outputLen = .ok descriptor)
    (hmore : more.Includes caller) :
    self.authorizeCall id operation more inputLen outputLen = .ok descriptor := by
  obtain ⟨hget, hadmits⟩ := authorizeCall_eq_ok_iff.mp h
  exact authorizeCall_eq_ok_iff.mpr ⟨hget, hadmits.mono hmore⟩

namespace Kernel

/-- The same call by the same task, which may hold more. -/
structure SyscallCall.Enlarges (more call : SyscallCall) : Prop where
  frame : more.frame = call.frame
  taskId : more.context.taskId = call.context.taskId
  execution : more.context.execution = call.context.execution
  capabilities : more.context.capabilities.Includes call.context.capabilities

section Enlarged

variable {self : Kernel} {more call : SyscallCall}

theorem SyscallCall.Enlarges.validate_ok (h : more.Enlarges call)
    {descriptor : SyscallDescriptor}
    (hvalid : SyscallDispatcher.validate call.frame call.context = .ok descriptor) :
    SyscallDispatcher.validate more.frame more.context = .ok descriptor := by
  obtain ⟨hrow, hcontext, hrequired⟩ := SyscallDispatcher.validate_ok_iff.mp hvalid
  rw [SyscallDispatcher.validate_ok_iff, h.frame, h.execution]
  exact ⟨hrow, hcontext, fun required hneeds =>
    h.capabilities.contains (hrequired required hneeds)⟩

theorem sysDeviceOpen_mono {frame : SyscallFrame} {caller larger : CapabilitySet}
    (hlarger : larger.Includes caller)
    (hok : (self.sysDeviceOpen frame caller).status = .ok) :
    self.sysDeviceOpen frame larger = self.sysDeviceOpen frame caller := by
  cases hopen : self.devices.authorizeOpen frame.arg0 caller with
  | error error =>
      simp only [sysDeviceOpen, hopen] at hok
      exact absurd hok error.status_ne_ok
  | ok descriptor =>
      have hopen' := DeviceRegistry.authorizeOpen_mono hopen hlarger
      simp only [sysDeviceOpen, hopen, hopen']

theorem sysDeviceCall_mono {frame : SyscallFrame} {caller larger : CapabilitySet}
    (hlarger : larger.Includes caller)
    (hok : (self.sysDeviceCall frame caller).status = .ok) :
    self.sysDeviceCall frame larger = self.sysDeviceCall frame caller := by
  cases hraw : DeviceOperation.fromRaw frame.arg1 with
  | none => simp only [sysDeviceCall, hraw]
  | some operation =>
      cases hcall : self.devices.authorizeCall frame.arg0 operation caller frame.arg3
          frame.arg5 with
      | error error =>
          simp only [sysDeviceCall, hraw, hcall] at hok
          exact absurd hok error.status_ne_ok
      | ok descriptor =>
          have hcall' := DeviceRegistry.authorizeCall_mono hcall hlarger
          simp only [sysDeviceCall, hraw, hcall, hcall']

/-- Only the two device handlers look at the capabilities again. -/
theorem dispatchValidated_enlarged (h : more.Enlarges call) {number : SyscallNumber}
    (hok : (self.dispatchValidated number call.frame call.context).1.status = .ok) :
    self.dispatchValidated number more.frame more.context =
      self.dispatchValidated number call.frame call.context := by
  rw [h.frame]
  cases number with
  | sysDeviceOpen =>
      simp only [dispatchValidated] at hok ⊢
      rw [sysDeviceOpen_mono h.capabilities hok]
  | sysDeviceCall =>
      simp only [dispatchValidated] at hok ⊢
      rw [sysDeviceCall_mono h.capabilities hok]
  | sysExit | sysMemShare | sysMemSeal => simp only [dispatchValidated, h.taskId]
  | sysTaskSpawn => simp only [dispatchValidated, sysTaskSpawn, h.taskId]
  | sysInfo | sysYield | sysTime | sysTraceContext | sysTaskJoin | sysTaskCancel
  | sysTaskStatus | sysMemMap | sysMemUnmap | sysMemQuery | sysDeviceList
  | sysDeviceClose | sysModelList | sysModelOpen | sysInfer | sysMemoryQuery
  | sysMemoryPut | sysCapDerive | sysCapRevoke | sysAttest | sysRandom
  | sysAuditAppend | sysAuditQuery | sysAuditVerify => rfl

theorem step_enlarged (h : more.Enlarges call) (hok : (self.step call).1.status = .ok) :
    self.step more = self.step call := by
  cases hvalid : SyscallDispatcher.validate call.frame call.context with
  | error error =>
      rw [step, handleSyscall_of_rejected hvalid] at hok
      exact absurd hok error.status_ne_ok
  | ok descriptor =>
      rw [step, handleSyscall_of_validated hvalid] at hok
      have hdispatch := dispatchValidated_enlarged h hok
      rw [step, step, handleSyscall_of_validated hvalid,
        handleSyscall_of_validated (h.validate_ok hvalid), hdispatch]
      simp only [auditOutcome, reportOutcome, h.frame, h.taskId]

end Enlarged

/--
In a run in which every call completes, holding more capabilities changes no
result and nothing in the kernel that the run leaves.
-/
theorem run_enlarged (self : Kernel) (mores calls : List SyscallCall)
    (h : List.Forall₂ SyscallCall.Enlarges mores calls)
    (hok : ∀ event ∈ history step self calls, event.2.status = .ok) :
    run step self mores = run step self calls ∧
      (history step self mores).map Prod.snd = (history step self calls).map Prod.snd := by
  induction h generalizing self with
  | nil => exact ⟨rfl, rfl⟩
  | @cons more call mores calls hmore hmores ih =>
      have hfirst : (self.step call).1.status = .ok := hok _ List.mem_cons_self
      have hstep := step_enlarged hmore hfirst
      obtain ⟨hrun, hhistory⟩ := ih (self.step call).2 fun event hevent =>
        hok event (List.mem_cons_of_mem _ hevent)
      simp only [run_cons, history, List.map_cons, hstep]
      exact ⟨hrun, by rw [hhistory]⟩

theorem run_enlarged_yield :
    run step new
        [⟨.new .sysYield #v[0, 0, 0, 0, 0, 0], .task 1 (.single .deviceOpen)⟩] =
      run step new [⟨.new .sysYield #v[0, 0, 0, 0, 0, 0], .task 1 .empty⟩] :=
  (run_enlarged new _ _
    (.cons ⟨rfl, rfl, rfl, CapabilitySet.containsAll_iff_includes.mp (by decide)⟩ .nil)
    (by decide +kernel)).1

end Kernel

end AlaniKernel
