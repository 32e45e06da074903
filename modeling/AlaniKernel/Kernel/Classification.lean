import AlaniKernel.Kernel.Accounting
import AlaniKernel.Kernel.Registers

/-!
# How faults are classified

A call that the dispatcher rejects and one whose handler fails take different
paths to the fault ring.  Only the first looks at the execution context and at
the status.
-/

namespace AlaniKernel

open AlaniKernel.Foundation

/-! ## Errors of the subsystems -/

namespace Scheduler

theorem cancel_not_denied {self : Scheduler} {taskId : TaskId} {error : KernelError}
    (h : (self.cancel taskId).1 = .error error) : error.status ≠ .permissionDenied := by
  unfold cancel at h
  cases hmut : self.runQueue.getMut taskId with
  | none =>
      simp only [hmut] at h
      cases h
      decide
  | some i =>
      simp only [hmut] at h
      split at h
      · cases h
        decide
      · contradiction

theorem spawn_not_denied {self : Scheduler} {parentId : TaskId}
    {schedulerClass : SchedulerClass} {priority : UInt8} {capabilities : CapabilitySet}
    {budget : BudgetAccount} {error : KernelError}
    (h : (self.spawn parentId schedulerClass priority capabilities budget).1 =
      .error error) : error.status ≠ .permissionDenied := by
  rcases self.spawn_cases parentId schedulerClass priority capabilities budget with
    ⟨-, hspawn⟩ | ⟨nextTaskId, -, ⟨refused, hrefused, hspawn⟩ | ⟨slot, -, -, -, hspawn⟩⟩
  · rw [hspawn] at h
    cases h
    decide
  · rw [hspawn] at h
    cases h
    cases hrefused <;> decide
  · rw [hspawn] at h
    contradiction

end Scheduler

namespace MemoryManager

theorem shareRegion_not_denied {self : MemoryManager} {ownerTask : TaskId}
    {start len : UInt64} {permissions : MemoryPermissions} {error : KernelError}
    (h : (self.shareRegion ownerTask start len permissions).1 = .error error) :
    error.status ≠ .permissionDenied := by
  unfold shareRegion at h
  cases hrange : self.validateUserRange start len with
  | error first =>
      simp only [hrange, Except.error.injEq] at h
      subst h
      rw [validateUserRange_error hrange]
      decide
  | ok =>
      simp only [hrange] at h
      split at h
      · cases h
        decide
      · split at h
        · cases h
          decide
        · split at h
          · cases h
            decide
          · contradiction

theorem sealSharedRegion_not_denied {self : MemoryManager} {handle : SharedMemoryHandle}
    {error : KernelError} (h : (self.sealSharedRegion handle).1 = .error error) :
    error.status ≠ .permissionDenied := by
  rcases self.sealSharedRegion_cases handle with ⟨hseal, -⟩ | ⟨slot, -, -, hseal⟩
  · rw [hseal] at h
    cases h
    decide
  · rw [hseal] at h
    contradiction

end MemoryManager

namespace DeviceRegistry

/-- An available device, usable by the caller but for the capabilities it requires. -/
def Withholds (devices : DeviceRegistry) (id : DeviceId) (caller : CapabilitySet)
    (usable : DeviceDescriptor → Bool) : Prop :=
  ∃ descriptor, devices.get id = some descriptor ∧ descriptor.isAvailable = true ∧
    usable descriptor = true ∧
    caller.containsAll descriptor.requiredCapabilities = false

theorem authorizeOpen_denied_iff (self : DeviceRegistry) (id : DeviceId)
    {caller : CapabilitySet} (hcaller : caller.contains .deviceOpen = true) :
    (∃ error, self.authorizeOpen id caller = .error error ∧
        error.status = .permissionDenied) ↔
      self.Withholds id caller fun _ => true := by
  unfold authorizeOpen Withholds
  rw [CapabilitySet.require, if_pos hcaller]
  cases self.get id with
  | none => simp [KernelError.status]
  | some descriptor =>
      cases hready : descriptor.isAvailable <;>
        cases hheld : caller.containsAll descriptor.requiredCapabilities <;>
        simp [hready, hheld, KernelError.status]

theorem authorizeCall_denied_iff (self : DeviceRegistry) (id : DeviceId)
    (operation : DeviceOperation) {caller : CapabilitySet}
    (hcaller : caller.contains .deviceCall = true) (inputLen outputLen : UInt64) :
    (∃ error, self.authorizeCall id operation caller inputLen outputLen = .error error ∧
        error.status = .permissionDenied) ↔
      self.Withholds id caller fun descriptor => descriptor.supports operation := by
  unfold authorizeCall Withholds
  rw [CapabilitySet.require, if_pos hcaller]
  cases self.get id with
  | none => simp [KernelError.status]
  | some descriptor =>
      cases hready : descriptor.isAvailable <;>
        cases hsupported : descriptor.supports operation <;>
        cases hheld : caller.containsAll descriptor.requiredCapabilities <;>
        by_cases hlarge : descriptor.maxInputLen.toUInt64 < inputLen ∨
          descriptor.maxOutputLen.toUInt64 < outputLen <;>
        simp [hready, hsupported, hheld, hlarge, KernelError.status]

end DeviceRegistry

namespace Kernel

/-! ## Which handlers deny -/

theorem sysExit_not_denied (self : Kernel) (taskId : TaskId) :
    (self.sysExit taskId).1.status ≠ .permissionDenied := by
  unfold sysExit
  cases hcancel : self.scheduler.cancel taskId with
  | mk reply scheduler =>
      cases reply with
      | ok record => simp
      | error error => exact Scheduler.cancel_not_denied (by rw [hcancel])

theorem sysTaskCancel_not_denied (self : Kernel) (frame : SyscallFrame) :
    (self.sysTaskCancel frame).1.status ≠ .permissionDenied :=
  self.sysExit_not_denied frame.arg0

/-- The manifest is read under the read flag, which is the one that reading needs. -/
theorem validateManifest_not_denied {self : Kernel} {frame : SyscallFrame}
    {error : KernelError} (h : self.validateManifest frame = .error error) :
    error.status ≠ .permissionDenied := by
  unfold validateManifest at h
  split at h
  · cases hbuffer : self.memory.validateUserBuffer
        (.new frame.arg0 frame.arg1 userBufferRead) .read with
    | ok validated =>
        dsimp only at h
        rw [hbuffer] at h
        contradiction
    | error first =>
        dsimp only at h
        rw [hbuffer, Except.error.injEq] at h
        subst h
        intro hdenied
        have hmissing := (self.memory.validateUserBuffer_denied_iff _ _).mp
          ⟨first, hbuffer, hdenied⟩
        have hflags : userBufferRead &&& userBufferRead = userBufferRead := by decide
        exact hmissing.2.2 hflags
  · contradiction

theorem sysTaskSpawn_not_denied (self : Kernel) (frame : SyscallFrame)
    (context : DispatchContext) :
    (self.sysTaskSpawn frame context).1.status ≠ .permissionDenied := by
  unfold sysTaskSpawn
  cases hmanifest : self.validateManifest frame with
  | error error => exact validateManifest_not_denied hmanifest
  | ok =>
      dsimp only
      split
      · generalize (if frame.arg3.toUInt8 = 0 then defaultPriority
          else frame.arg3.toUInt8) = priority
        cases hspawn : self.scheduler.spawn context.taskId .runtime priority .empty
            .unlimited with
        | mk reply scheduler =>
            cases reply with
            | ok taskId => simp
            | error error => exact Scheduler.spawn_not_denied (by rw [hspawn])
      · simp [KernelError.status]

theorem sysMemRange_not_denied (self : Kernel) (frame : SyscallFrame) :
    (self.sysMemRange frame).status ≠ .permissionDenied := by
  unfold sysMemRange
  cases hrange : self.memory.validateUserRange frame.arg0 frame.arg1 with
  | ok => simp
  | error error =>
      rw [SyscallResult.status_error, MemoryManager.validateUserRange_error hrange]
      decide

theorem sysMemShare_not_denied (self : Kernel) (frame : SyscallFrame) (taskId : TaskId) :
    (self.sysMemShare frame taskId).1.status ≠ .permissionDenied := by
  unfold sysMemShare MemoryPermissions.fromBits
  split_ifs
  · dsimp only
    cases hshare : self.memory.shareRegion taskId frame.arg0 frame.arg1
        ⟨frame.arg2.toUInt32⟩ with
    | mk reply memory =>
        cases reply with
        | ok handle => simp
        | error error => exact MemoryManager.shareRegion_not_denied (by rw [hshare])
  · simp [KernelError.status]

theorem sysMemSeal_not_denied (self : Kernel) (frame : SyscallFrame) (taskId : TaskId) :
    (self.sysMemSeal frame taskId).1.status ≠ .permissionDenied := by
  unfold sysMemSeal
  dsimp only
  cases hseal : self.memory.sealSharedRegion
      { id := frame.arg0, ownerTask := taskId, permissions := 0 } with
  | mk reply memory =>
      cases reply with
      | ok => simp
      | error error => exact MemoryManager.sealSharedRegion_not_denied (by rw [hseal])

theorem sysInfer_not_denied (frame : SyscallFrame) :
    (sysInfer frame).status ≠ .permissionDenied := by
  unfold sysInfer
  split <;> simp [KernelError.status]

theorem sysDeviceOpen_denied_iff (self : Kernel) (frame : SyscallFrame)
    {caller : CapabilitySet} (hcaller : caller.contains .deviceOpen = true) :
    (self.sysDeviceOpen frame caller).status = .permissionDenied ↔
      self.devices.Withholds frame.arg0 caller fun _ => true := by
  rw [← self.devices.authorizeOpen_denied_iff frame.arg0 hcaller]
  unfold sysDeviceOpen
  cases self.devices.authorizeOpen frame.arg0 caller with
  | ok descriptor => simp
  | error error => simp

theorem sysDeviceCall_denied_iff (self : Kernel) (frame : SyscallFrame)
    {caller : CapabilitySet} (hcaller : caller.contains .deviceCall = true) :
    (self.sysDeviceCall frame caller).status = .permissionDenied ↔
      ∃ operation, DeviceOperation.fromRaw frame.arg1 = some operation ∧
        self.devices.Withholds frame.arg0 caller
          fun descriptor => descriptor.supports operation := by
  unfold sysDeviceCall
  cases DeviceOperation.fromRaw frame.arg1 with
  | none => simp [KernelError.status]
  | some operation =>
      simp only [Option.some.injEq, exists_eq_left']
      rw [← self.devices.authorizeCall_denied_iff frame.arg0 operation hcaller frame.arg3
        frame.arg5]
      cases self.devices.authorizeCall frame.arg0 operation caller frame.arg3 frame.arg5 with
      | ok descriptor => simp
      | error error => simp

/-- A device call that the dispatcher accepts and the device's own row withholds. -/
def WithheldDevice (self : Kernel) (call : SyscallCall) : Prop :=
  call.frame.number = SyscallNumber.sysDeviceOpen.toUInt64 ∧ call.Wields .deviceOpen ∧
      self.devices.Withholds call.frame.arg0 call.context.capabilities (fun _ => true) ∨
    call.frame.number = SyscallNumber.sysDeviceCall.toUInt64 ∧ call.Wields .deviceCall ∧
      ∃ operation, DeviceOperation.fromRaw call.frame.arg1 = some operation ∧
        self.devices.Withholds call.frame.arg0 call.context.capabilities
          fun descriptor => descriptor.supports operation

theorem withheldDevice_open_iff (self : Kernel) {call : SyscallCall}
    (h : call.accepted = some .sysDeviceOpen) :
    self.WithheldDevice call ↔
      self.devices.Withholds call.frame.arg0 call.context.capabilities
        fun _ => true := by
  obtain ⟨hnumber, hwields⟩ := SyscallDispatcher.guarded_deviceOpen.accepted_iff.mp h
  constructor
  · rintro (⟨-, -, hwithheld⟩ | ⟨hother, -⟩)
    · exact hwithheld
    · rw [hnumber] at hother
      contradiction
  · exact fun hwithheld => .inl ⟨hnumber, hwields, hwithheld⟩

theorem withheldDevice_call_iff (self : Kernel) {call : SyscallCall}
    (h : call.accepted = some .sysDeviceCall) :
    self.WithheldDevice call ↔
      ∃ operation, DeviceOperation.fromRaw call.frame.arg1 = some operation ∧
        self.devices.Withholds call.frame.arg0 call.context.capabilities
          fun descriptor => descriptor.supports operation := by
  obtain ⟨hnumber, hwields⟩ := SyscallDispatcher.guarded_deviceCall.accepted_iff.mp h
  constructor
  · rintro (⟨hother, -⟩ | ⟨-, -, hwithheld⟩)
    · rw [hnumber] at hother
      contradiction
    · exact hwithheld
  · exact fun hwithheld => .inr ⟨hnumber, hwields, hwithheld⟩

theorem not_deniable {self : Kernel} {call : SyscallCall} {number : SyscallNumber}
    (h : call.accepted = some number)
    (hother : number ∉ [.sysInfo, .sysDeviceOpen, .sysDeviceCall]) :
    ¬ (UnwritableInfo call.frame ∨ self.WithheldDevice call) := by
  have hname : ∀ named : SyscallNumber,
      call.frame.number = named.toUInt64 → number = named :=
    fun named hnamed => SyscallDispatcher.accepted_of_number hnamed h
  rintro (⟨hinfo, -⟩ | ⟨hopen, -⟩ | ⟨hcall, -⟩)
  · exact hother (by simp [hname .sysInfo hinfo])
  · exact hother (by simp [hname .sysDeviceOpen hopen])
  · exact hother (by simp [hname .sysDeviceCall hcall])

theorem handler_denied_iff (self : Kernel) {call : SyscallCall} {number : SyscallNumber}
    (h : call.accepted = some number) :
    (self.dispatchValidated number call.frame call.context).1.status =
        .permissionDenied ↔
      UnwritableInfo call.frame ∨ self.WithheldDevice call := by
  have hnumber := SyscallDispatcher.accepted_number h
  cases number with
  | sysInfo =>
      have hdevice : ¬ self.WithheldDevice call := by
        rintro (⟨hopen, -⟩ | ⟨hcall, -⟩)
        · rw [hnumber] at hopen
          contradiction
        · rw [hnumber] at hcall
          contradiction
      rw [dispatchValidated, sysInfo_denied_iff]
      simp [UnwritableInfo, hnumber, hdevice]
  | sysDeviceOpen =>
      have hinfo : ¬ UnwritableInfo call.frame := by
        rintro ⟨hinfo, -⟩
        rw [hnumber] at hinfo
        contradiction
      have hcaller := (SyscallDispatcher.guarded_deviceOpen.accepted_iff.mp h).2.2
      rw [dispatchValidated, sysDeviceOpen_denied_iff self call.frame hcaller,
        withheldDevice_open_iff self h]
      simp [hinfo]
  | sysDeviceCall =>
      have hinfo : ¬ UnwritableInfo call.frame := by
        rintro ⟨hinfo, -⟩
        rw [hnumber] at hinfo
        contradiction
      have hcaller := (SyscallDispatcher.guarded_deviceCall.accepted_iff.mp h).2.2
      rw [dispatchValidated, sysDeviceCall_denied_iff self call.frame hcaller,
        withheldDevice_call_iff self h]
      simp [hinfo]
  | sysYield => exact iff_of_false self.sysYield_not_denied (not_deniable h (by decide))
  | sysExit => exact iff_of_false (self.sysExit_not_denied _) (not_deniable h (by decide))
  | sysTaskSpawn =>
      exact iff_of_false (self.sysTaskSpawn_not_denied _ _) (not_deniable h (by decide))
  | sysTaskCancel =>
      exact iff_of_false (self.sysTaskCancel_not_denied _) (not_deniable h (by decide))
  | sysTaskStatus =>
      exact iff_of_false (self.sysTaskStatus_not_denied _) (not_deniable h (by decide))
  | sysMemMap | sysMemUnmap =>
      exact iff_of_false (self.sysMemRange_not_denied _) (not_deniable h (by decide))
  | sysMemShare =>
      exact iff_of_false (self.sysMemShare_not_denied _ _) (not_deniable h (by decide))
  | sysMemSeal =>
      exact iff_of_false (self.sysMemSeal_not_denied _ _) (not_deniable h (by decide))
  | sysInfer => exact iff_of_false (sysInfer_not_denied _) (not_deniable h (by decide))
  | sysRandom =>
      exact iff_of_false (self.sysRandom_not_denied _) (not_deniable h (by decide))
  | sysTime | sysTraceContext | sysTaskJoin | sysMemQuery | sysDeviceList
  | sysDeviceClose | sysModelList | sysModelOpen | sysMemoryQuery | sysMemoryPut
  | sysCapDerive | sysCapRevoke | sysAttest | sysAuditAppend | sysAuditQuery
  | sysAuditVerify =>
      exact iff_of_false (by simp [dispatchValidated, sysMemQuery])
        (not_deniable h (by decide))

/-! ## How a fault is classified -/

/-- The phase and the severity that the fault of a failed call should carry. -/
structure Classified (call : SyscallCall) (returned : KernelStatus) (fault : FaultRecord) :
    Prop where
  phase : fault.phase = if call.context.execution = .earlyBoot then .boot else .runtime
  severity : fault.severity = if returned = .permissionDenied then .error else .warning

def FaultClassified (self : Kernel) (call : SyscallCall) : Prop :=
  (self.step call).1.status ≠ .ok →
    ∃ fault, (self.step call).2.faults = self.faults.record fault ∧
      Classified call (self.step call).1.status fault

def RefusedBootInfo (self : Kernel) (call : SyscallCall) : Prop :=
  call.frame.number = SyscallNumber.sysInfo.toUInt64 ∧
    call.context.execution = .earlyBoot ∧ ¬ self.InfoAccepted call.frame

theorem classified_of_rejected {self : Kernel} {call : SyscallCall} {error : KernelError}
    (h : SyscallDispatcher.validate call.frame call.context = .error error) :
    self.FaultClassified call := by
  intro _
  rw [step_of_rejected h]
  exact ⟨_, rfl, rfl, rfl⟩

theorem Classified.of_record {faults : FaultReporter} {call : SyscallCall}
    {returned : KernelStatus} {fault other : FaultRecord}
    (h : Classified call returned fault) (hsame : faults.record other = faults.record fault) :
    Classified call returned other := by
  have hlast := congrArg (fun reporter : FaultReporter => reporter.last) hsame
  simp only [FaultReporter.last_record, Option.some.injEq] at hlast
  have hphase := congrArg FaultRecord.phase hlast
  have hseverity := congrArg FaultRecord.severity hlast
  exact ⟨hphase.trans h.phase, hseverity.trans h.severity⟩

/-- The fault of a failed handler is a warning of the runtime, whatever failed. -/
theorem classified_of_failed {self : Kernel} {call : SyscallCall}
    {descriptor : SyscallDescriptor}
    (h : SyscallDispatcher.validate call.frame call.context = .ok descriptor)
    (hfailed : (self.step call).1.status ≠ .ok) :
    self.FaultClassified call ↔
      call.context.execution ≠ .earlyBoot ∧
        (self.step call).1.status ≠ .permissionDenied := by
  have hisOk : (self.step call).1.status.isOk = false := by
    rwa [← Bool.not_eq_true, KernelStatus.isOk_iff]
  have hfaults : (self.step call).2.faults =
      reportOutcome self.faults call.frame call.context (self.step call).1 :=
    faults_of_validated h
  rw [reportOutcome, hisOk, Bool.not_false, if_pos rfl] at hfaults
  constructor
  · intro hclassified
    obtain ⟨fault, hfault, hclass⟩ := hclassified hfailed
    have hrecorded := hclass.of_record (hfaults.symm.trans hfault)
    have hphase := hrecorded.phase
    have hseverity := hrecorded.severity
    constructor
    · intro hboot
      rw [if_pos hboot] at hphase
      contradiction
    · intro hdenied
      rw [if_pos hdenied] at hseverity
      contradiction
  · rintro ⟨hboot, hdenied⟩ -
    exact ⟨_, hfaults, (if_neg hboot).symm, (if_neg hdenied).symm⟩

theorem bootHandler_failed_iff (self : Kernel) {call : SyscallCall}
    {number : SyscallNumber} (h : call.accepted = some number)
    (hfailed : (self.dispatchValidated number call.frame call.context).1.status ≠ .ok) :
    call.context.execution = .earlyBoot ↔ self.RefusedBootInfo call := by
  constructor
  · intro hboot
    have hopen : number ∈ [.sysInfo, .sysTime, .sysTraceContext] := by
      by_contra hclosed
      have htask := SyscallDispatcher.accepted_task h hclosed
      rw [hboot] at htask
      contradiction
    simp only [List.mem_cons, List.not_mem_nil, or_false] at hopen
    rcases hopen with rfl | rfl | rfl
    · refine ⟨SyscallDispatcher.accepted_number h, hboot, fun haccepted => ?_⟩
      rw [dispatchValidated, sysInfo_of_accepted haccepted] at hfailed
      contradiction
    · contradiction
    · contradiction
  · exact fun hinfo => hinfo.2.1

theorem accepted_of_misclassified {self : Kernel} {call : SyscallCall}
    (h : self.RefusedBootInfo call ∨ UnwritableInfo call.frame ∨
      self.WithheldDevice call) : ∃ number, call.accepted = some number := by
  rcases h with hinfo | hinfo | hopen | hcall
  · exact ⟨_, SyscallDispatcher.accepted_sysInfo hinfo.1 _⟩
  · exact ⟨_, SyscallDispatcher.accepted_sysInfo hinfo.1 _⟩
  · exact ⟨_, SyscallDispatcher.guarded_deviceOpen.accepted_iff.mpr ⟨hopen.1, hopen.2.1⟩⟩
  · exact ⟨_, SyscallDispatcher.guarded_deviceCall.accepted_iff.mpr ⟨hcall.1, hcall.2.1⟩⟩

/--
The two failure paths agree but where a handler fails in early boot or denies:
the handler path takes every failure for a warning of the runtime.
-/
theorem faultClassified_iff (self : Kernel) (call : SyscallCall) :
    self.FaultClassified call ↔
      ¬ (self.RefusedBootInfo call ∨ UnwritableInfo call.frame ∨
        self.WithheldDevice call) := by
  cases hvalid : SyscallDispatcher.validate call.frame call.context with
  | error error =>
      apply iff_of_true (classified_of_rejected hvalid)
      intro hexception
      obtain ⟨number, haccepted⟩ := accepted_of_misclassified hexception
      have hnone := SyscallDispatcher.accepted_of_error hvalid
      rw [SyscallCall.accepted, hnone] at haccepted
      contradiction
  | ok descriptor =>
      have haccepted : call.accepted = some descriptor.number :=
        SyscallDispatcher.accepted_of_ok hvalid
      have hresult : (self.step call).1 =
          (self.dispatchValidated descriptor.number call.frame call.context).1 :=
        (result_of_accepted haccepted).1
      have hdenied := self.handler_denied_iff haccepted
      rw [← hresult] at hdenied
      by_cases hfailed : (self.step call).1.status = .ok
      · apply iff_of_true (fun hne => absurd hfailed hne)
        rintro (hinfo | hexception)
        · have hnumber := SyscallDispatcher.accepted_of_number hinfo.1 haccepted
          rw [hresult, hnumber] at hfailed
          exact sysInfo_of_not_accepted hinfo.2.2 hfailed
        · rw [hdenied.mpr hexception] at hfailed
          contradiction
      · have hboot := self.bootHandler_failed_iff haccepted (by rwa [hresult] at hfailed)
        rw [classified_of_failed hvalid hfailed, ne_eq, ne_eq, hboot, hdenied, not_or, not_or,
          not_or]

def emptyBootInfo : SyscallCall :=
  { frame := .new .sysInfo #v[0, 0, 2, 0, 0, 0]
    context := { taskId := 0, capabilities := .empty, execution := .earlyBoot } }

theorem not_faultClassified_emptyBootInfo : ¬ new.FaultClassified emptyBootInfo := by
  obtain ⟨descriptor, hvalid⟩ : ∃ descriptor,
      SyscallDispatcher.validate emptyBootInfo.frame emptyBootInfo.context =
        .ok descriptor := ⟨_, rfl⟩
  rw [classified_of_failed hvalid (by decide)]
  exact fun h => h.1 rfl

end Kernel

end AlaniKernel
