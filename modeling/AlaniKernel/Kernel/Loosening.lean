import AlaniKernel.Kernel.Isolation
import AlaniKernel.Memory.Validation

/-!
# Limits only refuse

The settings of the memory manager are compared with arguments and stored
nowhere.  A call that completes does the same under looser settings.
-/

namespace AlaniKernel

open AlaniKernel.Foundation

namespace MemoryManager

def under (self : MemoryManager) (settings : Settings) : MemoryManager :=
  { self with
    userLowerBound := settings.lower
    userUpperBound := settings.upper
    maxUserBufferLen := settings.longest
    minimumUserAlignment := settings.alignment }

/-- Settings that the setters allow, and that refuse no range that others accept. -/
structure Settings.Loosens (looser tighter : Settings) : Prop where
  lower_pos : 0 < looser.lower.toNat
  power : looser.alignment.toNat.isPowerOfTwo
  tighterPower : tighter.alignment.toNat.isPowerOfTwo
  longest : tighter.longest.toNat ≤ looser.longest.toNat
  lower : looser.lower.toNat ≤ tighter.lower.toNat
  upper : tighter.upper.toNat ≤ looser.upper.toNat
  alignment : looser.alignment.toNat ∣ tighter.alignment.toNat

section Loosened

variable {self : MemoryManager} {looser : Settings} (h : looser.Loosens self.settings)

include h

theorem validateUserRange_under {ptr len : UInt64}
    (hok : self.validateUserRange ptr len = .ok ()) :
    (self.under looser).validateUserRange ptr len = .ok () := by
  have hself : self.Configured :=
    ⟨Nat.lt_of_lt_of_le h.lower_pos h.lower, h.tighterPower⟩
  have hunder : (self.under looser).Configured := ⟨h.lower_pos, h.power⟩
  rw [validateUserRange_iff, hself.acceptedRange_iff] at hok
  rw [validateUserRange_iff, hunder.acceptedRange_iff]
  exact
    { nonempty := hok.nonempty
      short := hok.short.trans h.longest
      above := h.lower.trans hok.above
      below := hok.below.trans h.upper
      aligned := h.alignment.trans hok.aligned }

theorem validateUserBuffer_under {buffer : UserBuffer} {access : BufferAccess}
    {validated : ValidatedUserBuffer}
    (hok : self.validateUserBuffer buffer access = .ok validated) :
    (self.under looser).validateUserBuffer buffer access = .ok validated := by
  rw [validateUserBuffer_iff, ← validateUserRange_iff] at hok ⊢
  obtain ⟨hvalidated, hreserved, hflags, hrange⟩ := hok
  exact ⟨hvalidated, hreserved, hflags, validateUserRange_under h hrange⟩

end Loosened

/-- What a share does once its range has been checked. -/
def shareChecked (self : MemoryManager) (ownerTask : TaskId) (start len : UInt64)
    (permissions : MemoryPermissions) : KernelResult SharedMemoryHandle × MemoryManager :=
  if permissions.contains .sealed then (.error .sealed, self)
  else
    match position self.sharedRegions (·.handle.id == 0) with
    | none => (.error .capacityExceeded, self)
    | some slot =>
        match checkedAdd64 self.nextSharedId 1 with
        | none => (.error .internal, self)
        | some nextSharedId =>
            (.ok (self.newRegion ownerTask start len permissions).handle,
              self.withShared slot nextSharedId
                (self.newRegion ownerTask start len permissions))

theorem shareRegion_of_valid {self : MemoryManager} {ownerTask : TaskId} {start len : UInt64}
    {permissions : MemoryPermissions} (h : self.validateUserRange start len = .ok ()) :
    self.shareRegion ownerTask start len permissions =
      self.shareChecked ownerTask start len permissions := by
  simp only [shareRegion, h]
  rfl

section Under

variable (self : MemoryManager) (settings : Settings)

theorem shareChecked_under (ownerTask : TaskId) (start len : UInt64)
    (permissions : MemoryPermissions) :
    (self.under settings).shareChecked ownerTask start len permissions =
      ((self.shareChecked ownerTask start len permissions).1,
        (self.shareChecked ownerTask start len permissions).2.under settings) := by
  have hregions : (self.under settings).sharedRegions = self.sharedRegions := rfl
  have hnext : (self.under settings).nextSharedId = self.nextSharedId := rfl
  simp only [shareChecked, hregions, hnext]
  cases permissions.contains .sealed with
  | true => rfl
  | false =>
      cases position self.sharedRegions (·.handle.id == 0) with
      | none => rfl
      | some slot =>
          cases checkedAdd64 self.nextSharedId 1 with
          | none => rfl
          | some nextSharedId => rfl

theorem sealSharedRegion_under (handle : SharedMemoryHandle) :
    (self.under settings).sealSharedRegion handle =
      ((self.sealSharedRegion handle).1,
        (self.sealSharedRegion handle).2.under settings) := by
  have hregions : (self.under settings).sharedRegions = self.sharedRegions := rfl
  simp only [sealSharedRegion, hregions]
  cases position self.sharedRegions (namedBy handle) with
  | none => rfl
  | some slot => rfl

end Under

theorem shareRegion_under {self : MemoryManager} {looser : Settings}
    (h : looser.Loosens self.settings) {ownerTask : TaskId} {start len : UInt64}
    {permissions : MemoryPermissions} {handle : SharedMemoryHandle}
    (hok : (self.shareRegion ownerTask start len permissions).1 = .ok handle) :
    (self.under looser).shareRegion ownerTask start len permissions =
      ((self.shareRegion ownerTask start len permissions).1,
        (self.shareRegion ownerTask start len permissions).2.under looser) := by
  have hrange := (self.validateUserRange_iff start len).mpr (acceptedRange_of_shared hok)
  rw [shareRegion_of_valid (validateUserRange_under h hrange), shareRegion_of_valid hrange]
  exact self.shareChecked_under looser ownerTask start len permissions

end MemoryManager

namespace Kernel

def under (self : Kernel) (settings : MemoryManager.Settings) : Kernel :=
  { self with memory := self.memory.under settings }

section Loosened

variable {self : Kernel} {looser : MemoryManager.Settings}
  (h : looser.Loosens self.memory.settings) {frame : SyscallFrame}

include h

theorem sysInfo_under (hok : (self.sysInfo frame).status = .ok) :
    (self.under looser).sysInfo frame = self.sysInfo frame := by
  cases hbuffer : self.memory.validateUserBuffer
      (.new frame.arg0 frame.arg1 frame.arg2.toUInt32) .write with
  | error error =>
      simp only [sysInfo, hbuffer] at hok
      exact absurd hok error.status_ne_ok
  | ok validated =>
      have hunder := MemoryManager.validateUserBuffer_under h hbuffer
      simp only [sysInfo, under, hbuffer, hunder]

theorem sysRandom_under (hok : (self.sysRandom frame).status = .ok) :
    (self.under looser).sysRandom frame = self.sysRandom frame := by
  cases hbuffer : self.memory.validateUserBuffer
      (.new frame.arg0 frame.arg1 userBufferWrite) .write with
  | error error =>
      simp only [sysRandom, hbuffer] at hok
      exact absurd hok error.status_ne_ok
  | ok validated =>
      have hunder := MemoryManager.validateUserBuffer_under h hbuffer
      simp only [sysRandom, under, hbuffer, hunder]

theorem sysMemRange_under (hok : (self.sysMemRange frame).status = .ok) :
    (self.under looser).sysMemRange frame = self.sysMemRange frame := by
  cases hrange : self.memory.validateUserRange frame.arg0 frame.arg1 with
  | error error =>
      simp only [sysMemRange, hrange] at hok
      exact absurd hok error.status_ne_ok
  | ok =>
      have hunder := MemoryManager.validateUserRange_under h hrange
      simp only [sysMemRange, under, hrange, hunder]

theorem validateManifest_under (hok : self.validateManifest frame = .ok ()) :
    (self.under looser).validateManifest frame = .ok () := by
  unfold validateManifest at hok ⊢
  by_cases hempty : frame.arg1 ≠ 0
  · rw [if_pos hempty] at hok ⊢
    dsimp only at hok ⊢
    cases hbuffer : self.memory.validateUserBuffer
        (.new frame.arg0 frame.arg1 userBufferRead) .read with
    | error error =>
        rw [hbuffer] at hok
        contradiction
    | ok validated =>
        have hunder := MemoryManager.validateUserBuffer_under h hbuffer
        simp only [under, hunder]
  · rw [if_neg hempty]

theorem sysTaskSpawn_under {context : DispatchContext}
    (hok : (self.sysTaskSpawn frame context).1.status = .ok) :
    (self.under looser).sysTaskSpawn frame context =
      ((self.sysTaskSpawn frame context).1,
        (self.sysTaskSpawn frame context).2.under looser) := by
  cases hmanifest : self.validateManifest frame with
  | error error =>
      simp only [sysTaskSpawn, hmanifest] at hok
      exact absurd hok error.status_ne_ok
  | ok =>
      have hunder := validateManifest_under h hmanifest
      have hscheduler : (self.under looser).scheduler = self.scheduler := rfl
      simp only [sysTaskSpawn, hmanifest, hunder, hscheduler]
      split_ifs
      · generalize self.scheduler.spawn context.taskId .runtime defaultPriority .empty
          .unlimited = outcome
        rcases outcome with ⟨_ | _, scheduler⟩ <;> rfl
      · generalize self.scheduler.spawn context.taskId .runtime frame.arg3.toUInt8 .empty
          .unlimited = outcome
        rcases outcome with ⟨_ | _, scheduler⟩ <;> rfl
      · rfl

theorem sysMemShare_under {taskId : TaskId}
    (hok : (self.sysMemShare frame taskId).1.status = .ok) :
    (self.under looser).sysMemShare frame taskId =
      ((self.sysMemShare frame taskId).1,
        (self.sysMemShare frame taskId).2.under looser) := by
  cases hbits : MemoryPermissions.fromBits frame.arg2.toUInt32 with
  | error error =>
      simp only [sysMemShare, hbits]
  | ok permissions =>
      simp only [sysMemShare, hbits] at hok ⊢
      cases hshare : self.memory.shareRegion taskId frame.arg0 frame.arg1 permissions with
      | mk reply memory =>
          cases reply with
          | error error =>
              simp only [hshare] at hok
              exact absurd hok error.status_ne_ok
          | ok handle =>
              have hunder := MemoryManager.shareRegion_under h (congrArg Prod.fst hshare)
              rw [hshare] at hunder
              have hmemory : (self.under looser).memory = self.memory.under looser := rfl
              simp only [hmemory, hunder]
              rfl

theorem dispatchValidated_under {number : SyscallNumber} {context : DispatchContext}
    (hok : (self.dispatchValidated number frame context).1.status = .ok) :
    (self.under looser).dispatchValidated number frame context =
      ((self.dispatchValidated number frame context).1,
        (self.dispatchValidated number frame context).2.under looser) := by
  cases number with
  | sysInfo => exact congrArg (·, self.under looser) (sysInfo_under h hok)
  | sysRandom => exact congrArg (·, self.under looser) (sysRandom_under h hok)
  | sysMemMap | sysMemUnmap =>
      exact congrArg (·, self.under looser) (sysMemRange_under h hok)
  | sysTaskSpawn => exact sysTaskSpawn_under h hok
  | sysMemShare => exact sysMemShare_under h hok
  | sysMemSeal =>
      have hseal := self.memory.sealSharedRegion_under looser
        { id := frame.arg0, ownerTask := context.taskId, permissions := 0 }
      have hmemory : (self.under looser).memory = self.memory.under looser := rfl
      simp only [dispatchValidated, sysMemSeal, hmemory, hseal]
      generalize self.memory.sealSharedRegion
        { id := frame.arg0, ownerTask := context.taskId, permissions := 0 } = outcome
      rcases outcome with ⟨_ | _, memory⟩ <;> rfl
  | sysYield =>
      have hscheduler : (self.under looser).scheduler = self.scheduler := rfl
      simp only [dispatchValidated, sysYield, hscheduler]
      generalize self.scheduler.yieldCurrent = outcome
      rcases outcome with ⟨_ | _ | _, scheduler⟩ <;> rfl
  | sysExit =>
      have hscheduler : (self.under looser).scheduler = self.scheduler := rfl
      simp only [dispatchValidated, sysExit, hscheduler]
      generalize self.scheduler.cancel context.taskId = outcome
      rcases outcome with ⟨_ | _, scheduler⟩ <;> rfl
  | sysTaskCancel =>
      have hscheduler : (self.under looser).scheduler = self.scheduler := rfl
      simp only [dispatchValidated, sysTaskCancel, hscheduler]
      generalize self.scheduler.cancel frame.arg0 = outcome
      rcases outcome with ⟨_ | _, scheduler⟩ <;> rfl
  | sysTime | sysTraceContext | sysTaskJoin | sysTaskStatus | sysMemQuery
  | sysDeviceList | sysDeviceOpen | sysDeviceCall | sysDeviceClose | sysModelList
  | sysModelOpen | sysInfer | sysMemoryQuery | sysMemoryPut | sysCapDerive
  | sysCapRevoke | sysAttest | sysAuditAppend | sysAuditQuery | sysAuditVerify => rfl

theorem step_under {call : SyscallCall} (hok : (self.step call).1.status = .ok) :
    (self.under looser).step call =
      ((self.step call).1, (self.step call).2.under looser) := by
  cases hvalid : SyscallDispatcher.validate call.frame call.context with
  | error error =>
      rw [step, handleSyscall_of_rejected hvalid] at hok
      exact absurd hok error.status_ne_ok
  | ok descriptor =>
      rw [step, handleSyscall_of_validated hvalid] at hok
      have hdispatch := dispatchValidated_under h hok
      rw [step, step, handleSyscall_of_validated hvalid, handleSyscall_of_validated hvalid,
        hdispatch]
      rfl

end Loosened

/--
In a run in which every call completes, looser settings of the memory manager
change no result and nothing in the kernel that the run leaves.
-/
theorem run_under_looser (self : Kernel) (looser : MemoryManager.Settings)
    (h : looser.Loosens self.memory.settings) (calls : List SyscallCall)
    (hok : ∀ event ∈ history step self calls, event.2.status = .ok) :
    run step (self.under looser) calls = (run step self calls).under looser ∧
      history step (self.under looser) calls = history step self calls := by
  induction calls generalizing self with
  | nil => exact ⟨rfl, rfl⟩
  | cons call calls ih =>
      have hfirst : (self.step call).1.status = .ok := hok _ List.mem_cons_self
      have hstep := step_under h hfirst
      have hnext : looser.Loosens (self.step call).2.memory.settings := by
        rw [settings_syscall]
        exact h
      obtain ⟨hrun, hhistory⟩ := ih (self.step call).2 hnext fun event hevent =>
        hok event (List.mem_cons_of_mem _ hevent)
      simp only [run_cons, history, hstep]
      exact ⟨hrun, by rw [hhistory]⟩

theorem run_under_looser_pages :
    history step (new.under { new.memory.settings with longest := 0x2000000 })
        [⟨.new .sysMemShare #v[0x1000, 0x2000, 3, 0, 0, 0],
          .task 1 (.single .memoryShare)⟩] =
      history step new [⟨.new .sysMemShare #v[0x1000, 0x2000, 3, 0, 0, 0],
        .task 1 (.single .memoryShare)⟩] :=
  (run_under_looser new { new.memory.settings with longest := 0x2000000 }
    { lower_pos := by decide
      power := Nat.isPowerOfTwo_one
      tighterPower := Nat.isPowerOfTwo_one
      longest := by decide
      lower := by decide
      upper := by decide
      alignment := by decide } _ (by decide +kernel)).2

end Kernel

end AlaniKernel
