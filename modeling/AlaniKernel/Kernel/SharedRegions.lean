import AlaniKernel.Kernel.Isolation
import AlaniKernel.Memory.Permissions

/-!
# Where the shared regions of a run come from

Every region that syscalls leave shared was the subject of one successful
`sys_mem_share`, lies in user memory, and carries its seal in its flags.
-/

namespace AlaniKernel

open AlaniKernel.Foundation

namespace MemoryManager

theorem acceptedRange_congr {self other : MemoryManager}
    (h : self.settings = other.settings) (ptr len : UInt64) :
    self.AcceptedRange ptr len ↔ other.AcceptedRange ptr len := by
  rw [← validateUserRange_iff, ← validateUserRange_iff, validateUserRange_congr h]

theorem not_sealed_of_shared {self : MemoryManager} {ownerTask : TaskId}
    {start len : UInt64} {permissions : MemoryPermissions} {handle : SharedMemoryHandle}
    (h : (self.shareRegion ownerTask start len permissions).1 = .ok handle) :
    MemoryFlag.sealed ∉ permissions.flags := by
  have hrefused : permissions.contains .sealed = false := by
    rw [← Bool.not_eq_true]
    intro hsealed
    unfold shareRegion at h
    cases hrange : self.validateUserRange start len with
    | error error => simp [hrange] at h
    | ok => simp [hrange, hsealed] at h
  rwa [← Bool.not_eq_true, permissions.contains_sealed_iff] at hrefused

end MemoryManager

namespace Kernel

open MemoryManager

/-- What the memory manager of a kernel lets a region be. -/
structure Proper (memory : MemoryManager) (region : SharedRegion) : Prop where
  accepted : memory.AcceptedRange region.start region.len
  known : MemoryFlag.Only region.handle.permissions
  sealed_iff : region.isSealed = true ↔ .sealed ∈ region.flags
  readOnly : region.isSealed = true → .write ∉ region.flags

theorem Proper.sealRegion {memory : MemoryManager} {region : SharedRegion}
    (h : Proper memory region) : Proper memory (MemoryManager.sealRegion region) := by
  refine ⟨h.accepted, SharedRegion.only_sealRegion h.known, ?_, fun _ => ?_⟩
  · rw [SharedRegion.flags_sealRegion]
    exact iff_of_true rfl (Finset.mem_insert_self _ _)
  · rw [SharedRegion.flags_sealRegion]
    simp

structure Shared (event : SyscallCall × SyscallResult) (region : SharedRegion) : Prop where
  accepted : event.1.accepted = some .sysMemShare
  ok : event.2.status = .ok
  id : event.2.value = region.handle.id
  start : event.1.frame.arg0 = region.start
  len : event.1.frame.arg1 = region.len
  owner : event.1.context.taskId = region.handle.ownerTask

/-- Every live region is proper, and some call of the history shared it. -/
def Accounted (first : MemoryManager) (kernel : Kernel)
    (events : List (SyscallCall × SyscallResult)) : Prop :=
  kernel.memory.settings = first.settings ∧
    ∀ i, kernel.memory.Live i → Proper first (kernel.memory.regionAt i) ∧
      ∃ event ∈ events, Shared event (kernel.memory.regionAt i)

theorem memoryOp_eq_share {call : SyscallCall} {ownerTask : TaskId} {start len : UInt64}
    {permissions : MemoryPermissions}
    (h : memoryOp call = some (.shareRegion ownerTask start len permissions)) :
    call.accepted = some .sysMemShare ∧
      MemoryPermissions.fromBits call.frame.arg2.toUInt32 = .ok permissions ∧
      ownerTask = call.context.taskId ∧ start = call.frame.arg0 ∧
      len = call.frame.arg1 := by
  cases haccepted : call.accepted with
  | none => simp [memoryOp, haccepted] at h
  | some number =>
      rw [memoryOp, haccepted, Option.bind_some] at h
      cases number with
      | sysMemShare =>
          rw [memoryCall] at h
          cases hbits : MemoryPermissions.fromBits call.frame.arg2.toUInt32 with
          | error error => simp [hbits] at h
          | ok found =>
              simp only [hbits, Option.some.injEq, MemoryOp.shareRegion.injEq] at h
              obtain ⟨rfl, rfl, rfl, rfl⟩ := h
              exact ⟨rfl, rfl, rfl, rfl, rfl⟩
      | sysMemSeal => simp [memoryCall] at h
      | sysInfo | sysYield | sysExit | sysTime | sysTraceContext | sysTaskSpawn
      | sysTaskJoin | sysTaskCancel | sysTaskStatus | sysMemMap | sysMemUnmap
      | sysMemQuery | sysDeviceList | sysDeviceOpen | sysDeviceCall | sysDeviceClose
      | sysModelList | sysModelOpen | sysInfer | sysMemoryQuery | sysMemoryPut
      | sysCapDerive | sysCapRevoke | sysAttest | sysRandom | sysAuditAppend
      | sysAuditQuery | sysAuditVerify => simp [memoryCall] at h

theorem result_memShare {self : Kernel} {call : SyscallCall}
    {permissions : MemoryPermissions} {handle : SharedMemoryHandle}
    (haccepted : call.accepted = some .sysMemShare)
    (hbits : MemoryPermissions.fromBits call.frame.arg2.toUInt32 = .ok permissions)
    (hshare : (self.memory.shareRegion call.context.taskId call.frame.arg0 call.frame.arg1
      permissions).1 = .ok handle) :
    (self.step call).1 = .ok handle.id handle.permissions.toUInt64 := by
  have hresult : (self.step call).1 =
      (self.dispatchValidated .sysMemShare call.frame call.context).1 :=
    (result_of_accepted haccepted).1
  rw [hresult]
  simp only [dispatchValidated, sysMemShare, hbits]
  generalize self.memory.shareRegion call.context.taskId call.frame.arg0 call.frame.arg1
    permissions = outcome at hshare
  obtain ⟨reply, memory⟩ := outcome
  cases hshare
  rfl

theorem Accounted.step {first : MemoryManager} {self : Kernel}
    {events : List (SyscallCall × SyscallResult)} (h : Accounted first self events)
    (call : SyscallCall) :
    Accounted first (self.step call).2 (events ++ [(call, (self.step call).1)]) := by
  obtain ⟨hsettings, hregions⟩ := h
  refine ⟨(settings_syscall self call).trans hsettings, ?_⟩
  have hkept : ∀ i, self.memory.Live i → Proper first (self.memory.regionAt i) ∧
      ∃ event ∈ events ++ [(call, (self.step call).1)],
        Shared event (self.memory.regionAt i) := by
    intro i hi
    obtain ⟨hproper, event, hevent, hshared⟩ := hregions i hi
    exact ⟨hproper, event, List.mem_append_left _ hevent, hshared⟩
  rw [(self.effect_step call).memory]
  cases hop : memoryOp call with
  | none => exact hkept
  | some op =>
      rw [Option.elim_some]
      rcases (memoryOp_cases hop).2 with ⟨permissions, rfl⟩ | ⟨-, rfl⟩
      · obtain ⟨haccepted, hbits, -⟩ := memoryOp_eq_share hop
        simp only [MemoryManager.step]
        rcases self.memory.shareRegion_cases call.context.taskId call.frame.arg0
          call.frame.arg1 permissions with
          ⟨error, hshare⟩ | ⟨slot, nextSharedId, -, -, hshare⟩
        · rw [hshare]
          exact hkept
        · have hok := congrArg Prod.fst hshare
          have hresult := result_memShare haccepted hbits hok
          have hrange := (acceptedRange_congr hsettings _ _).mp (acceptedRange_of_shared hok)
          rw [hshare]
          intro i hi
          by_cases hne : i = slot
          · rw [hne, regionAt_withShared_self]
            obtain ⟨hword, hknown⟩ := MemoryPermissions.fromBits_ok_iff.mp hbits
            rw [← hword] at hknown
            refine ⟨⟨hrange, hknown, ?_, fun hsealed => ?_⟩,
              (call, (self.step call).1), by simp, ?_⟩
            · exact iff_of_false Bool.false_ne_true (not_sealed_of_shared hok)
            · contradiction
            · rw [hresult]
              exact ⟨haccepted, rfl, rfl, rfl, rfl, rfl⟩
          · rw [MemoryManager.Live, regionAt_withShared_of_ne _ hne] at hi
            rw [regionAt_withShared_of_ne _ hne]
            exact hkept i hi
      · simp only [MemoryManager.step]
        rcases self.memory.sealSharedRegion_cases (sealHandle call.frame call.context) with
          ⟨hseal, -⟩ | ⟨slot, hlive, -, hseal⟩
        · rw [hseal]
          exact hkept
        · rw [hseal]
          intro i hi
          by_cases hne : i = slot
          · obtain ⟨hproper, event, hevent, hshared⟩ := hkept slot hlive
            rw [hne, regionAt_withSealed_self]
            exact ⟨hproper.sealRegion, event, hevent,
              ⟨hshared.accepted, hshared.ok, hshared.id, hshared.start, hshared.len,
                hshared.owner⟩⟩
          · rw [MemoryManager.Live, regionAt_withSealed_of_ne _ hne] at hi
            rw [regionAt_withSealed_of_ne _ hne]
            exact hkept i hi

theorem Fresh.memory {self : Kernel} (h : self.Fresh) :
    self.memory.settings = MemoryManager.new.settings ∧ ∀ i, ¬ self.memory.Live i := by
  rcases h with rfl | rfl
  · exact ⟨rfl, not_live_new⟩
  · rw [memory_initializeHost]
    refine ⟨by decide, ?_⟩
    decide +kernel

/--
Every region that is shared after a run was shared by one of its calls, with
that range and by that task.  It lies in user memory, has known flags only, and
is sealed exactly when its flags say so, in which case it is not writable.
-/
theorem shared_regions_accounted (self : Kernel) (h : self.Fresh) (calls : List SyscallCall)
    (i : Fin maxSharedRegions) (hi : (run step self calls).memory.Live i) :
    ((run step self calls).memory.regionAt i).start.toNat +
          ((run step self calls).memory.regionAt i).len.toNat ≤ 2 ^ 47 ∧
      2 ^ 12 ≤ ((run step self calls).memory.regionAt i).start.toNat ∧
      1 ≤ ((run step self calls).memory.regionAt i).len.toNat ∧
      ((run step self calls).memory.regionAt i).len.toNat ≤ 2 ^ 24 ∧
      Proper new.memory ((run step self calls).memory.regionAt i) ∧
      ∃ event ∈ history step self calls,
        Shared event ((run step self calls).memory.regionAt i) := by
  have hstart : Accounted new.memory self [] :=
    ⟨h.memory.1, fun i hi => absurd hi (h.memory.2 i)⟩
  have hrun : Accounted new.memory (run step self calls) (history step self calls) :=
    run_history_invariant (fun kernel events call h => h.step call) hstart calls
  obtain ⟨hproper, hshared⟩ := hrun.2 i hi
  exact ⟨hproper.accepted.below, hproper.accepted.above, hproper.accepted.nonempty,
    hproper.accepted.short, hproper, hshared⟩

theorem shared_regions_accounted_page :
    ∃ event ∈ history step new.initializeHost.2
        [⟨.new .sysMemShare #v[0x1000, 64, 3, 0, 0, 0], .task 1 (.single .memoryShare)⟩],
      Shared event ((run step new.initializeHost.2
        [⟨.new .sysMemShare #v[0x1000, 64, 3, 0, 0, 0],
          .task 1 (.single .memoryShare)⟩]).memory.regionAt 0) :=
  (shared_regions_accounted _ (.inr rfl) _ 0 (by decide +kernel)).2.2.2.2.2

end Kernel

end AlaniKernel
