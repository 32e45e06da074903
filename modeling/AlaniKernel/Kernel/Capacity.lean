import AlaniKernel.Kernel.Atomicity
import AlaniKernel.Scheduler.Table
import Mathlib.Data.Set.Card

/-!
# Room for new tasks

The run queue gives no slot back, neither at an exit nor at a join.  A spawn
therefore finds room exactly while fewer tasks were ever spawned than the queue
has slots.
-/

namespace AlaniKernel

open AlaniKernel.Foundation

namespace Scheduler

theorem spawnedBy_of_not_spawn {self : Scheduler} {op : SchedulerOp}
    (hop : op.isSpawn = false) : spawnedBy (op, (self.step op).1) = none := by
  cases hid : spawnedBy (op, (self.step op).1) with
  | none => rfl
  | some taskId =>
      obtain ⟨-, -, _, _, _, _, _, _, rfl, -⟩ := spawnedBy_step hid
      contradiction

theorem SameTasks.occupied_eq {before after : Scheduler} (h : SameTasks before after) :
    after.occupied = before.occupied := by
  ext i
  rw [mem_occupied, mem_occupied]
  exact h.occupied i

/-- Every task that was spawned holds a slot, and no identifier was lost in between. -/
structure Tallies (sched : Scheduler) (taskIds : List TaskId) : Prop where
  reachable : sched.Reachable
  count : taskIds.length = sched.occupied.card
  below : ∀ taskId ∈ taskIds, taskId < sched.nextTaskId
  next : sched.occupied.card < 64 → sched.nextTaskId.toNat = sched.occupied.card + 1

theorem Tallies.step {self : Scheduler} {taskIds : List TaskId} (h : self.Tallies taskIds)
    (op : SchedulerOp) :
    (self.step op).2.Tallies
      (taskIds ++ (spawnedBy (op, (self.step op).1)).toList) := by
  have hbelow : ∀ taskId ∈ taskIds, taskId < (self.step op).2.nextTaskId :=
    fun taskId hid => UInt64.lt_of_lt_of_le (h.below taskId hid) (nextTaskId_step self op)
  by_cases hop : op.isSpawn = false
  · have hsame : SameTasks self (self.step op).2 := sameTasks_step hop
    rw [spawnedBy_of_not_spawn hop, Option.toList_none, List.append_nil]
    refine ⟨h.reachable.step op, ?_, hbelow, ?_⟩
    · rw [hsame.occupied_eq]
      exact h.count
    · rw [hsame.occupied_eq, hsame.nextTaskId]
      exact h.next
  · cases op with
    | spawn parentId schedulerClass priority capabilities budget =>
        rcases self.spawn_cases parentId schedulerClass priority capabilities budget with
          ⟨-, hs⟩ | ⟨nextTaskId, hnext, ⟨error, hrefused, hs⟩ | ⟨slot, hfree, -, -, hs⟩⟩
        · simpa only [Scheduler.step, hs, Except.map, spawnedBy, Option.toList_none,
            List.append_nil] using h
        · have hfull := card_occupied_of_full
            (h.reachable.wellFormed.spawn_refused hrefused).2
          have hnext := (h.reachable.step
            (.spawn parentId schedulerClass priority capabilities budget))
          simp only [Scheduler.step, hs, Except.map, spawnedBy, Option.toList_none,
            List.append_nil] at hbelow hnext ⊢
          refine ⟨hnext, h.count, hbelow, fun hroom => ?_⟩
          change self.occupied.card < 64 at hroom
          omega
        · have hreachable := h.reachable.step
            (.spawn parentId schedulerClass priority capabilities budget)
          simp only [Scheduler.step, hs, Except.map, spawnedBy, Option.toList_some]
            at hbelow hreachable ⊢
          refine ⟨hreachable, ?_, ?_, fun hroom => ?_⟩
          · rw [card_occupied_withSpawned hfree, List.length_append, h.count]
            rfl
          · intro taskId hid
            rcases List.mem_append.mp hid with hold | hlast
            · exact hbelow taskId hold
            · rw [List.mem_singleton.mp hlast, UInt64.lt_iff_toNat_lt]
              change _ < nextTaskId.toNat
              omega
          · rw [card_occupied_withSpawned hfree] at hroom ⊢
            have hlast := h.next (by omega)
            change nextTaskId.toNat = _
            omega
    | transition | cancel | scheduleNext | yieldCurrent => exact absurd rfl hop

theorem Tallies.spawn {self : Scheduler} {taskIds : List TaskId} (h : self.Tallies taskIds)
    (parentId : TaskId) (schedulerClass : SchedulerClass) (priority : UInt8)
    (capabilities : CapabilitySet) (budget : BudgetAccount) :
    (taskIds.length < 64 →
        (self.spawn parentId schedulerClass priority capabilities budget).1 =
          .ok self.nextTaskId) ∧
      (¬ taskIds.length < 64 →
        (self.spawn parentId schedulerClass priority capabilities budget).1.isOk = false) ∧
      self.nextTaskId ∉ taskIds := by
  rw [h.count]
  refine ⟨fun hroom => ?_, fun hfull => ?_, fun hid => ?_⟩
  · have hnext := h.next hroom
    obtain ⟨slot, nextTaskId, -, -, hs⟩ := spawn_room h.reachable.wellFormed hroom
      (by omega) parentId schedulerClass priority capabilities budget
    rw [hs]
  · have huniv : self.occupied = Finset.univ :=
      (Finset.card_eq_iff_eq_univ _).mp
        (Nat.le_antisymm self.occupied.card_le_univ (not_lt.mp hfull))
    rcases self.spawn_cases parentId schedulerClass priority capabilities budget with
      ⟨-, hs⟩ | ⟨nextTaskId, -, ⟨error, -, hs⟩ | ⟨slot, hfree, -, -, -⟩⟩
    · rw [hs]
      rfl
    · rw [hs]
      rfl
    · exact absurd (mem_occupied.mp (huniv ▸ Finset.mem_univ slot)) hfree
  · exact absurd (h.below _ hid) (UInt64.lt_irrefl _)

end Scheduler

namespace Kernel

/-! ## The tasks of a history -/

abbrev SyscallEvent := SyscallCall × SyscallResult

def spawnedBy (event : SyscallEvent) : Option TaskId :=
  if event.1.frame.number = SyscallNumber.sysTaskSpawn.toUInt64 ∧
      event.2.status = .ok then
    some event.2.value
  else none

/-- The runtime task of the boot sequence and every task spawned since. -/
def spawnedTasks (events : List SyscallEvent) : List TaskId :=
  1 :: events.filterMap spawnedBy

theorem spawnedTasks_snoc (events : List SyscallEvent) (event : SyscallEvent) :
    spawnedTasks (events ++ [event]) =
      spawnedTasks events ++ (spawnedBy event).toList := by
  cases h : spawnedBy event <;> simp [spawnedTasks, h]

theorem schedulerCall_isSpawn {self : Kernel} {frame : SyscallFrame}
    {context : DispatchContext} {number : SyscallNumber} {op : SchedulerOp}
    (h : self.schedulerCall frame context number = some op)
    (hnumber : number ≠ .sysTaskSpawn) : op.isSpawn = false := by
  cases number with
  | sysTaskSpawn => exact absurd rfl hnumber
  | sysYield | sysExit | sysTaskCancel =>
      cases h
      rfl
  | sysInfo | sysTime | sysTraceContext | sysTaskJoin | sysTaskStatus | sysMemMap
  | sysMemUnmap | sysMemQuery | sysMemShare | sysMemSeal | sysDeviceList
  | sysDeviceOpen | sysDeviceCall | sysDeviceClose | sysModelList | sysModelOpen
  | sysInfer | sysMemoryQuery | sysMemoryPut | sysCapDerive | sysCapRevoke
  | sysAttest | sysRandom | sysAuditAppend | sysAuditQuery | sysAuditVerify =>
      simp [schedulerCall] at h

theorem spawnedBy_taskSpawn (self : Kernel) (call : SyscallCall)
    (hnumber : call.frame.number = SyscallNumber.sysTaskSpawn.toUInt64) :
    spawnedBy (call, (self.sysTaskSpawn call.frame call.context).1) =
      (self.schedulerCall call.frame call.context .sysTaskSpawn).bind fun op =>
        Scheduler.spawnedBy (op, (self.scheduler.step op).1) := by
  unfold sysTaskSpawn
  cases hmanifest : self.validateManifest call.frame with
  | error error =>
      have hnone : self.schedulerCall call.frame call.context .sysTaskSpawn = none := by
        simp [schedulerCall, hmanifest, Except.isOk, Except.toBool]
      rw [hnone]
      exact if_neg fun h => KernelError.status_ne_ok error h.2
  | ok =>
      by_cases hpriority : call.frame.arg3 ≤ 255
      · have hsome : self.schedulerCall call.frame call.context .sysTaskSpawn =
            some (.spawn call.context.taskId .runtime
              (if call.frame.arg3.toUInt8 = 0 then defaultPriority
                else call.frame.arg3.toUInt8) .empty .unlimited) := by
          simp [schedulerCall, hmanifest, hpriority, Except.isOk, Except.toBool]
        simp only [hsome, hpriority, if_true, Option.bind_some, Scheduler.step]
        generalize self.scheduler.spawn call.context.taskId .runtime
          (if call.frame.arg3.toUInt8 = 0 then defaultPriority
            else call.frame.arg3.toUInt8) .empty .unlimited = outcome
        obtain ⟨reply, scheduler⟩ := outcome
        cases reply with
        | error error => exact if_neg fun h => KernelError.status_ne_ok error h.2
        | ok taskId => exact if_pos ⟨hnumber, rfl⟩
      · have hnone : self.schedulerCall call.frame call.context .sysTaskSpawn = none := by
          simp [schedulerCall, hpriority]
        simp only [hnone, hpriority, if_false]
        exact if_neg fun h => KernelError.status_ne_ok .invalidArgument h.2

theorem spawnedBy_step (self : Kernel) (call : SyscallCall) :
    spawnedBy (call, (self.step call).1) =
      (self.schedulerOp call).bind fun op =>
        Scheduler.spawnedBy (op, (self.scheduler.step op).1) := by
  cases hvalid : SyscallDispatcher.validate call.frame call.context with
  | error error =>
      have hnone := SyscallDispatcher.accepted_of_error hvalid
      have hresult : (self.step call).1 = .error error := by
        rw [step, handleSyscall_of_rejected hvalid]
      rw [schedulerOp, SyscallCall.accepted, hnone, hresult]
      exact if_neg fun h => KernelError.status_ne_ok error h.2
  | ok descriptor =>
      have hsome := SyscallDispatcher.accepted_of_ok hvalid
      have hnumber := SyscallDispatcher.accepted_number hsome
      have hresult : (self.step call).1 =
          (self.dispatchValidated descriptor.number call.frame call.context).1 := by
        rw [step, handleSyscall_of_validated hvalid]
      rw [schedulerOp, SyscallCall.accepted, hsome, Option.bind_some, hresult]
      by_cases hspawn : descriptor.number = .sysTaskSpawn
      · rw [hspawn]
        exact spawnedBy_taskSpawn self call (hspawn ▸ hnumber)
      · have hother : call.frame.number ≠ SyscallNumber.sysTaskSpawn.toUInt64 := by
          intro h
          rw [hnumber] at h
          have hraw := congrArg SyscallNumber.fromRaw h
          rw [SyscallNumber.fromRaw_toUInt64, SyscallNumber.fromRaw_toUInt64] at hraw
          exact hspawn (Option.some.inj hraw)
        rw [spawnedBy, if_neg fun h => hother h.1]
        cases hop : self.schedulerCall call.frame call.context descriptor.number with
        | none => rfl
        | some op =>
            exact (Scheduler.spawnedBy_of_not_spawn
              (schedulerCall_isSpawn hop hspawn)).symm

theorem tallies_initializeHost :
    new.initializeHost.2.scheduler.Tallies (spawnedTasks []) := by
  refine ⟨sound_initializeHost.scheduler, ?_, ?_, ?_⟩
  · decide +kernel
  · intro taskId hid
    rw [List.mem_singleton.mp hid]
    decide +kernel
  · decide +kernel

theorem tallies_step {self : Kernel} {events : List SyscallEvent}
    (h : self.scheduler.Tallies (spawnedTasks events)) (call : SyscallCall) :
    (self.step call).2.scheduler.Tallies
      (spawnedTasks (events ++ [(call, (self.step call).1)])) := by
  rw [spawnedTasks_snoc, spawnedBy_step, (effect_step self call).scheduler]
  cases self.schedulerOp call with
  | none => simpa using h
  | some op => exact h.step op

theorem tallies_run (calls : List SyscallCall) :
    (run step new.initializeHost.2 calls).scheduler.Tallies
      (spawnedTasks (history step new.initializeHost.2 calls)) :=
  run_history_invariant
    (I := fun (self : Kernel) events => self.scheduler.Tallies (spawnedTasks events))
    (fun _ _ call h => tallies_step h call) tallies_initializeHost calls

/-- A spawn that passes its checks: the caller's right, no manifest, a priority. -/
structure SpawnRequest (call : SyscallCall) : Prop where
  number : call.frame.number = SyscallNumber.sysTaskSpawn.toUInt64
  wields : call.Wields .taskSpawn
  manifest : call.frame.arg1 = 0
  priority : call.frame.arg3 ≤ 255

theorem step_spawnRequest (self : Kernel) {call : SyscallCall} (h : SpawnRequest call) :
    ∃ priority,
      ((self.step call).1.status = .ok ↔
        (self.scheduler.spawn call.context.taskId .runtime priority .empty
          .unlimited).1.isOk = true) ∧
      ∀ taskId, (self.scheduler.spawn call.context.taskId .runtime priority .empty
          .unlimited).1 = .ok taskId → (self.step call).1.value = taskId := by
  have hmanifest : (self.validateManifest call.frame).isOk = true := by
    rw [validateManifest, if_neg (not_not.mpr h.manifest)]
    rfl
  obtain ⟨priority, hop⟩ :=
    schedulerOp_spawn self call h.number h.wields hmanifest h.priority
  refine ⟨priority, ?_, fun taskId hspawn => ?_⟩
  · rw [(effect_step self call).scheduler_ok _ hop, Scheduler.step]
    cases (self.scheduler.spawn call.context.taskId .runtime priority .empty
      .unlimited).1 <;> rfl
  · have hstep := spawnedBy_step self call
    rw [hop, Option.bind_some, Scheduler.step, hspawn] at hstep
    change spawnedBy (call, (self.step call).1) = some taskId at hstep
    unfold spawnedBy at hstep
    split_ifs at hstep
    exact Option.some.inj hstep

theorem spawn_of_room {calls : List SyscallCall} {call : SyscallCall}
    (hcall : SpawnRequest call)
    (hroom : (spawnedTasks (history step new.initializeHost.2 calls)).length < 64) :
    ((run step new.initializeHost.2 calls).step call).1.status = .ok ∧
      ((run step new.initializeHost.2 calls).step call).1.value ∉
        spawnedTasks (history step new.initializeHost.2 calls) := by
  obtain ⟨priority, hstatus, hvalue⟩ :=
    step_spawnRequest (run step new.initializeHost.2 calls) hcall
  obtain ⟨hok, -, hfresh⟩ :=
    (tallies_run calls).spawn call.context.taskId .runtime priority .empty .unlimited
  refine ⟨hstatus.mpr (by rw [hok hroom]; rfl), ?_⟩
  rw [hvalue _ (hok hroom)]
  exact hfresh

theorem spawn_of_full {calls : List SyscallCall} {call : SyscallCall}
    (hcall : SpawnRequest call)
    (hfull : ¬ (spawnedTasks (history step new.initializeHost.2 calls)).length < 64) :
    ((run step new.initializeHost.2 calls).step call).1.status ≠ .ok := by
  obtain ⟨priority, hstatus, -⟩ :=
    step_spawnRequest (run step new.initializeHost.2 calls) hcall
  obtain ⟨-, hfailed, -⟩ :=
    (tallies_run calls).spawn call.context.taskId .runtime priority .empty .unlimited
  rw [ne_eq, hstatus, hfailed hfull]
  exact Bool.false_ne_true

/--
In a host-initialized kernel after any syscalls, a well-formed spawn succeeds
exactly while fewer than 64 tasks were ever spawned, whatever has become of
them, and its identifier is new.
-/
theorem spawn_ok_iff_spawned_lt (calls : List SyscallCall) (call : SyscallCall)
    (hcall : SpawnRequest call) :
    (((run step new.initializeHost.2 calls).step call).1.status = .ok ↔
        (spawnedTasks (history step new.initializeHost.2 calls)).length < 64) ∧
      (((run step new.initializeHost.2 calls).step call).1.status = .ok →
        ((run step new.initializeHost.2 calls).step call).1.value ∉
          spawnedTasks (history step new.initializeHost.2 calls)) := by
  by_cases hroom : (spawnedTasks (history step new.initializeHost.2 calls)).length < 64
  · obtain ⟨hok, hfresh⟩ := spawn_of_room hcall hroom
    exact ⟨iff_of_true hok hroom, fun _ => hfresh⟩
  · have hfailed := spawn_of_full hcall hroom
    exact ⟨iff_of_false hfailed hroom, fun hok => absurd hok hfailed⟩

theorem spawnRequest_spawnCall : SpawnRequest spawnCall :=
  ⟨rfl, ⟨rfl, by decide⟩, rfl, by decide⟩

def manageCall (number : SyscallNumber) : SyscallCall :=
  { frame := .new number #v[2, 0, 0, 0, 0, 0]
    context := .task 1 (.single .taskManage) }

theorem spawn_ok_iff_spawned_lt_joined :
    let calls := [spawnCall, manageCall .sysTaskCancel, manageCall .sysTaskJoin]
    ((run step new.initializeHost.2 calls).step spawnCall).1.status = .ok ∧
      ((run step new.initializeHost.2 calls).step spawnCall).1.value ∉
        spawnedTasks (history step new.initializeHost.2 calls) := by
  intro calls
  obtain ⟨hiff, hfresh⟩ := spawn_ok_iff_spawned_lt calls spawnCall spawnRequest_spawnCall
  have hok := hiff.mpr (by decide +kernel)
  exact ⟨hok, hfresh hok⟩

/-! ## Released tasks keep their slots -/

/-- The task was a zombie before a join that named it and succeeded. -/
def Released (calls : List SyscallCall) (taskId : TaskId) : Prop :=
  ∃ before join after task, calls = before ++ join :: after ∧
    (run step new.initializeHost.2 before).scheduler.runQueue.get taskId = some task ∧
    task.state = .zombie ∧
    join.frame.number = SyscallNumber.sysTaskJoin.toUInt64 ∧
    join.frame.arg0 = taskId ∧
    ((run step new.initializeHost.2 before).step join).1.status = .ok

def unreleased (calls : List SyscallCall) : Set TaskId :=
  { taskId | taskId ∈ spawnedTasks (history step new.initializeHost.2 calls) ∧
    ¬ Released calls taskId }

def joinedFirst : List SyscallCall :=
  [spawnCall, manageCall .sysTaskCancel, manageCall .sysTaskJoin] ++
    List.replicate 62 spawnCall

theorem released_joinedFirst : Released joinedFirst 2 := by
  have hzombie : ((run step new.initializeHost.2
      [spawnCall, manageCall .sysTaskCancel]).scheduler.runQueue.get 2).map
        TaskControlBlock.state = some .zombie := by
    decide +kernel
  obtain ⟨task, hget, hstate⟩ := Option.map_eq_some_iff.mp hzombie
  exact ⟨[spawnCall, manageCall .sysTaskCancel], manageCall .sysTaskJoin,
    List.replicate 62 spawnCall, task, rfl, hget, hstate, rfl, rfl, by decide +kernel⟩

theorem length_joinedFirst :
    (spawnedTasks (history step new.initializeHost.2 joinedFirst)).length = 64 := by
  have hstart : (run step new.initializeHost.2
        [spawnCall, manageCall .sysTaskCancel,
          manageCall .sysTaskJoin]).scheduler.occupied.card = 2 ∧
      (run step new.initializeHost.2 [spawnCall, manageCall .sysTaskCancel,
        manageCall .sysTaskJoin]).scheduler.nextTaskId.toNat = 3 := by
    decide +kernel
  have hcard := (occupied_spawnCalls (sound_initializeHost.run
    [spawnCall, manageCall .sysTaskCancel, manageCall .sysTaskJoin]) 62
    (by omega) (by omega)).1
  rw [(tallies_run joinedFirst).count, joinedFirst, run_append, hcard, hstart.1]

theorem ncard_unreleased_joinedFirst : (unreleased joinedFirst).ncard < 64 := by
  have hspawned : (2 : TaskId) ∈
      spawnedTasks (history step new.initializeHost.2 joinedFirst) := by
    rw [joinedFirst, history_append, spawnedTasks, List.filterMap_append]
    exact List.mem_cons_of_mem _ (List.mem_append_left _ (by decide +kernel))
  generalize hids : spawnedTasks (history step new.initializeHost.2 joinedFirst) = ids
    at hspawned
  have hsubset : unreleased joinedFirst ⊆ ↑(ids.toFinset.erase 2) := by
    rintro taskId ⟨hmem, hkept⟩
    rw [hids] at hmem
    rw [Finset.coe_erase, Set.mem_sdiff, Finset.mem_coe, List.mem_toFinset]
    refine ⟨hmem, ?_⟩
    rintro rfl
    exact hkept released_joinedFirst
  have hle := Set.ncard_le_ncard hsubset (Finset.finite_toSet _)
  have hcard := Finset.card_erase_lt_of_mem (List.mem_toFinset.mpr hspawned)
  have hlength : ids.toFinset.card ≤ 64 := by
    rw [← length_joinedFirst, hids]
    exact ids.toFinset_card_le
  rw [Set.ncard_coe_finset] at hle
  omega

/-- A joined zombie keeps its slot, so fewer than 64 unreleased tasks fill the queue. -/
theorem not_spawn_ok_joinedFirst : ¬ ∀ calls call, SpawnRequest call →
    (unreleased calls).ncard < 64 →
    ((run step new.initializeHost.2 calls).step call).1.status = .ok := by
  intro h
  have hfull : ¬ (spawnedTasks (history step new.initializeHost.2 joinedFirst)).length
      < 64 := by
    rw [length_joinedFirst]
    decide
  exact spawn_of_full spawnRequest_spawnCall hfull
    (h joinedFirst spawnCall spawnRequest_spawnCall ncard_unreleased_joinedFirst)

end Kernel

end AlaniKernel
