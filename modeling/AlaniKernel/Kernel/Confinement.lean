import AlaniKernel.Kernel.Syscalls

/-!
# Authority confinement

Over any run of syscalls a subsystem changes only through calls that were made
under the capability that guards it.
-/

namespace AlaniKernel

open AlaniKernel.Foundation

namespace Scheduler

def taskIds (self : Scheduler) : Set TaskId :=
  { taskId | ∃ i, self.Occupied i ∧ (self.taskAt i).id = taskId }

def ZombieAt (self : Scheduler) (i : Fin maxTasks) : Prop :=
  self.Occupied i ∧ (self.taskAt i).state = .zombie

theorem SameTasks.taskIds {before after : Scheduler} (h : SameTasks before after) :
    after.taskIds = before.taskIds := by
  ext taskId
  simp only [Scheduler.taskIds, Set.mem_ofPred_eq, h.occupied, h.id]

theorem zombie_of_rotated {selectedId : TaskId} {slot : TaskSlot}
    (hoccupied : slot.occupied = true)
    (h : (rotated selectedId slot).task.state = .zombie) :
    slot.task.state = .zombie := by
  by_cases hid : slot.task.id = selectedId
  · obtain ⟨contextSwitches, -, hslot⟩ := rotated_of_selected hoccupied hid
    rw [hslot] at h
    contradiction
  · rw [rotated_of_other hoccupied hid] at h
    dsimp only at h
    split_ifs at h with hrunning hready
    · rw [agedTask, hready] at h
      contradiction
    · exact h

theorem zombieAt_scheduleNext {self : Scheduler} {i : Fin maxTasks}
    (h : self.scheduleNext.2.ZombieAt i) : self.ZombieAt i := by
  have hi : self.Occupied i := ((sameTasks_scheduleNext self).occupied i).mp h.1
  obtain ⟨-, selectedId, hslots⟩ := self.scheduleNext_slots
  refine ⟨hi, ?_⟩
  have hstate := h.2
  rcases hslots i with hkept | hrotated
  · rwa [taskAt, hkept] at hstate
  · rw [taskAt, hrotated] at hstate
    exact zombie_of_rotated hi hstate

theorem zombieAt_chargeCurrent {self charged : Scheduler} {i : Fin maxTasks}
    (hcharged : self.chargeCurrent = .ok charged) (h : charged.ZombieAt i) :
    self.ZombieAt i := by
  have hi := ((restated_chargeCurrent hcharged).sameTasks.occupied i).mp h.1
  rcases self.chargeCurrent_cases with
    ⟨error, -, herror⟩ | ⟨-, hidle⟩ | ⟨current, j, remainingTicks, -, -, -, hpaid⟩
  · rw [herror] at hcharged
    contradiction
  · rw [hidle] at hcharged
    cases hcharged
    exact h
  · rw [hpaid] at hcharged
    cases hcharged
    refine ⟨hi, ?_⟩
    have hstate := h.2
    rw [taskAt, slotAt_withTask] at hstate
    by_cases hij : i = j
    · rw [if_pos hij] at hstate
      simp only [chargedTask] at hstate
      split_ifs at hstate
      rw [hij]
      exact hstate
    · rwa [if_neg hij] at hstate

theorem zombieAt_cancel {self : Scheduler} {taskId : TaskId} {i : Fin maxTasks}
    (hbefore : ¬ self.ZombieAt i) (h : (self.cancel taskId).2.ZombieAt i) :
    (self.cancel taskId).1.isOk = true ∧ (self.taskAt i).id = taskId := by
  rcases self.cancel_cases taskId with ⟨error, -, hrefused⟩ | ⟨j, hfound, -, hmoved⟩
  · rw [hrefused] at h
    exact absurd h hbefore
  · rw [hmoved] at h ⊢
    refine ⟨rfl, ?_⟩
    by_cases hij : i = j
    · rw [hij]
      exact (getMut_some hfound).2
    · have hslot := slotAt_withTask self j i { self.taskAt j with state := .zombie }
      rw [if_neg hij] at hslot
      obtain ⟨hoccupied, hstate⟩ := h
      change ((self.withTask j _).slotAt i).occupied = true at hoccupied
      change ((self.withTask j _).slotAt i).task.state = .zombie at hstate
      rw [hslot] at hoccupied hstate
      exact absurd ⟨hoccupied, hstate⟩ hbefore

theorem Spawns.zombieAt {self next : Scheduler} (hspawned : self.Spawns next)
    {i : Fin maxTasks} (h : next.ZombieAt i) : self.ZombieAt i := by
  rcases hspawned.slotAt_cases i with hkept | ⟨-, _, _, _, _, _, hnew⟩
  · rwa [ZombieAt, Occupied, taskAt, hkept] at h
  · rw [ZombieAt, taskAt, hnew] at h
    exact absurd h.2 (by simp [TaskControlBlock.new])

theorem zombieAt_yieldCurrent {self : Scheduler} {i : Fin maxTasks}
    (h : self.yieldCurrent.2.ZombieAt i) : self.ZombieAt i := by
  unfold yieldCurrent at h
  cases hcharge : self.chargeCurrent with
  | error error =>
      rw [hcharge] at h
      exact h
  | ok charged =>
      rw [hcharge] at h
      exact zombieAt_chargeCurrent hcharge (zombieAt_scheduleNext h)

end Scheduler

namespace Kernel

theorem scheduler_eq_of_none {self next : Kernel} {call : SyscallCall}
    {status : KernelStatus} (h : self.Effect call next status)
    (hnone : self.schedulerOp call = none) : next.scheduler = self.scheduler := by
  rw [h.scheduler, hnone]
  rfl

theorem memory_eq_of_none {self next : Kernel} {call : SyscallCall}
    {status : KernelStatus} (h : self.Effect call next status)
    (hnone : memoryOp call = none) : next.memory = self.memory := by
  rw [h.memory, hnone]
  rfl

theorem memory_confined {self : Kernel} {call : SyscallCall}
    (h : ¬ call.Wields .memoryShare) : (self.step call).2.memory = self.memory := by
  refine memory_eq_of_none (effect_step self call) ?_
  cases hop : memoryOp call with
  | none => rfl
  | some op => exact absurd (memoryOp_cases hop).1 h

theorem scheduler_confined {self : Kernel} {call : SyscallCall}
    (h : call.context.execution ≠ .task) :
    (self.step call).2.scheduler = self.scheduler := by
  refine scheduler_eq_of_none (effect_step self call) ?_
  cases hop : self.schedulerOp call with
  | none => rfl
  | some op => exact absurd (schedulerOp_cases hop).1 h

theorem taskIds_confined {self : Kernel} {call : SyscallCall}
    (h : ¬ call.Wields .taskSpawn) :
    (self.step call).2.scheduler.taskIds = self.scheduler.taskIds := by
  have heffect := effect_step self call
  cases hop : self.schedulerOp call with
  | none => rw [scheduler_eq_of_none heffect hop]
  | some op =>
      rw [heffect.scheduler, hop]
      refine (Scheduler.sameTasks_step ?_).taskIds
      rcases (schedulerOp_cases hop).2 with
        rfl | ⟨-, rfl⟩ | ⟨-, hspawn, -⟩ | ⟨-, -, rfl⟩
      · rfl
      · rfl
      · exact absurd hspawn h
      · rfl

/-- A completed call that ends a task: its own exit, or a managed cancel. -/
def Ends (taskId : TaskId) (call : SyscallCall) (result : SyscallResult) : Prop :=
  result.status = .ok ∧
    (call.frame.number = SyscallNumber.sysExit.toUInt64 ∧
        call.context.taskId = taskId ∨
      call.frame.number = SyscallNumber.sysTaskCancel.toUInt64 ∧
        call.frame.arg0 = taskId ∧
        call.context.capabilities.contains .taskManage = true)

theorem ends_of_zombieAt {self : Kernel} {call : SyscallCall} {i : Fin maxTasks}
    (hbefore : ¬ self.scheduler.ZombieAt i)
    (hafter : (self.step call).2.scheduler.ZombieAt i) :
    Ends ((self.step call).2.scheduler.taskAt i).id call (self.step call).1 := by
  have heffect := effect_step self call
  cases hop : self.schedulerOp call with
  | none =>
      rw [scheduler_eq_of_none heffect hop] at hafter
      exact absurd hafter hbefore
  | some op =>
      have hok := heffect.scheduler_ok op hop
      have hscheduler := heffect.scheduler
      rw [hop, Option.elim_some] at hscheduler
      rw [hscheduler] at hafter ⊢
      have hcancel : ∀ taskId, op = .cancel taskId →
          (self.step call).1.status = .ok ∧
            taskId = ((self.scheduler.step op).2.taskAt i).id := by
        rintro taskId rfl
        obtain ⟨hdone, hid⟩ := Scheduler.zombieAt_cancel hbefore hafter
        refine ⟨hok.mpr ?_, ?_⟩
        · change ((self.scheduler.cancel taskId).1.map SchedulerReply.moved).isOk = true
          cases hreply : (self.scheduler.cancel taskId).1 with
          | ok record => rfl
          | error error =>
              rw [hreply] at hdone
              contradiction
        · have hkept := (Scheduler.restated_cancel self.scheduler taskId).sameTasks.id i
          exact hid.symm.trans hkept.symm
      rcases (schedulerOp_cases hop).2 with
        rfl | ⟨hnumber, hexit⟩ | ⟨-, -, -, -, priority, rfl⟩ |
          ⟨hnumber, hwields, hmanaged⟩
      · exact absurd (Scheduler.zombieAt_yieldCurrent hafter) hbefore
      · obtain ⟨hstatus, hid⟩ := hcancel _ hexit
        exact ⟨hstatus, .inl ⟨hnumber, hid⟩⟩
      · exact absurd ((Scheduler.spawns_spawn _ _ _ _ _ _).zombieAt hafter) hbefore
      · obtain ⟨hstatus, hid⟩ := hcancel _ hmanaged
        exact ⟨hstatus, .inr ⟨hnumber, hid, hwields.2⟩⟩

theorem kept_id {self : Kernel} (call : SyscallCall) {i : Fin maxTasks}
    (hi : self.scheduler.Occupied i) :
    (self.step call).2.scheduler.Occupied i ∧
      ((self.step call).2.scheduler.taskAt i).id = (self.scheduler.taskAt i).id := by
  have heffect := effect_step self call
  cases hop : self.schedulerOp call with
  | none =>
      rw [scheduler_eq_of_none heffect hop]
      exact ⟨hi, rfl⟩
  | some op =>
      rw [heffect.scheduler, hop]
      exact self.scheduler.kept_step op hi

theorem kept_id_run {self : Kernel} {i : Fin maxTasks}
    (hi : self.scheduler.Occupied i) (calls : List SyscallCall) :
    ((run step self calls).scheduler.taskAt i).id = (self.scheduler.taskAt i).id := by
  induction calls generalizing self with
  | nil => rfl
  | cons call calls ih =>
      obtain ⟨hi', hid⟩ := kept_id call hi
      rw [run_cons, ih hi', hid]

theorem ends_of_zombieAt_run {self : Kernel} {i : Fin maxTasks}
    {calls : List SyscallCall} (hbefore : ¬ self.scheduler.ZombieAt i)
    (hafter : (run step self calls).scheduler.ZombieAt i) :
    ∃ entry ∈ history step self calls,
      Ends ((run step self calls).scheduler.taskAt i).id entry.1 entry.2 := by
  induction calls generalizing self with
  | nil => exact absurd hafter hbefore
  | cons call calls ih =>
      by_cases hzombie : (self.step call).2.scheduler.ZombieAt i
      · refine ⟨(call, (self.step call).1), List.mem_cons_self, ?_⟩
        rw [run_cons, kept_id_run hzombie.1]
        exact ends_of_zombieAt hbefore hzombie
      · obtain ⟨entry, hentry, hends⟩ := ih hzombie hafter
        exact ⟨entry, List.mem_cons_of_mem _ hentry, hends⟩

/--
Over every run of syscalls from any kernel: configuration, boot and devices
stay; memory moves only under `MemoryShare`; the set of tasks only under
`TaskSpawn`; a task is ended only by its exit or under `TaskManage`; and the
scheduler moves only from task context.
-/
theorem authority_confined (self : Kernel) (calls : List SyscallCall) :
    ((run step self calls).config = self.config ∧
        (run step self calls).boot = self.boot ∧
        (run step self calls).devices = self.devices) ∧
      ((∀ call ∈ calls, ¬ call.Wields .memoryShare) →
        (run step self calls).memory = self.memory) ∧
      ((∀ call ∈ calls, ¬ call.Wields .taskSpawn) →
        (run step self calls).scheduler.taskIds = self.scheduler.taskIds) ∧
      (∀ i, ¬ self.scheduler.ZombieAt i →
        (run step self calls).scheduler.ZombieAt i →
        ∃ entry ∈ history step self calls,
          Ends ((run step self calls).scheduler.taskAt i).id entry.1 entry.2) ∧
      ((∀ call ∈ calls, call.context.execution ≠ .task) →
        (run step self calls).scheduler = self.scheduler) := by
  refine ⟨⟨?_, ?_, ?_⟩, fun h => ?_, fun h => ?_, fun i => ends_of_zombieAt_run,
    fun h => ?_⟩
  · exact run_frame Kernel.config (fun k call _ => (effect_step k call).config) self
  · exact run_frame Kernel.boot (fun k call _ => (effect_step k call).boot) self
  · exact run_frame Kernel.devices (fun k call _ => (effect_step k call).devices) self
  · exact run_frame Kernel.memory (fun _ call hcall => memory_confined (h call hcall))
      self
  · exact run_frame (fun k => k.scheduler.taskIds)
      (fun _ call hcall => taskIds_confined (h call hcall)) self
  · exact run_frame Kernel.scheduler
      (fun _ call hcall => scheduler_confined (h call hcall)) self

end Kernel

end AlaniKernel
