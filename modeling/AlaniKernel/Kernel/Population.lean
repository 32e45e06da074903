import AlaniKernel.Kernel.Tasks

/-!
# Which tasks live

The task table holds what the results of the calls say: a task lives from the
spawn that returned it until a call that ends it completes.
-/

namespace AlaniKernel

open AlaniKernel.Foundation

namespace Scheduler

def cancelledBy : SchedulerEvent → Option TaskId
  | (.cancel taskId, .ok _) => some taskId
  | _ => none

def Alive (self : Scheduler) (taskId : TaskId) : Prop :=
  ∃ i, self.LiveAt i ∧ (self.taskAt i).id = taskId

theorem alive_congr {before after : Scheduler}
    (h : ∀ i, (after.LiveAt i ↔ before.LiveAt i) ∧
      (before.LiveAt i → (after.taskAt i).id = (before.taskAt i).id)) (taskId : TaskId) :
    after.Alive taskId ↔ before.Alive taskId := by
  constructor
  · rintro ⟨i, hi, rfl⟩
    have hi' := (h i).1.mp hi
    exact ⟨i, hi', ((h i).2 hi').symm⟩
  · rintro ⟨i, hi, rfl⟩
    exact ⟨i, (h i).1.mpr hi, (h i).2 hi⟩

theorem WellFormed.fresh {self : Scheduler} (h : self.WellFormed) {i : Fin maxTasks}
    (hi : self.Occupied i) : (self.taskAt i).id ≠ self.nextTaskId := by
  intro hid
  have hlt := h.id_lt i hi
  rw [hid] at hlt
  exact Nat.lt_irrefl _ hlt

section Alive

variable {self : Scheduler}

theorem alive_withSpawned {slot : Fin maxTasks} (hfree : ¬ self.Occupied slot)
    (nextTaskId : TaskId) {task : TaskControlBlock} (hready : task.state = .ready)
    (taskId : TaskId) :
    (self.withSpawned slot nextTaskId task).Alive taskId ↔
      self.Alive taskId ∨ task.id = taskId := by
  have hnew := self.taskAt_withSpawned_self slot nextTaskId task
  have hslot : ((self.withSpawned slot nextTaskId task).slotAt slot).occupied = true := by
    rw [slotAt_withSpawned, if_pos rfl]
  constructor
  · rintro ⟨i, hi, rfl⟩
    by_cases hne : i = slot
    · rw [hne, hnew]
      exact .inr rfl
    · rw [LiveAt, Occupied, taskAt, self.slotAt_withSpawned_of_ne hne] at hi
      rw [taskAt, self.slotAt_withSpawned_of_ne hne]
      exact .inl ⟨i, hi, rfl⟩
  · rintro (⟨i, hi, rfl⟩ | rfl)
    · have hne : i ≠ slot := fun heq => hfree (heq ▸ hi.1)
      refine ⟨i, ?_, ?_⟩
      · rw [LiveAt, Occupied, taskAt, self.slotAt_withSpawned_of_ne hne]
        exact hi
      · rw [taskAt, self.slotAt_withSpawned_of_ne hne]
        rfl
    · refine ⟨slot, ⟨hslot, ?_⟩, by rw [hnew]⟩
      rw [hnew, hready]
      decide

theorem alive_ended (hself : self.WellFormed) {target : TaskId} {i : Fin maxTasks}
    (hfound : self.runQueue.getMut target = some i) (taskId : TaskId) :
    (self.ended i target).Alive taskId ↔ self.Alive taskId ∧ target ≠ taskId := by
  obtain ⟨hi, hid⟩ := getMut_some hfound
  have hwritten : Restated self (self.ended i target) :=
    .withTask self i .zombie (self.taskAt i).budget.remainingTicks _
  have hsame := hwritten.sameTasks
  have hstate : ∀ j, ((self.ended i target).taskAt j).state =
      if j = i then .zombie else (self.taskAt j).state :=
    fun j => state_withTask self i j .zombie _
  constructor
  · rintro ⟨j, ⟨hj, hlive⟩, rfl⟩
    have hj' := (hsame.occupied j).mp hj
    rw [hstate] at hlive
    split_ifs at hlive with hji
    · exact absurd rfl hlive
    · rw [hsame.id]
      refine ⟨⟨j, ⟨hj', hlive⟩, rfl⟩, fun heq => hji ?_⟩
      exact hself.id_unique j i hj' hi (heq.symm.trans hid.symm)
  · rintro ⟨⟨j, ⟨hj, hlive⟩, rfl⟩, hother⟩
    have hji : j ≠ i := fun heq => hother (heq ▸ hid.symm)
    refine ⟨j, ⟨(hsame.occupied j).mpr hj, ?_⟩, hsame.id j⟩
    rw [hstate, if_neg hji]
    exact hlive

theorem liveAt_scheduleNext_iff (hself : self.Reachable) (i : Fin maxTasks) :
    self.scheduleNext.2.LiveAt i ↔ self.LiveAt i := by
  rw [LiveAt, LiveAt, (sameTasks_scheduleNext self).occupied i]
  apply and_congr_right
  intro hi
  rcases state_scheduleNext hself hi with hkept | ⟨hready, hrunning⟩ | ⟨hrunning, hready⟩
  · rw [hkept]
  · simp [hready, hrunning]
  · simp [hready, hrunning]

theorem alive_yieldCurrent (h : self.Calm) (taskId : TaskId) :
    self.yieldCurrent.2.Alive taskId ↔ self.Alive taskId := by
  cases hcharge : self.chargeCurrent with
  | error error => simp only [yieldCurrent, hcharge]
  | ok charged =>
      have hcharged := restated_chargeCurrent hcharge
      have hsame := hcharged.sameTasks.trans (sameTasks_scheduleNext charged)
      simp only [yieldCurrent, hcharge]
      apply alive_congr
      intro i
      refine ⟨?_, fun _ => hsame.id i⟩
      rw [liveAt_scheduleNext_iff (h.reachable.of_restated hcharged), liveAt_charged_iff hcharge]

theorem alive_step (h : self.Calm) {op : SchedulerOp} (hop : Served op) (taskId : TaskId) :
    (self.step op).2.Alive taskId ↔
      (self.Alive taskId ∨ spawnedBy (op, (self.step op).1) = some taskId) ∧
        cancelledBy (op, (self.step op).1) ≠ some taskId := by
  cases op with
  | scheduleNext => exact hop.elim
  | transition other target => exact hop.elim
  | spawn parentId schedulerClass priority capabilities budget =>
      rcases self.spawn_cases parentId schedulerClass priority capabilities budget with
        ⟨-, hs⟩ | ⟨nextTaskId, -, ⟨error, -, hs⟩ | ⟨slot, hfree, -, -, hs⟩⟩
      · simp [step, hs, spawnedBy, cancelledBy, Except.map]
      · simp only [step, hs, spawnedBy, cancelledBy, Except.map]
        simp [Alive, LiveAt, Occupied, taskAt, slotAt]
      · have hready : (TaskControlBlock.new self.nextTaskId parentId schedulerClass priority
            capabilities budget).state = .ready := rfl
        simp only [step, hs, spawnedBy, cancelledBy, Except.map]
        rw [alive_withSpawned hfree nextTaskId hready]
        simp [TaskControlBlock.new]
  | cancel target =>
      rcases self.cancel_cases target with ⟨error, -, hs⟩ | ⟨i, hfound, -, hs⟩
      · simp [step, hs, spawnedBy, cancelledBy, Except.map]
      · have hremoved := alive_ended h.reachable.wellFormed hfound taskId
        rw [Scheduler.ended] at hremoved
        simp only [step, hs, spawnedBy, cancelledBy, Except.map]
        rw [hremoved]
        simp
  | yieldCurrent =>
      have hnone : spawnedBy (.yieldCurrent, (self.step .yieldCurrent).1) = none := by
        simp only [step]
        cases self.yieldCurrent.1 <;> rfl
      rw [hnone]
      simpa [step, cancelledBy] using alive_yieldCurrent h taskId

end Alive

end Scheduler

namespace Kernel

def endedBy (event : SyscallEvent) : Option TaskId :=
  if event.2.status = .ok then endTarget event.1 else none

theorem target_of_cancel {self : Kernel} {call : SyscallCall} {target : TaskId}
    (hop : self.schedulerOp call = some (.cancel target)) : endTarget call = some target := by
  cases haccepted : call.accepted with
  | none => simp [schedulerOp, haccepted] at hop
  | some number =>
      rw [endTarget, haccepted]
      rcases (schedulerOp_cases hop).2 with
        hyield | ⟨hnumber, hcancel⟩ | ⟨-, -, -, -, priority, hspawn⟩ | ⟨hnumber, -, hcancel⟩
      · contradiction
      · obtain rfl := SyscallDispatcher.accepted_of_number hnumber haccepted
        cases hcancel
        rfl
      · contradiction
      · obtain rfl := SyscallDispatcher.accepted_of_number hnumber haccepted
        cases hcancel
        rfl

theorem endedBy_step (self : Kernel) (call : SyscallCall) :
    endedBy (call, (self.step call).1) =
      (self.schedulerOp call).bind fun op =>
        Scheduler.cancelledBy (op, (self.scheduler.step op).1) := by
  cases htarget : endTarget call with
  | some target =>
      obtain ⟨hop, -⟩ := schedulerOp_of_target htarget self
      have hok := (self.effect_step call).scheduler_ok _ hop
      rw [hop, Option.bind_some, endedBy]
      cases hreply : (self.scheduler.step (.cancel target)).1 with
      | error error =>
          rw [hreply] at hok
          exact if_neg fun hstatus => absurd (hok.mp hstatus) Bool.false_ne_true
      | ok reply =>
          rw [hreply] at hok
          exact (if_pos (hok.mpr rfl)).trans htarget
  | none =>
      have hnone : endedBy (call, (self.step call).1) = none := by
        rw [endedBy]
        split_ifs
        · exact htarget
        · rfl
      rw [hnone]
      cases hop : self.schedulerOp call with
      | none => rfl
      | some op =>
          rw [Option.bind_some]
          cases op with
          | cancel target =>
              rw [target_of_cancel hop] at htarget
              contradiction
          | spawn | transition | scheduleNext | yieldCurrent => rfl

/-- The tasks that live after some events, given those that lived before. -/
structure Populated (start kernel : Kernel) (events : List SyscallEvent) : Prop where
  calm : kernel.scheduler.Calm
  lives : ∀ taskId, kernel.scheduler.Alive taskId ↔
    (start.scheduler.Alive taskId ∨ taskId ∈ events.filterMap spawnedBy) ∧
      taskId ∉ events.filterMap endedBy
  issued : ∀ taskId ∈ events.filterMap endedBy,
    ∃ i, kernel.scheduler.Occupied i ∧ (kernel.scheduler.taskAt i).id = taskId

theorem alive_call {self : Kernel} (h : self.scheduler.Calm) (call : SyscallCall)
    (taskId : TaskId) :
    (self.step call).2.scheduler.Alive taskId ↔
      (self.scheduler.Alive taskId ∨ spawnedBy (call, (self.step call).1) = some taskId) ∧
        endedBy (call, (self.step call).1) ≠ some taskId := by
  rw [spawnedBy_step, endedBy_step, (self.effect_step call).scheduler]
  cases hop : self.schedulerOp call with
  | none => simp
  | some op => exact Scheduler.alive_step h (served_schedulerOp hop) taskId

theorem not_issued_of_spawned {self : Kernel} (h : self.scheduler.Calm) {call : SyscallCall}
    {taskId : TaskId} (hspawned : spawnedBy (call, (self.step call).1) = some taskId)
    {i : Fin maxTasks} (hi : self.scheduler.Occupied i) :
    (self.scheduler.taskAt i).id ≠ taskId := by
  rw [spawnedBy_step, Option.bind_eq_some_iff] at hspawned
  obtain ⟨op, -, hop⟩ := hspawned
  rw [(Scheduler.spawnedBy_step hop).1]
  exact h.reachable.wellFormed.fresh hi

theorem issued_of_ended {self : Kernel} {call : SyscallCall} {taskId : TaskId}
    (hended : endedBy (call, (self.step call).1) = some taskId) :
    ∃ i, self.scheduler.Occupied i ∧ (self.scheduler.taskAt i).id = taskId := by
  rw [endedBy_step, Option.bind_eq_some_iff] at hended
  obtain ⟨op, -, hop⟩ := hended
  cases op with
  | cancel target =>
      rcases self.scheduler.cancel_cases target with ⟨error, -, hs⟩ | ⟨i, hfound, -, hs⟩
      · simp [Scheduler.step, hs, Scheduler.cancelledBy, Except.map] at hop
      · simp only [Scheduler.step, hs, Scheduler.cancelledBy, Except.map,
          Option.some.injEq] at hop
        exact ⟨i, hop ▸ Scheduler.getMut_some hfound⟩
  | spawn | transition | scheduleNext | yieldCurrent => contradiction

theorem Populated.step {start self : Kernel} {events : List SyscallEvent}
    (h : Populated start self events) (call : SyscallCall) :
    Populated start (self.step call).2 (events ++ [(call, (self.step call).1)]) := by
  refine ⟨calm_step h.calm call, fun taskId => ?_, fun taskId hended => ?_⟩
  · have hfresh : spawnedBy (call, (self.step call).1) = some taskId →
        taskId ∉ events.filterMap endedBy := by
      intro hspawned hended
      obtain ⟨i, hi, hid⟩ := h.issued taskId hended
      exact not_issued_of_spawned h.calm hspawned hi hid
    rw [alive_call h.calm, h.lives, mem_filterMap_snoc, mem_filterMap_snoc]
    tauto
  · have hissued : ∃ i, self.scheduler.Occupied i ∧
        (self.scheduler.taskAt i).id = taskId :=
      (mem_filterMap_snoc.mp hended).elim (h.issued taskId) issued_of_ended
    obtain ⟨i, hi, hid⟩ := hissued
    obtain ⟨hi', hid'⟩ := kept_id call hi
    exact ⟨i, hi', hid'.trans hid⟩

/--
After any run a task lives exactly when it did at the start or a call of the run
returned it as spawned, and no call of the run has ended it.
-/
theorem lives_iff_spawned_not_ended (start : Kernel) (hstart : start.Fresh)
    (calls : List SyscallCall) (taskId : TaskId) :
    (run step start calls).Lives taskId ↔
      (start.Lives taskId ∨ taskId ∈ (history step start calls).filterMap spawnedBy) ∧
        taskId ∉ (history step start calls).filterMap endedBy := by
  have hbefore : Populated start start [] := by
    refine ⟨hstart.calm, fun taskId => ?_, fun taskId hended => ?_⟩
    · simp
    · contradiction
  have hrun : Populated start (run step start calls) (history step start calls) :=
    run_history_invariant (I := Populated start) (fun _ _ call h => h.step call) hbefore calls
  rw [lives_iff hrun.calm.reachable.wellFormed, lives_iff hstart.calm.reachable.wellFormed]
  exact hrun.lives taskId

theorem lives_iff_spawned_not_ended_exit :
    (run step new.initializeHost.2
        [spawnPeer, ⟨.new .sysExit (.replicate 6 0), .task 2 .empty⟩]).Lives 2 ↔
      (new.initializeHost.2.Lives 2 ∨ 2 ∈ (history step new.initializeHost.2
        [spawnPeer, ⟨.new .sysExit (.replicate 6 0), .task 2 .empty⟩]).filterMap spawnedBy) ∧
        2 ∉ (history step new.initializeHost.2
          [spawnPeer, ⟨.new .sysExit (.replicate 6 0), .task 2 .empty⟩]).filterMap endedBy :=
  lives_iff_spawned_not_ended new.initializeHost.2 (.inr rfl) _ 2

end Kernel

end AlaniKernel
