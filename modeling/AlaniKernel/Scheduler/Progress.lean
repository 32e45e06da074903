import AlaniKernel.Scheduler.Lifecycle
import AlaniKernel.Scheduler.Table

/-!
# Progress of a yield

A yield charges the current task before it selects the next one.  While the
current task can pay, a yield with a task to run always selects one; a task
that has used up a bounded budget is refused its yield and stays current.
-/

namespace AlaniKernel

open AlaniKernel.Foundation

def BudgetAccount.CanPay (self : BudgetAccount) : Prop :=
  self.maxTicks = 0 ∨ self.remainingTicks ≠ 0

namespace BudgetAccount

theorem consumeTick_ok {self : BudgetAccount} (h : self.CanPay) :
    ∃ charged, self.consumeTick = .ok charged := by
  unfold consumeTick
  by_cases hunlimited : self.maxTicks = 0
  · exact ⟨self, if_pos hunlimited⟩
  · rw [if_neg hunlimited, if_neg (h.resolve_left hunlimited)]
    exact ⟨_, rfl⟩

theorem consumeTick_refused {self : BudgetAccount} (h : ¬ self.CanPay) :
    self.consumeTick = .error .deadlineExceeded := by
  obtain ⟨hbounded, hspent⟩ := not_or.mp h
  rw [consumeTick, if_neg hbounded, if_pos (not_not.mp hspent)]

end BudgetAccount

namespace Scheduler

/-! ## The current task -/

def CurrentFound (self : Scheduler) : Prop :=
  ∀ taskId, self.currentTask = some taskId →
    ∃ i, self.Occupied i ∧ (self.taskAt i).id = taskId

theorem currentFound_new : new.CurrentFound := by
  intro taskId hcurrent
  simp [new] at hcurrent

theorem CurrentFound.of_kept {before after : Scheduler} (h : before.CurrentFound)
    (hkept : ∀ i, before.Occupied i →
      after.Occupied i ∧ (after.taskAt i).id = (before.taskAt i).id)
    (hcurrent : ∀ taskId, after.currentTask = some taskId →
      before.currentTask = some taskId ∨
        ∃ i, before.Occupied i ∧ (before.taskAt i).id = taskId) :
    after.CurrentFound := by
  intro taskId hafter
  have hfound : ∃ i, before.Occupied i ∧ (before.taskAt i).id = taskId :=
    (hcurrent taskId hafter).elim (h taskId) id
  obtain ⟨i, hi, hid⟩ := hfound
  exact ⟨i, (hkept i hi).1, (hkept i hi).2.trans hid⟩

theorem currentTask_chargeCurrent {self charged : Scheduler}
    (h : self.chargeCurrent = .ok charged) : charged.currentTask = self.currentTask := by
  rcases self.chargeCurrent_cases with
    ⟨error, -, herror⟩ | ⟨-, hidle⟩ | ⟨current, i, remainingTicks, -, -, -, hpaid⟩
  · rw [herror] at h
    contradiction
  · rw [hidle] at h
    cases h
    rfl
  · rw [hpaid] at h
    cases h
    rfl

theorem currentTask_scheduleNext {self : Scheduler} (hself : self.SwitchesBounded)
    {taskId : TaskId} (h : self.scheduleNext.2.currentTask = some taskId) :
    self.currentTask = some taskId ∨ ∃ i, self.Occupied i ∧ (self.taskAt i).id = taskId := by
  rcases hself.scheduleNext_cases with
    ⟨-, hs⟩ | ⟨tick, -, -, hs⟩ | ⟨k, next, hselects, hs⟩
  · rw [hs] at h
    exact .inl h
  · rw [hs] at h
    contradiction
  · rw [hs, hselects.currentTask, Option.some.injEq] at h
    exact .inr ⟨k, hselects.occupied, h⟩

theorem currentTask_step {self : Scheduler} (hself : self.Reachable) {op : SchedulerOp}
    {taskId : TaskId} (h : (self.step op).2.currentTask = some taskId) :
    self.currentTask = some taskId ∨ ∃ i, self.Occupied i ∧ (self.taskAt i).id = taskId := by
  cases op with
  | spawn parentId schedulerClass priority capabilities budget =>
      have hspawned := self.spawns_spawn parentId schedulerClass priority capabilities budget
      exact .inl (hspawned.currentTask ▸ h)
  | transition target state =>
      rcases self.transition_cases target state with
        ⟨error, -, hs, -⟩ | ⟨i, hfound, -, hs⟩
      · simp only [step, hs] at h
        exact .inl h
      · simp only [step, hs] at h
        split_ifs at h
        · cases h
          exact .inr ⟨i, getMut_some hfound⟩
        · exact .inl h
  | cancel target =>
      rcases self.cancel_cases target with ⟨error, -, hs⟩ | ⟨i, -, -, hs⟩
      · simp only [step, hs] at h
        exact .inl h
      · simp only [step, hs] at h
        split_ifs at h
        exact .inl h
  | scheduleNext => exact currentTask_scheduleNext hself.switches h
  | yieldCurrent =>
      cases hcharge : self.chargeCurrent with
      | error error =>
          simp only [step, yieldCurrent, hcharge] at h
          exact .inl h
      | ok charged =>
          have hcharged := restated_chargeCurrent hcharge
          simp only [step, yieldCurrent, hcharge] at h
          rcases currentTask_scheduleNext (hself.switches.of_restated hcharged) h with
            hkept | ⟨i, hi, hid⟩
          · exact .inl (currentTask_chargeCurrent hcharge ▸ hkept)
          · exact .inr ⟨i, (hcharged.sameTasks.occupied i).mp hi,
              (hcharged.sameTasks.id i).symm.trans hid⟩

theorem currentFound_runNew (ops : List SchedulerOp) : (runNew ops).CurrentFound := by
  have hrun : (runNew ops).Reachable ∧ (runNew ops).CurrentFound := by
    refine run_invariant (I := fun (sched : Scheduler) => sched.Reachable ∧
      sched.CurrentFound) (fun sched op hsched => ?_)
      ⟨reachable_runNew [], currentFound_new⟩ ops
    exact ⟨hsched.1.step op, hsched.2.of_kept (fun i hi => sched.kept_step op hi)
      fun taskId => currentTask_step hsched.1⟩
  exact hrun.2

/-! ## The charge -/

def Pays (self : Scheduler) : Prop :=
  ∀ taskId task, self.currentTask = some taskId →
    self.runQueue.get taskId = some task → task.budget.CanPay

theorem chargeCurrent_of_pays {self : Scheduler} (hself : self.WellFormed)
    (hfound : self.CurrentFound) (h : self.Pays) :
    ∃ charged, self.chargeCurrent = .ok charged := by
  cases hcurrent : self.currentTask with
  | none => exact ⟨self, by simp [chargeCurrent, hcurrent]⟩
  | some taskId =>
      obtain ⟨i, hi, rfl⟩ := hfound taskId hcurrent
      obtain ⟨budget, hbudget⟩ :=
        BudgetAccount.consumeTick_ok (h _ _ hcurrent (hself.get_taskAt hi))
      simp only [taskAt, slotAt] at hbudget
      simp only [chargeCurrent, hcurrent, hself.getMut_taskAt hi, hbudget]
      exact ⟨_, rfl⟩

theorem chargeCurrent_of_not_pays {self : Scheduler} (h : ¬ self.Pays) :
    self.chargeCurrent = .error .deadlineExceeded := by
  simp only [Pays, not_forall] at h
  obtain ⟨taskId, task, hcurrent, hget, hspent⟩ := h
  obtain ⟨i, hfound, htask⟩ := Option.map_eq_some_iff.mp hget
  have hrefused := BudgetAccount.consumeTick_refused hspent
  rw [← htask] at hrefused
  simp only [chargeCurrent, hcurrent, hfound, hrefused]

theorem Runnable.charged {self charged : Scheduler} {i : Fin maxTasks}
    (h : self.Runnable i) (hcharge : self.chargeCurrent = .ok charged) :
    charged.Runnable i := by
  have hoccupied := (restated_chargeCurrent hcharge).sameTasks.occupied i
  rcases state_chargeCurrent hcharge i with hkept | ⟨-, hready⟩
  · rcases h with ⟨hi, hready⟩ | ⟨hi, hrunning⟩
    · exact .inl ⟨hoccupied.mpr hi, hkept.trans hready⟩
    · exact .inr ⟨hoccupied.mpr hi, hkept.trans hrunning⟩
  · rcases h with ⟨hi, -⟩ | ⟨hi, -⟩ <;> exact .inl ⟨hoccupied.mpr hi, hready⟩

theorem scheduleNext_runs {self : Scheduler} (hself : self.Reachable)
    (htick : self.tick.toNat + 1 < 2 ^ 64) (hrunnable : ∃ i, self.Runnable i) :
    ∃ taskId task, self.scheduleNext.1 = .ok (some taskId) ∧
      self.scheduleNext.2.runQueue.get taskId = some task ∧ task.state = .running := by
  rcases hself.switches.scheduleNext_cases with
    ⟨hlast, -⟩ | ⟨tick, -, hidle, -⟩ | ⟨k, next, hselects, h⟩
  · omega
  · obtain ⟨i, hi⟩ := hrunnable
    exact absurd hi (hidle i)
  · have hk := hselects.occupied
    have hsame := sameTasks_scheduleNext self
    have hafter := (hself.wellFormed.of_sameTasks hsame).get_taskAt
      ((hsame.occupied k).mpr hk)
    rw [hsame.id] at hafter
    refine ⟨(self.taskAt k).id, self.scheduleNext.2.taskAt k, by rw [h], hafter, ?_⟩
    obtain ⟨contextSwitches, -, hslot⟩ := rotated_of_selected hk rfl
    rw [h]
    change (next.slotAt k).task.state = .running
    rw [hselects.slotAt]
    exact congrArg (·.task.state) hslot

/--
Before the last tick, and with some task to run, a yield selects a task that
then runs as long as the current task can pay.  Otherwise it is refused as past
its deadline and changes nothing, so the current task stays current.
-/
theorem yield_progress (ops : List SchedulerOp)
    (htick : (runNew ops).tick.toNat + 1 < 2 ^ 64)
    (hrunnable : ∃ i, (runNew ops).Runnable i) :
    ((runNew ops).Pays → ∃ taskId task,
        (runNew ops).yieldCurrent.1 = .ok (some taskId) ∧
          (runNew ops).yieldCurrent.2.runQueue.get taskId = some task ∧
          task.state = .running) ∧
      (¬ (runNew ops).Pays →
        (runNew ops).yieldCurrent = (.error .deadlineExceeded, runNew ops)) := by
  have hself := reachable_runNew ops
  constructor
  · intro hpays
    obtain ⟨charged, hcharge⟩ :=
      chargeCurrent_of_pays hself.wellFormed (currentFound_runNew ops) hpays
    have hcharged := restated_chargeCurrent hcharge
    have hnext := scheduleNext_runs (hself.of_restated hcharged)
      (by rwa [hcharged.tick]) (hrunnable.imp fun i hi => hi.charged hcharge)
    simp only [yieldCurrent, hcharge]
    exact hnext
  · intro hspent
    simp only [yieldCurrent, chargeCurrent_of_not_pays hspent]

def pacedRunner : List SchedulerOp :=
  [.spawn 0 .runtime 8 .empty { maxTicks := 3, remainingTicks := 3, deadlineTick := 0 },
    .scheduleNext, .yieldCurrent, .spawn 0 .runtime 8 .empty .unlimited]

theorem yield_progress_pacedRunner : ∃ taskId task,
    (runNew pacedRunner).yieldCurrent.1 = .ok (some taskId) ∧
      (runNew pacedRunner).yieldCurrent.2.runQueue.get taskId = some task ∧
      task.state = .running := by
  refine (yield_progress pacedRunner (by decide +kernel) ⟨1, .inl (by decide +kernel)⟩).1 ?_
  intro taskId task hcurrent hget
  have hrunner : (runNew pacedRunner).currentTask = some 1 := by decide +kernel
  have hbudget : ((runNew pacedRunner).runQueue.get 1).map TaskControlBlock.budget =
      some { maxTicks := 3, remainingTicks := 2, deadlineTick := 0 } := by decide +kernel
  rw [hrunner, Option.some.injEq] at hcurrent
  rw [hcurrent, hget, Option.map_some, Option.some.injEq] at hbudget
  rw [hbudget]
  exact .inr (by decide)

def spentRunner : List SchedulerOp :=
  [.spawn 0 .runtime 8 .empty { maxTicks := 1, remainingTicks := 1, deadlineTick := 0 },
    .scheduleNext, .yieldCurrent, .spawn 0 .runtime 8 .empty .unlimited]

theorem yield_stuck_spentRunner :
    (runNew spentRunner).tick.toNat + 1 < 2 ^ 64 ∧
      (∀ i, ((runNew spentRunner).taskAt i).contextSwitches.toNat + 1 < 2 ^ 64) ∧
      (runNew spentRunner).ReadyAt 1 ∧ (runNew spentRunner).currentTask = some 1 ∧
      (runNew spentRunner).yieldCurrent = (.error .deadlineExceeded, runNew spentRunner) := by
  decide +kernel

end Scheduler

end AlaniKernel
