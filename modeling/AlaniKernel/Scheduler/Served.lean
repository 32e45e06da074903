import AlaniKernel.Scheduler.Budget
import AlaniKernel.Scheduler.Exclusive
import AlaniKernel.Scheduler.Overtaking
import AlaniKernel.Scheduler.Progress

/-!
# A scheduler that only syscalls drive

Syscalls spawn runtime tasks without a budget, cancel tasks and yield.  Under
these operations every task is ready, running or ended, and it runs only while
it is current.
-/

namespace AlaniKernel

open AlaniKernel.Foundation

/-- A runtime task without tick budget and deadline. -/
structure TaskControlBlock.Plain (task : TaskControlBlock) : Prop where
  schedulerClass : task.schedulerClass = .runtime
  maxTicks : task.budget.maxTicks = 0
  deadlineTick : task.budget.deadlineTick = 0

theorem TaskControlBlock.Plain.congr {task task' : TaskControlBlock} (h : task.Plain)
    (hspawned : task'.spawned = task.spawned) : task'.Plain := by
  have hclass := congrArg TaskControlBlock.schedulerClass hspawned
  have hmax := congrArg (fun task => task.budget.maxTicks) hspawned
  have hdeadline := congrArg (fun task => task.budget.deadlineTick) hspawned
  exact ⟨hclass.trans h.schedulerClass, hmax.trans h.maxTicks,
    hdeadline.trans h.deadlineTick⟩

theorem TaskControlBlock.Plain.headStart {rival waiting : TaskControlBlock}
    (hrival : rival.Plain) (hwaiting : waiting.Plain) :
    rival.headStart waiting = rival.basePriority.toNat - waiting.basePriority.toNat := by
  have hlater : rival.budget.precedes waiting.budget = false := by
    simp [BudgetAccount.precedes, hrival.deadlineTick]
  rw [TaskControlBlock.headStart, hlater, hrival.schedulerClass, hwaiting.schedulerClass]
  simp

namespace Scheduler

/-- The operations that syscalls execute. -/
def Served : SchedulerOp → Prop
  | .spawn _ schedulerClass _ _ budget =>
      schedulerClass = .runtime ∧ budget = .unlimited
  | .cancel _ | .yieldCurrent => True
  | .transition _ _ | .scheduleNext => False

def LiveAt (self : Scheduler) (i : Fin maxTasks) : Prop :=
  self.Occupied i ∧ (self.taskAt i).state ≠ .zombie

instance (self : Scheduler) (i : Fin maxTasks) : Decidable (self.LiveAt i) :=
  inferInstanceAs (Decidable (_ ∧ _))

def ended (self : Scheduler) (i : Fin maxTasks) (taskId : TaskId) : Scheduler :=
  { self.withTask i { self.taskAt i with state := .zombie } with
    currentTask := if self.currentTask = some taskId then none else self.currentTask }

theorem served_cases {op : SchedulerOp} (h : Served op) (self : Scheduler) :
    (∃ nextTaskId, (self.step op).2 = { self with nextTaskId }) ∨
      (∃ slot nextTaskId task, ¬ self.Occupied slot ∧ task.Plain ∧ task.state = .ready ∧
        (self.step op).2 = self.withSpawned slot nextTaskId task) ∨
      (∃ taskId i, self.runQueue.getMut taskId = some i ∧
        (self.step op).2 = self.ended i taskId) ∨
      ∃ charged, self.chargeCurrent = .ok charged ∧
        (self.step op).2 = charged.scheduleNext.2 := by
  cases op with
  | spawn parentId schedulerClass priority capabilities budget =>
      obtain ⟨rfl, rfl⟩ := h
      rcases self.spawn_cases parentId .runtime priority capabilities .unlimited with
        ⟨-, hs⟩ | ⟨nextTaskId, -, ⟨error, -, hs⟩ | ⟨slot, hfree, -, -, hs⟩⟩
      · exact .inl ⟨self.nextTaskId, by simp only [step, hs]⟩
      · exact .inl ⟨nextTaskId, by simp only [step, hs]⟩
      · refine .inr (.inl ⟨slot, nextTaskId, .new self.nextTaskId parentId .runtime priority
          capabilities .unlimited, hfree, ⟨rfl, rfl, rfl⟩, rfl, ?_⟩)
        simp only [step, hs]
  | transition taskId target => exact h.elim
  | scheduleNext => exact h.elim
  | cancel taskId =>
      rcases self.cancel_cases taskId with ⟨error, -, hs⟩ | ⟨i, hfound, -, hs⟩
      · exact .inl ⟨self.nextTaskId, by simp only [step, hs]⟩
      · exact .inr (.inr (.inl ⟨taskId, i, hfound, by simp only [step, hs, ended]⟩))
  | yieldCurrent =>
      cases hcharge : self.chargeCurrent with
      | error error =>
          exact .inl ⟨self.nextTaskId, by simp only [step, yieldCurrent, hcharge]⟩
      | ok charged =>
          exact .inr (.inr (.inr ⟨charged, rfl, by simp only [step, yieldCurrent, hcharge]⟩))

/-- What holds of a scheduler that only served operations have changed. -/
structure Calm (sched : Scheduler) : Prop where
  reachable : sched.Reachable
  current : sched.CurrentFound
  plain : ∀ i, sched.Occupied i → (sched.taskAt i).Plain
  runnable : ∀ i, sched.LiveAt i → sched.Runnable i
  running : ∀ i, sched.RunningAt i → sched.currentTask = some (sched.taskAt i).id

theorem calm_new : new.Calm :=
  ⟨reachable_runNew [], currentFound_new, fun i hi => absurd hi (not_occupied_new i),
    fun i hi => absurd hi.1 (not_occupied_new i), fun i hi => absurd hi.1 (not_occupied_new i)⟩

section Calm

variable {self : Scheduler}

/-- The charge of a yield stops the only task that runs. -/
theorem Calm.none_running (h : self.Calm) {charged : Scheduler}
    (hcharge : self.chargeCurrent = .ok charged) (i : Fin maxTasks) :
    ¬ charged.RunningAt i := by
  intro hi
  have hoccupied := ((restated_chargeCurrent hcharge).sameTasks.occupied i).mp hi.1
  rcases state_chargeCurrent hcharge i with hkept | ⟨-, hready⟩
  · have hrunning : self.RunningAt i := ⟨hoccupied, hkept.symm.trans hi.2⟩
    have hcurrent := h.running i hrunning
    have hfound := h.reachable.wellFormed.getMut_taskAt hoccupied
    rcases self.chargeCurrent_cases with
      ⟨error, -, herror⟩ | ⟨hidle, -⟩ | ⟨current, j, remainingTicks, -, hnamed, hmut, hpaid⟩
    · rw [herror] at hcharge
      contradiction
    · rw [hidle] at hcurrent
      contradiction
    · rw [hcurrent, Option.some.injEq] at hnamed
      rw [← hnamed, hfound, Option.some.injEq] at hmut
      rw [hpaid] at hcharge
      cases hcharge
      have hstate := hi.2
      rw [taskAt, slotAt_withTask, if_pos hmut, ← hmut] at hstate
      simp [chargedTask, hrunning.2] at hstate
  · rw [hi.2] at hready
    contradiction

theorem Calm.ready_charged (h : self.Calm) {charged : Scheduler}
    (hcharge : self.chargeCurrent = .ok charged) {i : Fin maxTasks}
    (hi : charged.LiveAt i) : charged.ReadyAt i := by
  have hoccupied := ((restated_chargeCurrent hcharge).sameTasks.occupied i).mp hi.1
  have hlive : self.LiveAt i := by
    refine ⟨hoccupied, fun hzombie => hi.2 ?_⟩
    rcases state_chargeCurrent hcharge i with hkept | ⟨hrunning, -⟩
    · exact hkept.trans hzombie
    · rw [hzombie] at hrunning
      contradiction
  exact ((h.runnable i hlive).charged hcharge).resolve_right (h.none_running hcharge i)

theorem Calm.refused (h : self.Calm) {nextTaskId : TaskId}
    (hreachable : ({ self with nextTaskId } : Scheduler).Reachable) :
    ({ self with nextTaskId } : Scheduler).Calm :=
  ⟨hreachable, h.current, h.plain, h.runnable, h.running⟩

theorem Calm.spawned (h : self.Calm) {slot : Fin maxTasks} {nextTaskId : TaskId}
    {task : TaskControlBlock} (hfree : ¬ self.Occupied slot) (htask : task.Plain)
    (hready : task.state = .ready)
    (hreachable : (self.withSpawned slot nextTaskId task).Reachable) :
    (self.withSpawned slot nextTaskId task).Calm := by
  have hnew := self.taskAt_withSpawned_self slot nextTaskId task
  have hold : ∀ i, i ≠ slot →
      (self.withSpawned slot nextTaskId task).slotAt i = self.slotAt i :=
    fun i hne => self.slotAt_withSpawned_of_ne hne nextTaskId task
  refine ⟨hreachable, ?_, fun i hi => ?_, fun i hi => ?_, fun i hi => ?_⟩
  · apply h.current.of_kept
    · intro i hi
      have hne : i ≠ slot := fun heq => hfree (heq ▸ hi)
      rw [Occupied, taskAt, hold i hne]
      exact ⟨hi, rfl⟩
    · exact fun taskId hnamed => .inl hnamed
  · by_cases hne : i = slot
    · rw [hne, hnew]
      exact htask
    · rw [Occupied, hold i hne] at hi
      rw [taskAt, hold i hne]
      exact h.plain i hi
  · by_cases hne : i = slot
    · subst hne
      exact .inl ⟨hi.1, by rw [hnew, hready]⟩
    · rw [LiveAt, Occupied, taskAt, hold i hne] at hi
      rw [Runnable, ReadyAt, RunningAt, Occupied, taskAt, hold i hne]
      exact h.runnable i hi
  · by_cases hne : i = slot
    · have hrunning := hi.2
      rw [hne, hnew, hready] at hrunning
      contradiction
    · rw [RunningAt, Occupied, taskAt, hold i hne] at hi
      rw [taskAt, hold i hne]
      exact h.running i hi

theorem Calm.ended (h : self.Calm) {taskId : TaskId} {i : Fin maxTasks}
    (hfound : self.runQueue.getMut taskId = some i)
    (hreachable : (self.ended i taskId).Reachable) : (self.ended i taskId).Calm := by
  obtain ⟨hi, hid⟩ := getMut_some hfound
  have hwritten : Restated self (self.ended i taskId) :=
    .withTask self i .zombie (self.taskAt i).budget.remainingTicks _
  have hsame := hwritten.sameTasks
  have hstate : ∀ j, ((self.ended i taskId).taskAt j).state =
      if j = i then .zombie else (self.taskAt j).state :=
    fun j => state_withTask self i j .zombie _
  have hother : ∀ j, ((self.ended i taskId).taskAt j).state ≠ .zombie →
      j ≠ i ∧ ((self.ended i taskId).taskAt j).state = (self.taskAt j).state := by
    intro j hj
    rw [hstate] at hj ⊢
    split_ifs at hj ⊢ with hij
    · exact absurd rfl hj
    · exact ⟨hij, rfl⟩
  refine ⟨hreachable, ?_, fun j hj => ?_, fun j hj => ?_, fun j hj => ?_⟩
  · apply h.current.of_kept
    · exact fun j hj => hsame.kept hj
    · intro other hnamed
      change (if self.currentTask = some taskId then none else self.currentTask) = _ at hnamed
      split_ifs at hnamed
      exact .inl hnamed
  · exact (h.plain j ((hsame.occupied j).mp hj)).congr (hsame.spawned j)
  · obtain ⟨-, hkept⟩ := hother j hj.2
    have hj' := (hsame.occupied j).mp hj.1
    have hlive := h.runnable j ⟨hj', hkept ▸ hj.2⟩
    rw [Runnable, ReadyAt, RunningAt, hkept]
    exact hlive.imp (fun h => ⟨hj.1, h.2⟩) (fun h => ⟨hj.1, h.2⟩)
  · obtain ⟨hne, hkept⟩ := hother j (by rw [hj.2]; decide)
    have hj' := (hsame.occupied j).mp hj.1
    have hcurrent := h.running j ⟨hj', hkept.symm.trans hj.2⟩
    have hnamed : self.currentTask ≠ some taskId := by
      rw [hcurrent]
      intro hnamed
      exact hne (h.reachable.wellFormed.id_unique j i hj' hi
        ((Option.some.inj hnamed).trans hid.symm))
    rw [hsame.id]
    exact (if_neg hnamed).trans hcurrent

theorem Calm.selected (h : self.Calm) {charged : Scheduler}
    (hcharge : self.chargeCurrent = .ok charged) : charged.scheduleNext.2.Calm := by
  have hcharged := restated_chargeCurrent hcharge
  have hreachable := h.reachable.of_restated hcharged
  have hsame := sameTasks_scheduleNext charged
  have htasks := hcharged.sameTasks.trans hsame
  refine ⟨hreachable.scheduleNext, ?_, fun i hi => ?_, fun i hi => ?_, fun i hi => ?_⟩
  · apply h.current.of_kept
    · exact fun i hi => htasks.kept hi
    · intro taskId hnamed
      rcases currentTask_scheduleNext hreachable.switches hnamed with hkept | ⟨i, hi, hid⟩
      · exact .inl (currentTask_chargeCurrent hcharge ▸ hkept)
      · exact .inr ⟨i, (hcharged.sameTasks.occupied i).mp hi,
          (hcharged.sameTasks.id i).symm.trans hid⟩
  · exact (h.plain i ((htasks.occupied i).mp hi)).congr (htasks.spawned i)
  · have hi' := (hsame.occupied i).mp hi.1
    rcases state_scheduleNext hreachable hi' with hkept | ⟨-, hrunning⟩ | ⟨-, hready⟩
    · have hready := h.ready_charged hcharge ⟨hi', hkept ▸ hi.2⟩
      exact .inl ⟨hi.1, hkept.trans hready.2⟩
    · exact .inr ⟨hi.1, hrunning⟩
    · exact .inl ⟨hi.1, hready⟩
  · rcases hreachable.switches.scheduleNext_cases with
      ⟨-, hs⟩ | ⟨tick, -, -, hs⟩ | ⟨k, next, -, hs⟩
    · rw [hs] at hi
      exact absurd hi (h.none_running hcharge i)
    · rw [hs] at hi
      exact absurd hi (h.none_running hcharge i)
    · apply Exclusive.currentTask_eq ?_ hi
      apply exclusive_scheduleNext hreachable.wellFormed
      rw [hs]
      exact fun hfailed => nomatch hfailed

theorem Calm.step (h : self.Calm) {op : SchedulerOp} (hop : Served op) :
    (self.step op).2.Calm := by
  have hreachable := h.reachable.step op
  rcases served_cases hop self with
    ⟨nextTaskId, hs⟩ | ⟨slot, nextTaskId, task, hfree, htask, hready, hs⟩ |
      ⟨taskId, i, hfound, hs⟩ | ⟨charged, hcharge, hs⟩
  · rw [hs] at hreachable ⊢
    exact h.refused hreachable
  · rw [hs] at hreachable ⊢
    exact h.spawned hfree htask hready hreachable
  · rw [hs] at hreachable ⊢
    exact h.ended hfound hreachable
  · rw [hs]
    exact h.selected hcharge

/-! ## Yields -/

theorem Calm.pays (h : self.Calm) : self.Pays := by
  intro taskId task hcurrent hget
  obtain ⟨i, hfound, rfl⟩ := Option.map_eq_some_iff.mp hget
  exact .inl (h.plain i (getMut_some hfound).1).maxTicks

theorem liveAt_charged_iff {charged : Scheduler} (hcharge : self.chargeCurrent = .ok charged)
    (i : Fin maxTasks) : charged.LiveAt i ↔ self.LiveAt i := by
  have hoccupied := (restated_chargeCurrent hcharge).sameTasks.occupied i
  rw [LiveAt, LiveAt, hoccupied]
  rcases state_chargeCurrent hcharge i with hkept | ⟨hrunning, hready⟩
  · rw [hkept]
  · rw [hrunning, hready]
    simp

theorem Calm.yield_cases (h : self.Calm) (htick : self.tick.toNat + 1 < 2 ^ 64) :
    ((∀ i, ¬ self.LiveAt i) ∧ self.yieldCurrent.1 = .ok none) ∨
      ∃ i, self.LiveAt i ∧ self.yieldCurrent.1 = .ok (some (self.taskAt i).id) ∧
        self.yieldCurrent.2.currentTask = some (self.taskAt i).id ∧
        self.yieldCurrent.2.RunningAt i ∧
        (self.yieldCurrent.2.taskAt i).id = (self.taskAt i).id := by
  obtain ⟨charged, hcharge⟩ :=
    chargeCurrent_of_pays h.reachable.wellFormed h.current h.pays
  have hcharged := restated_chargeCurrent hcharge
  have hreachable := h.reachable.of_restated hcharged
  have hsame := sameTasks_scheduleNext charged
  have hyield : self.yieldCurrent = charged.scheduleNext := by
    simp only [yieldCurrent, hcharge]
  rw [hyield]
  rcases hreachable.switches.scheduleNext_cases with
    ⟨hlast, -⟩ | ⟨tick, -, hidle, hs⟩ | ⟨k, next, hselects, hs⟩
  · rw [hcharged.tick] at hlast
    omega
  · refine .inl ⟨fun i hi => ?_, by rw [hs]⟩
    exact hidle i (.inl (h.ready_charged hcharge ((liveAt_charged_iff hcharge i).mpr hi)))
  · have hk := hselects.occupied
    have hlive : charged.LiveAt k := by
      refine ⟨hk, fun hzombie => ?_⟩
      rcases hselects.runnable with hready | hrunning
      · rw [hready.2] at hzombie
        contradiction
      · rw [hrunning.2] at hzombie
        contradiction
    have hid := hcharged.sameTasks.id k
    rw [hs] at hsame ⊢
    refine .inr ⟨k, (liveAt_charged_iff hcharge k).mp hlive, by rw [hid], ?_,
      ⟨(hsame.occupied k).mpr hk, ?_⟩, (hsame.id k).trans hid⟩
    · rw [hselects.currentTask, hid]
    · obtain ⟨contextSwitches, -, hslot⟩ := rotated_of_selected hk rfl
      change (next.slotAt k).task.state = .running
      rw [hselects.slotAt]
      exact congrArg (·.task.state) hslot

theorem selectsTask_eq_false_iff {taskId : TaskId} {event : SchedulerEvent} :
    selectsTask taskId event = false ↔ event.2 ≠ .ok (.selected (some taskId)) := by
  simp [selectsTask]

theorem completesSelection_map (op : SchedulerOp) (reply : KernelResult (Option TaskId)) :
    completesSelection (op, reply.map .selected) = reply.isOk := by
  cases reply <;> rfl

theorem Served.selectionState {op : SchedulerOp} (hop : Served op) {charged : Scheduler}
    (h : self.selectionState op = some charged) : self.chargeCurrent = .ok charged := by
  cases op with
  | scheduleNext => exact hop.elim
  | spawn | transition | cancel => simp [Scheduler.selectionState] at h
  | yieldCurrent =>
      cases hcharge : self.chargeCurrent with
      | error error => simp [Scheduler.selectionState, hcharge] at h
      | ok paid =>
          simp only [Scheduler.selectionState, hcharge, Option.some.injEq] at h
          rw [h]

theorem Calm.passes_cases (h : self.Calm) {op : SchedulerOp} (hop : Served op)
    {taskId : TaskId} (hlive : ∃ i, self.LiveAt i ∧ (self.taskAt i).id = taskId)
    (hpassed : selectsTask taskId (op, (self.step op).1) = false) :
    self.PassesOver taskId op ∨
      ∃ charged error, Restated self charged ∧ self.step op = (.error error, charged) := by
  cases hselection : self.selectionState op with
  | none =>
      left
      intro charged hcharged
      rw [hselection] at hcharged
      contradiction
  | some charged =>
      obtain ⟨hcharged, hstep⟩ := selectionState_some hselection
      cases hreply : charged.scheduleNext.1 with
      | error error =>
          -- only the last tick refuses a selection, after the charge
          right
          rcases (h.reachable.of_restated hcharged).switches.scheduleNext_cases with
            ⟨-, hs⟩ | ⟨tick, -, -, hs⟩ | ⟨k, next, -, hs⟩
          · exact ⟨charged, _, hcharged, by rw [hstep, hs]; rfl⟩
          · rw [hs] at hreply
            contradiction
          · rw [hs] at hreply
            contradiction
      | ok selected =>
          left
          intro other hother
          rw [hselection, Option.mem_some_iff] at hother
          subst hother
          have hcharge := hop.selectionState hselection
          obtain ⟨i, hi, hid⟩ := hlive
          refine ⟨⟨i, h.ready_charged hcharge ((liveAt_charged_iff hcharge i).mpr hi),
            (hcharged.sameTasks.id i).trans hid⟩, by rw [hreply]; rfl, ?_⟩
          rw [hstep, selectsTask_eq_false_iff] at hpassed
          intro hsame
          exact hpassed (by rw [hsame]; rfl)

theorem selectsRival_eq_completesSelection {op : SchedulerOp} (hself : self.Reachable)
    {taskId : TaskId} (h : self.PassesOver taskId op) :
    self.selectsRival (fun id => id != taskId) op =
      completesSelection (op, (self.step op).1) := by
  rw [← h.executesSelection_eq hself, executesSelection]
  cases hselection : self.selectionState op with
  | none => exact (completesSelection_of_no_selection hselection).symm
  | some charged =>
      obtain ⟨-, hok, -⟩ := h charged hselection
      rw [(selectionState_some hselection).2, completesSelection_map, hok]
      rfl

theorem Calm.conceded_rivals (h : self.Calm) {op : SchedulerOp} (hop : Served op)
    {taskId : TaskId} (hlive : ∃ i, self.LiveAt i ∧ (self.taskAt i).id = taskId)
    (hpassed : selectsTask taskId (op, (self.step op).1) = false)
    (rivals : TaskId → Bool) :
    (if self.selectsRival rivals op then 1 else 0) + self.conceded rivals taskId ≤
      (self.step op).2.conceded rivals taskId := by
  rcases h.passes_cases hop hlive hpassed with hpasses | ⟨charged, error, hcharged, hs⟩
  · exact Scheduler.conceded_step h.reachable hpasses
  · have hkept : self.conceded rivals taskId ≤ charged.conceded rivals taskId :=
      conceded_of_restated h.reachable.wellFormed hcharged
    rw [selectsRival, hs, if_neg Bool.false_ne_true, Nat.zero_add]
    exact hkept

theorem Calm.conceded_step (h : self.Calm) {op : SchedulerOp} (hop : Served op)
    {taskId : TaskId} (hlive : ∃ i, self.LiveAt i ∧ (self.taskAt i).id = taskId)
    (hpassed : selectsTask taskId (op, (self.step op).1) = false) :
    (if completesSelection (op, (self.step op).1) then 1 else 0) +
        self.conceded (fun id => id != taskId) taskId ≤
      (self.step op).2.conceded (fun id => id != taskId) taskId := by
  have hrivals := h.conceded_rivals hop hlive hpassed (fun id => id != taskId)
  rcases h.passes_cases hop hlive hpassed with hpasses | ⟨charged, error, hcharged, hs⟩
  · rwa [selectsRival_eq_completesSelection h.reachable hpasses] at hrivals
  · rw [hs] at hrivals ⊢
    rw [completesSelection, if_neg Bool.false_ne_true]
    omega

end Calm

/-! ## One task -/

/-- Slot `i` holds the task, in a scheduler that only served operations have changed. -/
structure Holds (sched : Scheduler) (i : Fin maxTasks) (taskId : TaskId) : Prop where
  calm : sched.Calm
  occupied : sched.Occupied i
  id : (sched.taskAt i).id = taskId

section Holds

variable {self : Scheduler} {i : Fin maxTasks} {taskId : TaskId}

theorem Holds.step (h : self.Holds i taskId) {op : SchedulerOp} (hop : Served op) :
    (self.step op).2.Holds i taskId := by
  obtain ⟨hoccupied, hid⟩ := self.kept_step op h.occupied
  exact ⟨h.calm.step hop, hoccupied, hid.trans h.id⟩

theorem Holds.ne_zero (h : self.Holds i taskId) : taskId ≠ 0 := by
  rw [← h.id]
  exact h.calm.reachable.wellFormed.id_ne_zero h.occupied

theorem Holds.getMut (h : self.Holds i taskId) : self.runQueue.getMut taskId = some i := by
  rw [← h.id]
  exact h.calm.reachable.wellFormed.getMut_taskAt h.occupied

theorem Holds.get (h : self.Holds i taskId) :
    self.runQueue.get taskId = some (self.taskAt i) := by
  rw [← h.id]
  exact h.calm.reachable.wellFormed.get_taskAt h.occupied

theorem Holds.live_before (h : self.Holds i taskId) {op : SchedulerOp}
    (hlive : (self.step op).2.LiveAt i) : self.LiveAt i := by
  refine ⟨h.occupied, fun hzombie => hlive.2 ?_⟩
  have hmoves := moves_step h.calm.reachable op h.occupied
  rw [hzombie] at hmoves
  exact hmoves.zombie

theorem Holds.live_of_selected (h : self.Holds i taskId) {op : SchedulerOp}
    (hop : Served op) (hselected : selectsTask taskId (op, (self.step op).1) = true) :
    self.LiveAt i := by
  cases hselection : self.selectionState op with
  | none =>
      rw [selectsTask_of_no_selection hselection] at hselected
      contradiction
  | some charged =>
      obtain ⟨hcharged, hstep⟩ := selectionState_some hselection
      rw [hstep, selectsTask_selected] at hselected
      have hi := (hcharged.sameTasks.occupied i).mpr h.occupied
      apply (liveAt_charged_iff (hop.selectionState hselection) i).mp
      rcases charged.scheduleNext_cases with
        ⟨-, hs⟩ | ⟨tick, -, -, hs⟩ | ⟨k, next, hselects, hs⟩ | ⟨k, next, hs, -⟩
      · simp [hs] at hselected
      · simp [hs] at hselected
      · rw [hs] at hselected
        have hid : (charged.taskAt k).id = (charged.taskAt i).id := by
          rw [hcharged.sameTasks.id i, h.id]
          simpa using hselected
        have hki := (h.calm.reachable.wellFormed.of_sameTasks hcharged.sameTasks).id_unique
          k i hselects.occupied hi hid
        refine ⟨hi, fun hzombie => ?_⟩
        rcases hki ▸ hselects.runnable with hready | hrunning
        · rw [hready.2] at hzombie
          contradiction
        · rw [hrunning.2] at hzombie
          contradiction
      · simp [hs] at hselected

theorem Holds.cancel_of_ended (h : self.Holds i taskId) (hended : ¬ self.LiveAt i) :
    self.cancel taskId = (.error .invalidState, self) := by
  have hzombie : (self.taskAt i).state = .zombie := by
    by_contra hlive
    exact hended ⟨h.occupied, hlive⟩
  have hslot : (self.runQueue.slots.get i).task.state = .zombie := hzombie
  simp only [cancel, h.getMut, hslot, true_or, if_true]

end Holds

theorem ended_of_cancel {self : Scheduler} (h : self.Calm) {taskId : TaskId}
    (hok : (self.step (.cancel taskId)).1.isOk = true) :
    ∃ i, (self.step (.cancel taskId)).2.Holds i taskId ∧
      ¬ (self.step (.cancel taskId)).2.LiveAt i := by
  have hserved : Served (.cancel taskId) := trivial
  have hcalm := h.step hserved
  rcases self.cancel_cases taskId with ⟨error, -, hs⟩ | ⟨i, hfound, -, hs⟩
  · simp [step, hs, Except.map, Except.isOk, Except.toBool] at hok
  · obtain ⟨hi, hid⟩ := getMut_some hfound
    have hkept := self.kept_step (.cancel taskId) hi
    refine ⟨i, ⟨hcalm, hkept.1, hkept.2.trans hid⟩, fun hlive => hlive.2 ?_⟩
    simp only [step, hs]
    rw [state_withTask, if_pos rfl]

end Scheduler

end AlaniKernel
