import AlaniKernel.Scheduler.Failure

/-!
# What a tick budget bounds

A yield charges the current task, a direct selection and a state transition do
not.  A bounded task is selected once more than it can pay for, and once more
for each time the processor is taken from it without a charge.
-/

namespace AlaniKernel

open AlaniKernel.Foundation

namespace Scheduler

def Ended (state : TaskState) : Prop := state = .exiting ∨ state = .zombie

instance (state : TaskState) : Decidable (Ended state) := inferInstanceAs (Decidable (_ ∨ _))

def selectsTask (taskId : TaskId) (event : SchedulerEvent) : Bool :=
  decide (event.2 = .ok (.selected (some taskId)))

def selections (taskId : TaskId) (events : List SchedulerEvent) : Nat :=
  events.countP (selectsTask taskId)

def canMove (self : Scheduler) (taskId : TaskId) (target : TaskState) : Bool :=
  match self.runQueue.get taskId with
  | some task => validTransition task.state target
  | none => false

/-- The operation takes the processor from the task without charging or ending it. -/
def takesOver (taskId : TaskId) (self : Scheduler) : SchedulerOp → Bool
  | .scheduleNext =>
      self.currentTask == some taskId && decide (self.tick.toNat + 1 < 2 ^ 64)
  | .transition other target =>
      self.currentTask == some taskId && self.canMove other target &&
        if other = taskId then
          decide (target ≠ .running ∧ ¬ Ended target)
        else decide (target = .running)
  | _ => false

/-! ## The account of one task -/

/-- Slot `i` holds the task, whose budget is bounded. -/
structure Account (sched : Scheduler) (i : Fin maxTasks) (taskId : TaskId) : Prop where
  reachable : sched.Reachable
  occupied : sched.Occupied i
  id : (sched.taskAt i).id = taskId
  bounded : (sched.taskAt i).budget.maxTicks ≠ 0

def credit (i : Fin maxTasks) (sched : Scheduler) : Nat :=
  (sched.taskAt i).budget.remainingTicks.toNat

/-- One while the task has the processor, for which it has not paid, and once it has ended. -/
def owed (i : Fin maxTasks) (taskId : TaskId) (sched : Scheduler) : Nat :=
  if sched.currentTask = some taskId ∨ Ended (sched.taskAt i).state then 1 else 0

theorem owed_of_current {i : Fin maxTasks} {taskId : TaskId} {self : Scheduler}
    (h : self.currentTask = some taskId) : owed i taskId self = 1 := if_pos (.inl h)

theorem owed_of_ended {i : Fin maxTasks} {taskId : TaskId} {self : Scheduler}
    (h : Ended (self.taskAt i).state) : owed i taskId self = 1 := if_pos (.inr h)

theorem owed_le_one (i : Fin maxTasks) (taskId : TaskId) (self : Scheduler) :
    owed i taskId self ≤ 1 := by
  unfold owed
  split <;> omega

theorem Keeps.maxTicks {before after : TaskControlBlock} (h : Keeps before after) :
    after.budget.maxTicks = before.budget.maxTicks :=
  congrArg (·.budget.maxTicks) h.spawned

theorem Account.step {self : Scheduler} {i : Fin maxTasks} {taskId : TaskId}
    (h : self.Account i taskId) (op : SchedulerOp) : (self.step op).2.Account i taskId := by
  have hkept := self.kept_step op h.occupied
  have hkeeps := keeps_step self op h.occupied
  exact
    { reachable := h.reachable.step op
      occupied := hkept.1
      id := hkept.2.trans h.id
      bounded := by
        rw [hkeeps.maxTicks]
        exact h.bounded }

theorem credit_step_le {self : Scheduler} {i : Fin maxTasks} (hi : self.Occupied i)
    (op : SchedulerOp) : credit i (self.step op).2 ≤ credit i self :=
  UInt64.le_iff_toNat_le.mp (keeps_step self op hi).remaining_le

theorem Account.ended_step {self : Scheduler} {i : Fin maxTasks} {taskId : TaskId}
    (h : self.Account i taskId) (op : SchedulerOp) (hended : Ended (self.taskAt i).state) :
    Ended ((self.step op).2.taskAt i).state :=
  (moves_step h.reachable op h.occupied).ending hended

/-! ## One step of the account -/

/-- A selection is paid by the task, owed after the step, or forgiven. -/
def Balanced (i : Fin maxTasks) (taskId : TaskId) (self : Scheduler) (op : SchedulerOp) :
    Prop :=
  (if selectsTask taskId (op, (self.step op).1) then 1 else 0) + owed i taskId self +
      credit i (self.step op).2 ≤
    credit i self + (if takesOver taskId self op then 1 else 0) +
      owed i taskId (self.step op).2

section Step

variable {self : Scheduler} {i : Fin maxTasks} {taskId : TaskId}

theorem balanced_of_owed {op : SchedulerOp} (hi : self.Occupied i)
    (hselects : selectsTask taskId (op, (self.step op).1) = false)
    (howed : owed i taskId self ≤
      (if takesOver taskId self op then 1 else 0) + owed i taskId (self.step op).2) :
    Balanced i taskId self op := by
  have hcredit := credit_step_le hi op
  rw [Balanced, hselects, if_neg Bool.false_ne_true]
  omega

theorem selectsTask_spawned (op : SchedulerOp) (reply : KernelResult TaskId) :
    selectsTask taskId (op, reply.map .spawned) = false := by
  cases reply <;> simp [selectsTask, Except.map]

theorem selectsTask_moved (op : SchedulerOp)
    (reply : KernelResult TaskStateTransition) :
    selectsTask taskId (op, reply.map .moved) = false := by
  cases reply <;> simp [selectsTask, Except.map]

theorem Account.owed_of_ended (h : self.Account i taskId) (op : SchedulerOp)
    (hended : Ended (self.taskAt i).state) : owed i taskId (self.step op).2 = 1 :=
  Scheduler.owed_of_ended (h.ended_step op hended)

theorem owed_eq_zero (hcurrent : self.currentTask ≠ some taskId)
    (hended : ¬ Ended (self.taskAt i).state) : owed i taskId self = 0 :=
  if_neg (not_or.mpr ⟨hcurrent, hended⟩)

theorem Account.owed_le (h : self.Account i taskId) {op : SchedulerOp}
    (hcurrent : self.currentTask = some taskId →
      takesOver taskId self op = true ∨ owed i taskId (self.step op).2 = 1) :
    owed i taskId self ≤
      (if takesOver taskId self op then 1 else 0) + owed i taskId (self.step op).2 := by
  have hle := owed_le_one i taskId self
  by_cases hended : Ended (self.taskAt i).state
  · rw [h.owed_of_ended op hended]
    omega
  · by_cases hholds : self.currentTask = some taskId
    · rcases hcurrent hholds with htaken | howed
      · rw [if_pos htaken]
        omega
      · rw [howed]
        omega
    · rw [owed_eq_zero hholds hended]
      omega

theorem Account.balanced_spawn (h : self.Account i taskId) (parentId : TaskId)
    (schedulerClass : SchedulerClass) (priority : UInt8) (capabilities : CapabilitySet)
    (budget : BudgetAccount) :
    Balanced i taskId self (.spawn parentId schedulerClass priority capabilities budget) := by
  have hspawns := self.spawns_spawn parentId schedulerClass priority capabilities budget
  apply balanced_of_owed h.occupied (selectsTask_spawned _ _)
  apply h.owed_le
  intro hholds
  right
  apply owed_of_current
  exact hspawns.currentTask.trans hholds

theorem Account.getMut (h : self.Account i taskId) :
    self.runQueue.getMut taskId = some i := by
  rw [← h.id]
  exact h.reachable.wellFormed.getMut_taskAt h.occupied

theorem Account.eq_of_getMut (h : self.Account i taskId) {j : Fin maxTasks}
    (hfound : self.runQueue.getMut taskId = some j) : j = i :=
  (Option.some.inj (h.getMut.symm.trans hfound)).symm

theorem canMove_of_valid {other : TaskId} {target : TaskState} {j : Fin maxTasks}
    (hfound : self.runQueue.getMut other = some j)
    (hvalid : validTransition (self.taskAt j).state target = true) :
    self.canMove other target = true := by
  have hget : self.runQueue.get other = some (self.taskAt j) := by
    rw [RunQueue.get, hfound]
    rfl
  simp only [canMove, hget, hvalid]

theorem Account.balanced_transition (h : self.Account i taskId) (other : TaskId)
    (target : TaskState) : Balanced i taskId self (.transition other target) := by
  apply balanced_of_owed h.occupied (selectsTask_moved _ _)
  apply h.owed_le
  intro hholds
  rcases self.transition_cases other target with
    ⟨error, -, hs, -⟩ | ⟨j, hfound, hvalid, hs⟩
  · right
    simp only [Scheduler.step, hs]
    exact owed_of_current hholds
  · have hmove := canMove_of_valid hfound hvalid
    by_cases hown : other = taskId
    · subst hown
      obtain rfl := h.eq_of_getMut hfound
      by_cases hrunning : target = .running
      · right
        simp only [Scheduler.step, hs]
        exact owed_of_current (if_pos hrunning)
      · by_cases hends : Ended target
        · right
          simp only [Scheduler.step, hs]
          apply Scheduler.owed_of_ended
          rw [state_withTask, if_pos rfl]
          exact hends
        · left
          simp [takesOver, hholds, hmove, hrunning, hends]
    · by_cases hrunning : target = .running
      · left
        subst hrunning
        simp [takesOver, hholds, hmove, hown]
      · right
        have hkept : ¬ self.currentTask = some other := by
          rw [hholds, Option.some.injEq]
          exact fun heq => hown heq.symm
        simp only [Scheduler.step, hs]
        apply owed_of_current
        rw [if_neg hrunning, if_neg hkept]
        exact hholds

theorem Account.balanced_cancel (h : self.Account i taskId) (other : TaskId) :
    Balanced i taskId self (.cancel other) := by
  apply balanced_of_owed h.occupied (selectsTask_moved _ _)
  apply h.owed_le
  intro hholds
  right
  rcases self.cancel_cases other with ⟨error, -, hs⟩ | ⟨j, hfound, -, hs⟩
  · simp only [Scheduler.step, hs]
    exact owed_of_current hholds
  · simp only [Scheduler.step, hs]
    by_cases hown : other = taskId
    · subst hown
      obtain rfl := h.eq_of_getMut hfound
      apply Scheduler.owed_of_ended
      rw [state_withTask, if_pos rfl]
      exact .inr rfl
    · have hkept : ¬ self.currentTask = some other := by
        rw [hholds, Option.some.injEq]
        exact fun heq => hown heq.symm
      apply owed_of_current
      rw [if_neg hkept]
      exact hholds

/-! ## Selections -/

theorem currentTask_of_selected {selected : TaskId}
    (h : self.scheduleNext.1 = .ok (some selected)) :
    self.scheduleNext.2.currentTask = some selected := by
  rcases self.scheduleNext_cases with
    ⟨-, hs⟩ | ⟨tick, -, -, hs⟩ | ⟨k, next, hselects, hs⟩ | ⟨k, next, hs, -⟩
  · simp [hs] at h
  · simp [hs] at h
  · rw [hs] at h ⊢
    rw [hselects.currentTask]
    simpa using h
  · simp [hs] at h

theorem Account.not_selected (h : self.Account i taskId)
    (hended : Ended (self.taskAt i).state) :
    self.scheduleNext.1 ≠ .ok (some taskId) := by
  intro hselected
  rcases self.scheduleNext_cases with
    ⟨-, hs⟩ | ⟨tick, -, -, hs⟩ | ⟨k, next, hselects, hs⟩ | ⟨k, next, hs, -⟩
  · simp [hs] at hselected
  · simp [hs] at hselected
  · have hid : (self.taskAt k).id = (self.taskAt i).id := by
      rw [h.id]
      simpa [hs] using hselected
    have hki := h.reachable.wellFormed.id_unique k i hselects.occupied h.occupied hid
    have hrunnable := hki ▸ hselects.runnable
    rcases hrunnable with ⟨-, hstate⟩ | ⟨-, hstate⟩ <;> simp [Ended, hstate] at hended
  · simp [hs] at hselected

theorem selectsTask_selected (op : SchedulerOp) (reply : KernelResult (Option TaskId)) :
    selectsTask taskId (op, reply.map .selected) = true ↔ reply = .ok (some taskId) := by
  cases reply with
  | error error => simp [selectsTask, Except.map]
  | ok selected => simp [selectsTask, Except.map]

theorem Account.selection_owed (h : self.Account i taskId) :
    (if self.scheduleNext.1 = .ok (some taskId) then 1 else 0) +
        (if Ended (self.taskAt i).state then 1 else 0) ≤
      owed i taskId self.scheduleNext.2 := by
  by_cases hended : Ended (self.taskAt i).state
  · have hnext : owed i taskId self.scheduleNext.2 = 1 := h.owed_of_ended .scheduleNext hended
    rw [if_neg (h.not_selected hended), if_pos hended, hnext]
  · rw [if_neg hended]
    by_cases hselected : self.scheduleNext.1 = .ok (some taskId)
    · rw [if_pos hselected, owed_of_current (currentTask_of_selected hselected)]
    · rw [if_neg hselected]
      omega

theorem Account.balanced_scheduleNext (h : self.Account i taskId) :
    Balanced i taskId self .scheduleNext := by
  have hcredit : credit i self.scheduleNext.2 ≤ credit i self :=
    credit_step_le h.occupied .scheduleNext
  have howed := h.selection_owed
  have hle := owed_le_one i taskId self
  have hselects : selectsTask taskId (.scheduleNext, self.scheduleNext.1.map .selected) =
      true ↔ self.scheduleNext.1 = .ok (some taskId) := selectsTask_selected _ _
  simp only [Balanced, Scheduler.step, hselects]
  by_cases hholds : self.currentTask = some taskId
  · by_cases htick : self.tick.toNat + 1 < 2 ^ 64
    · have htaken : takesOver taskId self .scheduleNext = true := by
        simp only [takesOver, hholds, beq_self_eq_true, Bool.true_and]
        exact decide_eq_true htick
      rw [if_pos htaken]
      omega
    · -- the last tick refuses the selection, and nothing is taken
      rw [scheduleNext_last (not_lt.mp htick), if_neg (by simp)]
      dsimp only
      omega
  · have howes : owed i taskId self = if Ended (self.taskAt i).state then 1 else 0 := by
      simp [owed, hholds]
    rw [howes]
    omega

theorem Account.charged {charged : Scheduler} (h : self.Account i taskId)
    (hcharge : self.chargeCurrent = .ok charged) : charged.Account i taskId := by
  have hcharged := restated_chargeCurrent hcharge
  have hkept := hcharged.sameTasks.kept h.occupied
  exact
    { reachable := h.reachable.of_restated hcharged
      occupied := hkept.1
      id := hkept.2.trans h.id
      bounded := by
        rw [(keeps_chargeCurrent hcharge i).maxTicks]
        exact h.bounded }

theorem Account.credit_charged {charged : Scheduler} (h : self.Account i taskId)
    (hholds : self.currentTask = some taskId)
    (hcharge : self.chargeCurrent = .ok charged) :
    credit i charged + 1 = credit i self := by
  obtain ⟨j, hj, hpay⟩ := self.chargeCurrent_ok_iff.mp ⟨charged, hcharge⟩ taskId hholds
  obtain rfl := h.eq_of_getMut hj
  obtain ⟨budget, hbudget⟩ := BudgetAccount.consumeTick_ok hpay
  rw [chargeCurrent_found hholds h.getMut hbudget, Except.ok.injEq] at hcharge
  subst hcharge
  rw [credit, taskAt, slotAt_withTask, if_pos rfl]
  exact consumeTick_bounded h.bounded hbudget

theorem Account.balanced_yieldCurrent (h : self.Account i taskId) :
    Balanced i taskId self .yieldCurrent := by
  cases hcharge : self.chargeCurrent with
  | error error =>
      have hstep : self.step .yieldCurrent = (.error error, self) := by
        simp [Scheduler.step, yieldCurrent, hcharge, Except.map]
      apply balanced_of_owed h.occupied
      · rw [hstep]
        simp [selectsTask]
      · rw [hstep]
        exact Nat.le_add_left _ _
  | ok charged =>
      have haccount := h.charged hcharge
      have hcredit : credit i charged.scheduleNext.2 ≤ credit i charged :=
        credit_step_le haccount.occupied .scheduleNext
      have howed := haccount.selection_owed
      have hselects : selectsTask taskId
          (.yieldCurrent, charged.scheduleNext.1.map .selected) = true ↔
            charged.scheduleNext.1 = .ok (some taskId) := selectsTask_selected _ _
      simp only [Balanced, Scheduler.step, yieldCurrent, hcharge, hselects]
      by_cases hholds : self.currentTask = some taskId
      · have hpaid := h.credit_charged hholds hcharge
        have hle := owed_le_one i taskId self
        omega
      · have hkept : credit i charged ≤ credit i self :=
          UInt64.le_iff_toNat_le.mp (keeps_chargeCurrent hcharge i).remaining_le
        have hended : owed i taskId self ≤
            if Ended (charged.taskAt i).state then 1 else 0 := by
          by_cases hended : Ended (self.taskAt i).state
          · have hsame : (charged.taskAt i).state = (self.taskAt i).state := by
              rcases state_chargeCurrent hcharge i with hkept | ⟨hrunning, -⟩
              · exact hkept
              · simp [Ended, hrunning] at hended
            rw [hsame, if_pos hended]
            exact owed_le_one i taskId self
          · rw [owed_eq_zero hholds hended]
            omega
        omega

theorem Account.balanced (h : self.Account i taskId) (op : SchedulerOp) :
    Balanced i taskId self op := by
  cases op with
  | spawn parentId schedulerClass priority capabilities budget =>
      exact h.balanced_spawn parentId schedulerClass priority capabilities budget
  | transition other target => exact h.balanced_transition other target
  | cancel other => exact h.balanced_cancel other
  | scheduleNext => exact h.balanced_scheduleNext
  | yieldCurrent => exact h.balanced_yieldCurrent

end Step

/-! ## The selections of a run -/

theorem selections_le_credit {self : Scheduler} {i : Fin maxTasks} {taskId : TaskId}
    (h : self.Account i taskId) (ops : List SchedulerOp) :
    selections taskId (history step self ops) ≤
      credit i self + countAlong step (takesOver taskId) self ops + 1 := by
  have hcount := countAlong_le_credit (J := fun sched : Scheduler => sched.Account i taskId)
    (p := fun sched op => selectsTask taskId (op, (sched.step op).1))
    (credit i) (owed i taskId)
    (fun _ op haccount => haccount.step op) (fun _ op haccount => haccount.balanced op) h ops
  have howed := owed_le_one i taskId (run step self ops)
  have hselections : countAlong step
      (fun (sched : Scheduler) op => selectsTask taskId (op, (sched.step op).1)) self ops =
        selections taskId (history step self ops) :=
    countAlong_eq_countP_history (fun op reply => selectsTask taskId (op, reply)) self ops
  omega

theorem selected_lt {self : Scheduler} (hself : self.WellFormed) {op : SchedulerOp}
    {taskId : TaskId} (h : (self.step op).1 = .ok (.selected (some taskId))) :
    taskId < self.nextTaskId := by
  have hselects : selectsTask taskId (op, (self.step op).1) = true := decide_eq_true h
  cases hselection : self.selectionState op with
  | none =>
      cases op with
      | spawn parentId schedulerClass priority capabilities budget =>
          rw [step, selectsTask_spawned] at hselects
          contradiction
      | transition other target =>
          rw [step, selectsTask_moved] at hselects
          contradiction
      | cancel other =>
          rw [step, selectsTask_moved] at hselects
          contradiction
      | scheduleNext => simp [selectionState] at hselection
      | yieldCurrent =>
          cases hcharge : self.chargeCurrent with
          | error error => simp [step, yieldCurrent, hcharge, Except.map] at h
          | ok charged => simp [selectionState, hcharge] at hselection
  | some charged =>
      obtain ⟨hcharged, hstep⟩ := selectionState_some hselection
      have hwell := hself.of_sameTasks hcharged.sameTasks
      rw [hstep, selectsTask_selected] at hselects
      rcases charged.scheduleNext_cases with
        ⟨-, hs⟩ | ⟨tick, -, -, hs⟩ | ⟨k, next, hnext, hs⟩ | ⟨k, next, hs, -⟩
      · simp [hs] at hselects
      · simp [hs] at hselects
      · rw [hs] at hselects
        simp only [Except.ok.injEq, Option.some.injEq] at hselects
        rw [← hselects, UInt64.lt_iff_toNat_lt, ← hcharged.nextTaskId]
        exact hwell.id_lt k hnext.occupied
      · simp [hs] at hselects

def SelectsIssued (sched : Scheduler) (events : List SchedulerEvent) : Prop :=
  sched.WellFormed ∧ ∀ event ∈ events, ∀ taskId,
    event.2 = .ok (.selected (some taskId)) → taskId < sched.nextTaskId

theorem selectsIssued_run (ops : List SchedulerOp) :
    (runNew ops).SelectsIssued (historyNew ops) := by
  apply run_history_invariant
  · rintro self events op ⟨hself, hevents⟩
    refine ⟨hself.step op, fun event hevent taskId hselected => ?_⟩
    apply UInt64.lt_of_lt_of_le _ (nextTaskId_step self op)
    rcases List.mem_append.mp hevent with hold | hlast
    · exact hevents event hold taskId hselected
    · rw [List.mem_singleton.mp hlast] at hselected
      exact selected_lt hself hselected
  · exact ⟨wellFormed_new, fun event hevent => nomatch hevent⟩

theorem selections_before_spawn (ops : List SchedulerOp) :
    selections (runNew ops).nextTaskId (historyNew ops) = 0 := by
  apply List.countP_eq_zero.mpr
  intro event hevent hselects
  have hissued := (selectsIssued_run ops).2 event hevent _ (of_decide_eq_true hselects)
  exact absurd hissued (UInt64.lt_irrefl _)

theorem bounded_ok {maxTicks deadlineTick : UInt64} {budget : BudgetAccount}
    (h : BudgetAccount.bounded maxTicks deadlineTick = .ok budget) :
    budget = { maxTicks, remainingTicks := maxTicks, deadlineTick } := by
  unfold BudgetAccount.bounded at h
  split_ifs at h
  exact (Except.ok.inj h).symm

theorem account_of_spawn {ops : List SchedulerOp} {op : SchedulerOp} {taskId : TaskId}
    (h : spawnedBy (op, ((runNew ops).step op).1) = some taskId) :
    ∃ parentId schedulerClass priority capabilities budget i,
      op = .spawn parentId schedulerClass priority capabilities budget ∧
        (budget.maxTicks ≠ 0 → ((runNew ops).step op).2.Account i taskId) ∧
        credit i ((runNew ops).step op).2 = budget.remainingTicks.toNat := by
  obtain ⟨-, -, parentId, schedulerClass, priority, capabilities, budget, i, hop, hi,
    htask⟩ := spawnedBy_step h
  refine ⟨parentId, schedulerClass, priority, capabilities, budget, i, hop, ?_, ?_⟩
  · intro hbounded
    exact
      { reachable := (reachable_runNew ops).step op
        occupied := hi
        id := by
          rw [htask]
          rfl
        bounded := by
          rw [htask]
          exact hbounded }
  · rw [credit, htask]
    rfl

theorem selections_le_of_spawn (before after : List SchedulerOp) {parentId : TaskId}
    {schedulerClass : SchedulerClass} {priority : UInt8} {capabilities : CapabilitySet}
    {maxTicks deadlineTick : UInt64} {budget : BudgetAccount} {taskId : TaskId}
    (hbudget : BudgetAccount.bounded maxTicks deadlineTick = .ok budget)
    (hbounded : maxTicks ≠ 0)
    (hspawned : ((runNew before).step
      (.spawn parentId schedulerClass priority capabilities budget)).1 =
        .ok (.spawned taskId)) :
    let spawn := .spawn parentId schedulerClass priority capabilities budget
    selections taskId (historyNew (before ++ spawn :: after)) ≤
      maxTicks.toNat + 1 +
        countAlong step (takesOver taskId) new (before ++ spawn :: after) := by
  intro spawn
  have hevent : spawnedBy (spawn, ((runNew before).step spawn).1) = some taskId := by
    rw [hspawned]
    rfl
  obtain ⟨_, _, _, _, spawnedBudget, i, hop, haccount, hcredit⟩ := account_of_spawn hevent
  injection hop with _ _ _ _ hsame
  rw [← hsame, bounded_ok hbudget] at haccount hcredit
  have hbefore : selections taskId (historyNew before) = 0 := by
    rw [(spawnedBy_step hevent).1]
    exact selections_before_spawn before
  have hspawn : selectsTask taskId (spawn, ((runNew before).step spawn).1) = false := by
    rw [hspawned]
    simp [selectsTask]
  have hafter : selections taskId (history step ((run step new before).step spawn).2 after) ≤
      maxTicks.toNat +
        countAlong step (takesOver taskId) ((run step new before).step spawn).2 after + 1 :=
    hcredit ▸ selections_le_credit (haccount hbounded) after
  have hsplit : selections taskId (historyNew (before ++ spawn :: after)) =
      selections taskId (historyNew before) +
        selections taskId (history step ((run step new before).step spawn).2 after) := by
    simp [selections, historyNew, history_append, history, hspawn]
  rw [countAlong_append, countAlong, hsplit, hbefore]
  omega

/--
In every run a task with a bounded budget is selected at most once more than
its ticks, plus once for each time the processor was taken from it without a
charge; where that never happens the budget bounds its selections.
-/
theorem selections_le_budget (ops : List SchedulerOp) {parentId : TaskId}
    {schedulerClass : SchedulerClass} {priority : UInt8} {capabilities : CapabilitySet}
    {maxTicks deadlineTick : UInt64} {budget : BudgetAccount} {taskId : TaskId}
    (hbudget : BudgetAccount.bounded maxTicks deadlineTick = .ok budget)
    (hbounded : maxTicks ≠ 0)
    (hspawn : (.spawn parentId schedulerClass priority capabilities budget,
      .ok (.spawned taskId)) ∈ historyNew ops) :
    (Along step (fun sched op => takesOver taskId sched op = false) new ops →
        selections taskId (historyNew ops) ≤ maxTicks.toNat + 1) ∧
      selections taskId (historyNew ops) ≤
        maxTicks.toNat + 1 + countAlong step (takesOver taskId) new ops := by
  have hbound : selections taskId (historyNew ops) ≤
      maxTicks.toNat + 1 + countAlong step (takesOver taskId) new ops := by
    obtain ⟨before, after, rfl, hreply⟩ := mem_history hspawn
    -- identifiers are issued once: no event before the spawn names the task
    exact selections_le_of_spawn before after hbudget hbounded hreply.symm
  refine ⟨fun hcharged => ?_, hbound⟩
  rwa [countAlong_eq_zero hcharged] at hbound

theorem selections_le_budget_yields :
    selections 1 (historyNew [.spawn 0 .runtime 8 .empty ⟨1, 1, 0⟩,
      .yieldCurrent, .yieldCurrent, .yieldCurrent]) ≤ (1 : UInt64).toNat + 1 :=
  have hbudget : BudgetAccount.bounded 1 0 = .ok ⟨1, 1, 0⟩ := by decide +kernel
  have hspawn : (.spawn 0 .runtime 8 .empty ⟨1, 1, 0⟩, .ok (.spawned 1)) ∈
      historyNew [.spawn 0 .runtime 8 .empty ⟨1, 1, 0⟩,
        .yieldCurrent, .yieldCurrent, .yieldCurrent] := by decide +kernel
  (selections_le_budget _ hbudget (by decide) hspawn).1 (by decide +kernel)

theorem not_selections_le_budget_direct :
    ∃ budget, BudgetAccount.bounded 1 0 = .ok budget ∧
      (.spawn 0 .runtime 8 .empty budget, .ok (.spawned 1)) ∈
        historyNew [.spawn 0 .runtime 8 .empty budget,
          .scheduleNext, .scheduleNext, .scheduleNext] ∧
      ¬ selections 1 (historyNew [.spawn 0 .runtime 8 .empty budget,
          .scheduleNext, .scheduleNext, .scheduleNext]) ≤ (1 : UInt64).toNat + 1 :=
  ⟨⟨1, 1, 0⟩, by decide +kernel, by decide +kernel, by decide +kernel⟩

end Scheduler

end AlaniKernel
