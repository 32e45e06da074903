import AlaniKernel.Scheduler.Invariant

/-!
# The running task

`current_task` names the only running task as long as no transition starts a
second one: the selection loop demotes the previous runner, a transition to
`Running` does not.
-/

namespace AlaniKernel

open AlaniKernel.Foundation

namespace Scheduler

/-- At most one task runs, and `current_task` names it. -/
def Exclusive (self : Scheduler) : Prop :=
  (∀ i j, self.RunningAt i → self.RunningAt j → i = j) ∧
    ∀ taskId, self.currentTask = some taskId ↔
      ∃ i, self.RunningAt i ∧ (self.taskAt i).id = taskId

/-- A transition that starts a task is made only while no task runs. -/
def StartsIdle (self : Scheduler) : SchedulerOp → Prop
  | .transition taskId .running =>
      ∀ i, self.ReadyAt i → (self.taskAt i).id = taskId → ∀ j, ¬ self.RunningAt j
  | _ => True

theorem startsIdle_iff {self : Scheduler} {op : SchedulerOp} :
    self.StartsIdle op ↔ ∀ i, self.ReadyAt i →
      op = .transition (self.taskAt i).id .running → ∀ j, ¬ self.RunningAt j := by
  unfold StartsIdle
  split
  · rename_i taskId
    simp only [SchedulerOp.transition.injEq, and_true]
    exact forall_congr' fun i => imp_congr_right fun _ => imp_congr_left eq_comm
  · rename_i hother
    exact iff_of_true trivial fun i _ heq => absurd heq (hother _)

instance (self : Scheduler) (op : SchedulerOp) : Decidable (self.StartsIdle op) :=
  decidable_of_iff _ startsIdle_iff.symm

theorem exclusive_new : new.Exclusive := by
  have hnone : ∀ i, ¬ new.RunningAt i := fun i hi => not_occupied_new i hi.1
  refine ⟨fun i j hi => absurd hi (hnone i), fun taskId => ?_⟩
  simp only [hnone, false_and, exists_false, iff_false]
  simp [new]

theorem Exclusive.currentTask_eq {self : Scheduler} (h : self.Exclusive)
    {i : Fin maxTasks} (hi : self.RunningAt i) :
    self.currentTask = some (self.taskAt i).id :=
  (h.2 _).mpr ⟨i, hi, rfl⟩

theorem exclusive_of_only {self : Scheduler} {k : Fin maxTasks}
    (hk : self.RunningAt k) (honly : ∀ i, self.RunningAt i → i = k)
    (hcurrent : self.currentTask = some (self.taskAt k).id) : self.Exclusive := by
  refine ⟨fun i j hi hj => (honly i hi).trans (honly j hj).symm, fun taskId => ?_⟩
  rw [hcurrent, Option.some.injEq]
  constructor
  · rintro rfl
    exact ⟨k, hk, rfl⟩
  · rintro ⟨i, hi, rfl⟩
    rw [honly i hi]

theorem Exclusive.congr {before after : Scheduler} (h : before.Exclusive)
    (hrunning : ∀ i, after.RunningAt i ↔ before.RunningAt i)
    (hid : ∀ i, before.RunningAt i → (after.taskAt i).id = (before.taskAt i).id)
    (hcurrent : after.currentTask = before.currentTask) : after.Exclusive := by
  refine ⟨fun i j hi hj => h.1 i j ((hrunning i).mp hi) ((hrunning j).mp hj),
    fun taskId => ?_⟩
  rw [hcurrent, h.2]
  constructor
  · rintro ⟨i, hi, rfl⟩
    exact ⟨i, (hrunning i).mpr hi, hid i hi⟩
  · rintro ⟨i, hi, rfl⟩
    have hi' := (hrunning i).mp hi
    exact ⟨i, hi', (hid i hi').symm⟩

/-! ## Writes of one task state -/

theorem runningAt_withTask {self : Scheduler} {i : Fin maxTasks}
    (hi : self.Occupied i) (task : TaskControlBlock)
    (currentTask : Option TaskId) (j : Fin maxTasks) :
    ({ self.withTask i task with currentTask } : Scheduler).RunningAt j ↔
      if j = i then task.state = .running else self.RunningAt j := by
  have hslot := slotAt_withTask self i j task
  by_cases hij : j = i
  · subst hij
    simp only [if_true] at hslot ⊢
    change ((self.withTask j task).slotAt j).occupied = true ∧
      ((self.withTask j task).slotAt j).task.state = .running ↔ _
    rw [hslot]
    exact and_iff_right hi
  · simp only [hij, if_false] at hslot ⊢
    change ((self.withTask i task).slotAt j).occupied = true ∧
      ((self.withTask i task).slotAt j).task.state = .running ↔ _
    rw [hslot]
    exact Iff.rfl

theorem id_withTask (self : Scheduler) (i j : Fin maxTasks)
    (state : TaskState) (currentTask : Option TaskId) :
    (({ self.withTask i { self.taskAt i with state } with currentTask } :
      Scheduler).taskAt j).id = (self.taskAt j).id :=
  (Restated.withTask self i state (self.taskAt i).budget.remainingTicks
    currentTask).sameTasks.id j

theorem Exclusive.stop {self : Scheduler} (h : self.Exclusive)
    (hself : self.WellFormed) {taskId : TaskId} {i : Fin maxTasks}
    (hfound : self.runQueue.getMut taskId = some i) {state : TaskState}
    (hstate : state ≠ .running) :
    ({ self.withTask i { self.taskAt i with state } with
        currentTask :=
          if self.currentTask = some taskId then none else self.currentTask } :
      Scheduler).Exclusive := by
  obtain ⟨hi, hid⟩ := getMut_some hfound
  have hrunning := runningAt_withTask hi { self.taskAt i with state }
    (if self.currentTask = some taskId then none else self.currentTask)
  have hkept := fun j => id_withTask self i j state
    (if self.currentTask = some taskId then none else self.currentTask)
  generalize hafter : ({ self.withTask i { self.taskAt i with state } with
    currentTask :=
      if self.currentTask = some taskId then none else self.currentTask } :
    Scheduler) = after at hrunning hkept ⊢
  have hcurrent : after.currentTask =
      if self.currentTask = some taskId then none else self.currentTask := by
    rw [← hafter]
  have hbefore : ∀ j, after.RunningAt j ↔ j ≠ i ∧ self.RunningAt j := by
    intro j
    rw [hrunning j]
    by_cases hij : j = i
    · simp [hij, hstate]
    · simp [hij]
  refine ⟨fun j k hj hk =>
    h.1 j k ((hbefore j).mp hj).2 ((hbefore k).mp hk).2, fun other => ?_⟩
  by_cases hrun : self.RunningAt i
  · have hnamed := h.currentTask_eq hrun
    rw [hid] at hnamed
    rw [hcurrent, if_pos hnamed]
    simp only [reduceCtorEq, false_iff, not_exists, not_and]
    intro j hj
    obtain ⟨hne, hj'⟩ := (hbefore j).mp hj
    exact absurd (h.1 j i hj' hrun) hne
  · have hother : self.currentTask ≠ some taskId := by
      intro hnamed
      obtain ⟨j, hj, hjid⟩ := (h.2 taskId).mp hnamed
      have hji := hself.id_unique j i hj.1 hi (hjid.trans hid.symm)
      exact hrun (hji ▸ hj)
    rw [hcurrent, if_neg hother, h.2]
    constructor
    · rintro ⟨j, hj, rfl⟩
      have hne : j ≠ i := fun hij => hrun (hij ▸ hj)
      exact ⟨j, (hbefore j).mpr ⟨hne, hj⟩, hkept j⟩
    · rintro ⟨j, hj, rfl⟩
      exact ⟨j, ((hbefore j).mp hj).2, (hkept j).symm⟩

theorem validTransition_running {state : TaskState}
    (h : validTransition state .running = true) : state = .ready := by
  cases state <;> simp_all [validTransition]

/-! ## One step -/

theorem Exclusive.spawns {self next : Scheduler} (hself : self.Exclusive)
    (h : self.Spawns next) : next.Exclusive := by
  refine hself.congr (fun i => ?_) (fun i hi => ?_) h.currentTask
  · rcases h.slotAt_cases i with hkept | ⟨hfree, _, _, _, _, _, hnew⟩
    · rw [RunningAt, Occupied, taskAt, hkept]
      exact Iff.rfl
    · rw [RunningAt, Occupied, taskAt, hnew]
      simp [RunningAt, hfree, TaskControlBlock.new]
  · rw [taskAt, h.slotAt hi.1, taskAt]

theorem exclusive_scheduleNext {self : Scheduler} (hself : self.WellFormed)
    (hok : self.scheduleNext.1 ≠ .error .internal) :
    self.scheduleNext.2.Exclusive := by
  rcases self.scheduleNext_cases with
    ⟨-, h⟩ | ⟨tick, -, hidle, h⟩ | ⟨k, next, hselects, h⟩ | ⟨k, next, h, -⟩
  · exact absurd (by rw [h]) hok
  · rw [h]
    have hnone : ∀ i, ¬ self.RunningAt i := fun i hi => hidle i (.inr hi)
    refine ⟨fun i j hi => absurd hi (hnone i), fun taskId => ?_⟩
    simp only [reduceCtorEq, false_iff, not_exists, not_and]
    intro i hi
    exact absurd hi (hnone i)
  · have hsame := sameTasks_scheduleNext self
    rw [h] at hsame ⊢
    have hk := hselects.occupied
    refine exclusive_of_only (k := k) ?_ (fun i hi => ?_) ?_
    · obtain ⟨contextSwitches, -, hslot⟩ := rotated_of_selected hk rfl
      refine ⟨(hsame.occupied k).mpr hk, ?_⟩
      rw [taskAt, hselects.slotAt]
      exact congrArg (·.task.state) hslot
    · have hi' := (hsame.occupied i).mp hi.1
      by_cases hid : (self.taskAt i).id = (self.taskAt k).id
      · exact hself.id_unique i k hi' hk hid
      · have hstate := hi.2
        rw [taskAt, hselects.slotAt, rotated_of_other hi' hid] at hstate
        dsimp only at hstate
        split_ifs at hstate with hrunning hready
        · simp [agedTask, hready] at hstate
        · exact absurd hstate hrunning
    · rw [hselects.currentTask, hsame.id k]
  · exact absurd (by rw [h]) hok

theorem exclusive_transition {self : Scheduler} (h : self.Exclusive)
    (hself : self.WellFormed) (taskId : TaskId) (target : TaskState) :
    self.StartsIdle (.transition taskId target) ↔
      (self.transition taskId target).2.Exclusive := by
  rcases self.transition_cases taskId target with
    ⟨error, -, hrefused, hinvalid⟩ | ⟨i, hfound, hvalid, hmoved⟩
  · rw [hrefused]
    refine ⟨fun _ => h, fun _ => ?_⟩
    cases target with
    | running =>
        intro i hi hid
        have hvalid := hinvalid i (hid ▸ hself.getMut_taskAt hi.1)
        rw [hi.2] at hvalid
        contradiction
    | new | ready | blocked | sleeping | suspended | exiting | zombie => trivial
  · obtain ⟨hi, hid⟩ := getMut_some hfound
    rw [hmoved]
    by_cases htarget : target = .running
    · subst htarget
      have hready := validTransition_running hvalid
      have hrunning := runningAt_withTask hi { self.taskAt i with state := .running }
        (if TaskState.running = .running then some taskId
          else if self.currentTask = some taskId then none else self.currentTask)
      have hstarted := (hrunning i).mpr (by simp)
      constructor
      · intro hidle
        refine exclusive_of_only (k := i) hstarted (fun j hj => ?_) ?_
        · by_contra hne
          have hj' := (hrunning j).mp hj
          rw [if_neg hne] at hj'
          exact hidle i ⟨hi, hready⟩ hid j hj'
        · rw [id_withTask, hid]
          rfl
      · intro hafter j hj hjid k hk
        have hne : k ≠ i := by
          rintro rfl
          have := hk.2
          rw [hready] at this
          contradiction
        have hk' := (hrunning k).mpr (by rwa [if_neg hne])
        exact hne (hafter.1 k i hk' hstarted)
    · simp only [htarget, if_false]
      refine ⟨fun _ => h.stop hself hfound htarget, fun _ => ?_⟩
      cases target with
      | running => contradiction
      | new | ready | blocked | sleeping | suspended | exiting | zombie => trivial

theorem exclusive_cancel {self : Scheduler} (h : self.Exclusive)
    (hself : self.WellFormed) (taskId : TaskId) :
    (self.cancel taskId).2.Exclusive := by
  rcases self.cancel_cases taskId with ⟨error, -, hrefused⟩ | ⟨i, hfound, -, hmoved⟩
  · rw [hrefused]
    exact h
  · rw [hmoved]
    exact h.stop hself hfound (by decide)

def Completes (self : Scheduler) (op : SchedulerOp) : Prop :=
  (self.step op).1 ≠ .error .internal

instance (self : Scheduler) (op : SchedulerOp) : Decidable (self.Completes op) :=
  inferInstanceAs (Decidable (_ ≠ _))

theorem ne_internal_of_map {α β : Type} {f : α → β} {result : KernelResult α}
    (h : result.map f ≠ .error .internal) : result ≠ .error .internal := by
  rintro rfl
  exact h rfl

theorem exclusive_step {self : Scheduler} (hself : self.WellFormed)
    {op : SchedulerOp} (hok : self.Completes op) (h : self.Exclusive) :
    self.StartsIdle op ↔ (self.step op).2.Exclusive := by
  cases op with
  | spawn parentId schedulerClass priority capabilities budget =>
      exact iff_of_true trivial (h.spawns (self.spawns_spawn _ _ _ _ _))
  | transition taskId target => exact exclusive_transition h hself taskId target
  | cancel taskId => exact iff_of_true trivial (exclusive_cancel h hself taskId)
  | scheduleNext =>
      exact iff_of_true trivial
        (exclusive_scheduleNext hself (ne_internal_of_map hok))
  | yieldCurrent =>
      refine iff_of_true trivial ?_
      cases hselection : self.selectionState .yieldCurrent with
      | none =>
          cases hcharge : self.chargeCurrent with
          | ok charged => simp [selectionState, hcharge] at hselection
          | error error => simpa [step, yieldCurrent, hcharge] using h
      | some charged =>
          obtain ⟨hcharged, hstep⟩ := selectionState_some hselection
          rw [Completes, hstep] at hok
          rw [hstep]
          exact exclusive_scheduleNext (hself.of_sameTasks hcharged.sameTasks)
            (ne_internal_of_map hok)

/-! ## Runs -/

/--
In a run without exhausted counters the running task is exclusive in every
state exactly when every start of a task happens while none runs.
-/
theorem exclusive_iff_startsIdle (ops : List SchedulerOp)
    (hops : Along step Completes new ops) :
    Along step StartsIdle new ops ↔
      ∀ taken, taken <+: ops → (runNew taken).Exclusive :=
  along_iff_forall_prefix (fun _ op h => h.step op)
    (fun _ _ hself hok h => exclusive_step hself hok h)
    wellFormed_new exclusive_new hops

def startedInTurn : List SchedulerOp :=
  [.spawn 0 .runtime 8 .empty .unlimited, .spawn 0 .runtime 8 .empty .unlimited,
    .transition 1 .running, .transition 1 .ready, .transition 2 .running, .yieldCurrent,
    .scheduleNext, .cancel 1, .yieldCurrent]

theorem exclusive_iff_startsIdle_startedInTurn :
    Along step StartsIdle new startedInTurn ∧
      ∀ taken, taken <+: startedInTurn → (runNew taken).Exclusive := by
  have hidle : Along step StartsIdle new startedInTurn := by decide +kernel
  exact ⟨hidle, (exclusive_iff_startsIdle startedInTurn (by decide +kernel)).mp hidle⟩

def startedTwice : List SchedulerOp :=
  [.spawn 0 .runtime 8 .empty .unlimited, .spawn 0 .runtime 8 .empty .unlimited,
    .transition 1 .running, .transition 2 .running]

theorem not_exclusive_startedTwice :
    Along step Completes new startedTwice ∧ ¬ (runNew startedTwice).Exclusive := by
  refine ⟨by decide +kernel, fun h => ?_⟩
  have hfirst : (runNew startedTwice).RunningAt 0 := by decide +kernel
  have hsecond : (runNew startedTwice).RunningAt 1 := by decide +kernel
  exact absurd (h.1 0 1 hfirst hsecond) (by decide)

end Scheduler

end AlaniKernel
