import AlaniKernel.Scheduler.Invariant

/-!
# The task table

A task that was spawned is found under its identifier for ever after, with the
fields that its spawn gave it and no more ticks to spend than before.
-/

namespace AlaniKernel

open AlaniKernel.Foundation

namespace Scheduler

/-! ## One task -/

/-- What operations leave of a task: its identity, and at most its ticks. -/
structure Keeps (before after : TaskControlBlock) : Prop where
  spawned : after.spawned = before.spawned
  remaining_le : after.budget.remainingTicks ≤ before.budget.remainingTicks

theorem Keeps.refl (task : TaskControlBlock) : Keeps task task := ⟨rfl, UInt64.le_refl _⟩

theorem Keeps.trans {first second third : TaskControlBlock} (h : Keeps first second)
    (h' : Keeps second third) : Keeps first third :=
  ⟨h'.spawned.trans h.spawned, UInt64.le_trans h'.remaining_le h.remaining_le⟩

theorem keeps_withTask (self : Scheduler) (i j : Fin maxTasks) (task : TaskControlBlock)
    (currentTask : Option TaskId) (h : Keeps (self.taskAt i) task) :
    Keeps (self.taskAt j)
      (({ self.withTask i task with currentTask } : Scheduler).taskAt j) := by
  have hslot := slotAt_withTask self i j task
  change Keeps (self.taskAt j) ((self.withTask i task).slotAt j).task
  rw [hslot]
  split_ifs with hij
  · rw [hij]
    exact h
  · exact .refl _

theorem keeps_chargeCurrent {self charged : Scheduler}
    (h : self.chargeCurrent = .ok charged) (i : Fin maxTasks) :
    Keeps (self.taskAt i) (charged.taskAt i) := by
  rcases self.chargeCurrent_cases with
    ⟨error, -, herror⟩ | ⟨-, hidle⟩ | ⟨current, j, remainingTicks, hle, -, -, hpaid⟩
  · rw [herror] at h
    contradiction
  · rw [hidle] at h
    cases h
    exact .refl _
  · rw [hpaid] at h
    cases h
    exact keeps_withTask self j i _ self.currentTask ⟨rfl, hle⟩

theorem budget_rotated (selectedId : TaskId) (slot : TaskSlot) :
    (rotated selectedId slot).task.budget = slot.task.budget := by
  by_cases hoccupied : slot.occupied = true
  · by_cases hid : slot.task.id = selectedId
    · obtain ⟨contextSwitches, -, h⟩ := rotated_of_selected hoccupied hid
      rw [h]
      rfl
    · rw [rotated_of_other hoccupied hid]
      dsimp only
      split_ifs <;> rfl
  · rw [rotated_of_free (by simpa using hoccupied)]

theorem budget_scheduleNext (self : Scheduler) (i : Fin maxTasks) :
    (self.scheduleNext.2.taskAt i).budget = (self.taskAt i).budget := by
  obtain ⟨-, selectedId, hslots⟩ := self.scheduleNext_slots
  rw [taskAt, taskAt]
  rcases hslots i with h | h
  · rw [h]
  · rw [h, budget_rotated]

theorem keeps_scheduleNext (self : Scheduler) (i : Fin maxTasks) :
    Keeps (self.taskAt i) (self.scheduleNext.2.taskAt i) := by
  constructor
  · exact (sameTasks_scheduleNext self).spawned i
  · rw [budget_scheduleNext]
    exact UInt64.le_refl _

theorem keeps_step (self : Scheduler) (op : SchedulerOp) {i : Fin maxTasks}
    (hi : self.Occupied i) : Keeps (self.taskAt i) ((self.step op).2.taskAt i) := by
  cases op with
  | spawn parentId schedulerClass priority capabilities budget =>
      have hspawned := self.spawns_spawn parentId schedulerClass priority capabilities budget
      change Keeps _ ((self.spawn _ _ _ _ _).2.slotAt i).task
      rw [hspawned.slotAt hi]
      exact .refl _
  | transition taskId target =>
      rcases self.transition_cases taskId target with ⟨error, -, h, -⟩ | ⟨j, -, -, h⟩
      · simp only [step, h]
        exact .refl _
      · simp only [step, h]
        exact keeps_withTask self j i _ _ ⟨rfl, UInt64.le_refl _⟩
  | cancel taskId =>
      rcases self.cancel_cases taskId with ⟨error, -, h⟩ | ⟨j, -, -, h⟩
      · simp only [step, h]
        exact .refl _
      · simp only [step, h]
        exact keeps_withTask self j i _ _ ⟨rfl, UInt64.le_refl _⟩
  | scheduleNext => exact keeps_scheduleNext self i
  | yieldCurrent =>
      cases hcharge : self.chargeCurrent with
      | error error =>
          simp only [step, yieldCurrent, hcharge]
          exact .refl _
      | ok charged =>
          simp only [step, yieldCurrent, hcharge]
          exact (keeps_chargeCurrent hcharge i).trans (keeps_scheduleNext charged i)

theorem keeps_run (self : Scheduler) {i : Fin maxTasks} (hi : self.Occupied i)
    (ops : List SchedulerOp) :
    (run step self ops).Occupied i ∧
      Keeps (self.taskAt i) ((run step self ops).taskAt i) := by
  refine run_invariant (I := fun (sched : Scheduler) => sched.Occupied i ∧
    Keeps (self.taskAt i) (sched.taskAt i)) (fun sched op hsched => ?_) ⟨hi, .refl _⟩ ops
  exact ⟨(sched.kept_step op hsched.1).1, hsched.2.trans (keeps_step sched op hsched.1)⟩

/-! ## The identifiers of a history -/

def spawnedBy : SchedulerEvent → Option TaskId
  | (_, .ok (.spawned taskId)) => some taskId
  | _ => none

def spawnedIds (events : List SchedulerEvent) : List TaskId := events.filterMap spawnedBy

theorem nextTaskId_step (self : Scheduler) (op : SchedulerOp) :
    self.nextTaskId ≤ (self.step op).2.nextTaskId := by
  rw [UInt64.le_iff_toNat_le]
  rcases self.step_cases op with
    ⟨-, -, hspawned⟩ | ⟨-, hwritten⟩ | ⟨charged, -, hcharged, hstep⟩
  · revert hspawned
    generalize (self.step op).2 = next
    rintro (⟨nextTaskId, hle⟩ | ⟨slot, nextTaskId, _, _, _, _, _, -, heq⟩)
    · exact hle
    · change _ ≤ nextTaskId.toNat
      omega
  · rw [hwritten.nextTaskId]
  · rw [hstep, (sameTasks_scheduleNext charged).nextTaskId, hcharged.nextTaskId]

theorem spawnedBy_step {self : Scheduler} {op : SchedulerOp} {taskId : TaskId}
    (h : spawnedBy (op, (self.step op).1) = some taskId) :
    taskId = self.nextTaskId ∧ taskId < (self.step op).2.nextTaskId ∧
      ∃ parentId schedulerClass priority capabilities budget slot,
        op = .spawn parentId schedulerClass priority capabilities budget ∧
          (self.step op).2.Occupied slot ∧
          (self.step op).2.taskAt slot =
            .new taskId parentId schedulerClass priority capabilities budget := by
  cases op with
  | spawn parentId schedulerClass priority capabilities budget =>
      rcases self.spawn_cases parentId schedulerClass priority capabilities budget with
        ⟨-, hs⟩ | ⟨nextTaskId, hnext, ⟨error, -, hs⟩ | ⟨slot, -, -, -, hs⟩⟩
      · simp [step, hs, spawnedBy, Except.map] at h
      · simp [step, hs, spawnedBy, Except.map] at h
      · have hid : self.nextTaskId = taskId := by
          simpa [step, hs, spawnedBy, Except.map] using h
        subst hid
        simp only [step, hs]
        refine ⟨trivial, ?_, _, _, _, _, _, slot, rfl, ?_, ?_⟩
        · rw [UInt64.lt_iff_toNat_lt]
          change _ < nextTaskId.toNat
          omega
        · rw [Occupied, slotAt_withSpawned, if_pos rfl]
        · exact taskAt_withSpawned_self self slot nextTaskId _
  | transition taskId target =>
      cases hs : (self.transition taskId target).1 <;>
        simp [step, hs, spawnedBy, Except.map] at h
  | cancel taskId =>
      cases hs : (self.cancel taskId).1 <;> simp [step, hs, spawnedBy, Except.map] at h
  | scheduleNext =>
      cases hs : self.scheduleNext.1 <;> simp [step, hs, spawnedBy, Except.map] at h
  | yieldCurrent =>
      cases hs : self.yieldCurrent.1 <;> simp [step, hs, spawnedBy, Except.map] at h

structure Tracks (sched : Scheduler) (events : List SchedulerEvent) : Prop where
  wellFormed : sched.WellFormed
  found : ∀ parentId schedulerClass priority capabilities budget taskId,
    (.spawn parentId schedulerClass priority capabilities budget,
        .ok (.spawned taskId)) ∈ events →
      ∃ i, sched.Occupied i ∧
        Keeps (.new taskId parentId schedulerClass priority capabilities budget)
          (sched.taskAt i)
  ids_lt : ∀ taskId ∈ spawnedIds events, taskId < sched.nextTaskId
  ids_increasing : (spawnedIds events).Pairwise (· < ·)

theorem tracks_new : new.Tracks [] := by
  refine ⟨wellFormed_new, ?_, ?_, .nil⟩ <;> simp [spawnedIds]

theorem Tracks.step {self : Scheduler} {events : List SchedulerEvent}
    (h : self.Tracks events) (op : SchedulerOp) :
    (self.step op).2.Tracks (events ++ [(op, (self.step op).1)]) := by
  have hlast : ∀ taskId ∈ spawnedIds [(op, (self.step op).1)],
      spawnedBy (op, (self.step op).1) = some taskId := by
    intro taskId hid
    simpa [spawnedIds] using hid
  have hsplit : spawnedIds (events ++ [(op, (self.step op).1)]) =
      spawnedIds events ++ spawnedIds [(op, (self.step op).1)] := List.filterMap_append
  refine ⟨h.wellFormed.step op, ?_, ?_, ?_⟩
  · intro parentId schedulerClass priority capabilities budget taskId hevent
    rcases List.mem_append.mp hevent with hold | hnew
    · obtain ⟨i, hi, hkeeps⟩ := h.found _ _ _ _ _ _ hold
      exact ⟨i, (self.kept_step op hi).1, hkeeps.trans (keeps_step self op hi)⟩
    · have hspawned : spawnedBy (op, (self.step op).1) = some taskId := by
        rw [← List.mem_singleton.mp hnew]
        rfl
      obtain ⟨rfl, -⟩ := Prod.mk.inj (List.mem_singleton.mp hnew)
      obtain ⟨-, -, _, _, _, _, _, slot, hop, hslot, htask⟩ := spawnedBy_step hspawned
      cases hop
      exact ⟨slot, hslot, htask ▸ .refl _⟩
  · intro taskId hid
    rw [hsplit, List.mem_append] at hid
    rcases hid with hold | hnew
    · exact UInt64.lt_of_lt_of_le (h.ids_lt taskId hold) (nextTaskId_step self op)
    · exact (spawnedBy_step (hlast taskId hnew)).2.1
  · rw [hsplit, List.pairwise_append]
    refine ⟨h.ids_increasing, ?_, fun earlier hearlier later hlater => ?_⟩
    · exact List.Pairwise.filterMap _ (fun _ _ hfalse => hfalse.elim)
        (List.pairwise_singleton (fun _ _ => False) _)
    · rw [(spawnedBy_step (hlast later hlater)).1]
      exact h.ids_lt earlier hearlier

theorem tracks_run (ops : List SchedulerOp) : (runNew ops).Tracks (historyNew ops) :=
  run_history_invariant (fun _ _ op h => h.step op) tracks_new ops

/-! ## Lookups -/

theorem WellFormed.get_taskAt {self : Scheduler} (hself : self.WellFormed)
    {i : Fin maxTasks} (hi : self.Occupied i) :
    self.runQueue.get (self.taskAt i).id = some (self.taskAt i) := by
  rw [RunQueue.get, hself.getMut_taskAt hi]
  rfl

/-- The task has the fields that this spawn gave it, and no more ticks. -/
structure SpawnedAs (task : TaskControlBlock) (taskId parentId : TaskId)
    (schedulerClass : SchedulerClass) (priority : UInt8) (capabilities : CapabilitySet)
    (budget : BudgetAccount) : Prop where
  id : task.id = taskId
  parentId : task.parentId = parentId
  schedulerClass : task.schedulerClass = schedulerClass
  basePriority : task.basePriority = priority
  weight : task.weight = 1
  capabilities : task.capabilities = capabilities
  maxTicks : task.budget.maxTicks = budget.maxTicks
  deadlineTick : task.budget.deadlineTick = budget.deadlineTick
  remaining_le : task.budget.remainingTicks ≤ budget.remainingTicks

theorem Keeps.spawnedAs {task : TaskControlBlock} {taskId parentId : TaskId}
    {schedulerClass : SchedulerClass} {priority : UInt8} {capabilities : CapabilitySet}
    {budget : BudgetAccount}
    (h : Keeps (.new taskId parentId schedulerClass priority capabilities budget) task) :
    SpawnedAs task taskId parentId schedulerClass priority capabilities budget := by
  have hspawned := h.spawned
  simp only [TaskControlBlock.spawned, TaskControlBlock.new,
    TaskControlBlock.mk.injEq, BudgetAccount.mk.injEq] at hspawned
  obtain ⟨hid, hparent, -, hclass, hpriority, -, hweight, -, ⟨hmax, -, hdeadline⟩,
    hcapabilities, -⟩ := hspawned
  exact ⟨hid, hparent, hclass, hpriority, hweight, hcapabilities, hmax, hdeadline,
    h.remaining_le⟩

/--
In every reachable table the identifiers are nonzero, distinct and below the
next one, spawns return them in increasing order and are never refused as
duplicate or invalid, and each identifier that a spawn returned finds, now and
after any further operations, the task as it was spawned, with no ticks added.
-/
theorem table_integrity (ops : List SchedulerOp) :
    (∀ i, (runNew ops).Occupied i →
        ((runNew ops).taskAt i).id ≠ 0 ∧
          ((runNew ops).taskAt i).id < (runNew ops).nextTaskId) ∧
      (∀ i j, (runNew ops).Occupied i → (runNew ops).Occupied j →
        ((runNew ops).taskAt i).id = ((runNew ops).taskAt j).id → i = j) ∧
      (spawnedIds (historyNew ops)).Pairwise (· < ·) ∧
      (∀ parentId schedulerClass priority capabilities budget error,
        ((runNew ops).spawn parentId schedulerClass priority capabilities budget).1 =
            .error error →
          error ≠ .duplicate ∧ error ≠ .invalidArgument) ∧
      ∀ parentId schedulerClass priority capabilities budget taskId,
        (.spawn parentId schedulerClass priority capabilities budget,
            .ok (.spawned taskId)) ∈ historyNew ops →
          ∃ task, (runNew ops).runQueue.get taskId = some task ∧
            SpawnedAs task taskId parentId schedulerClass priority capabilities budget ∧
            ∀ later, ∃ next, (run step (runNew ops) later).runQueue.get taskId = some next ∧
              next.budget.remainingTicks ≤ task.budget.remainingTicks := by
  have htracks := tracks_run ops
  have hself := htracks.wellFormed
  refine ⟨fun i hi => ⟨?_, ?_⟩, hself.id_unique, htracks.ids_increasing, ?_, ?_⟩
  · exact hself.id_ne_zero hi
  · rw [UInt64.lt_iff_toNat_lt]
    exact hself.id_lt i hi
  · intro parentId schedulerClass priority capabilities budget error herror
    rcases (runNew ops).spawn_cases parentId schedulerClass priority capabilities budget with
      ⟨-, hs⟩ | ⟨nextTaskId, -, ⟨reason, hrefused, hs⟩ | ⟨slot, -, -, -, hs⟩⟩
    · rw [hs] at herror
      cases herror
      decide
    · rw [hs] at herror
      cases herror
      rw [(hself.spawn_refused hrefused).1]
      decide
    · rw [hs] at herror
      contradiction
  · intro parentId schedulerClass priority capabilities budget taskId hevent
    obtain ⟨i, hi, hkeeps⟩ := htracks.found _ _ _ _ _ _ hevent
    have hid : ((runNew ops).taskAt i).id = taskId := hkeeps.spawnedAs.id
    refine ⟨(runNew ops).taskAt i, ?_, hkeeps.spawnedAs, fun later => ?_⟩
    · rw [← hid]
      exact hself.get_taskAt hi
    · obtain ⟨hi', hlater⟩ := keeps_run (runNew ops) hi later
      refine ⟨(run step (runNew ops) later).taskAt i, ?_, hlater.remaining_le⟩
      have hreached : (run step (runNew ops) later).WellFormed :=
        run_invariant (fun _ op h => h.step op) hself later
      rw [← hid, ← (hkeeps.trans hlater).spawnedAs.id.trans hid.symm]
      exact hreached.get_taskAt hi'

def spentTask : List SchedulerOp :=
  [.spawn 0 .runtime 8 .empty { maxTicks := 1, remainingTicks := 1, deadlineTick := 0 },
    .spawn 1 .audit 9 ⟨4⟩ .unlimited, .scheduleNext, .transition 1 .running,
    .yieldCurrent, .cancel 1]

theorem table_integrity_spentTask :
    (∃ task, (runNew spentTask).runQueue.get 2 = some task ∧
      SpawnedAs task 2 1 .audit 9 ⟨4⟩ .unlimited) ∧
      (∀ error, ((runNew spentTask).spawn 1 .audit 9 .empty .unlimited).1 = .error error →
        error ≠ .duplicate ∧ error ≠ .invalidArgument) := by
  obtain ⟨-, -, -, hspawn, hfound⟩ := table_integrity spentTask
  obtain ⟨task, hget, hspawned, -⟩ :=
    hfound 1 .audit 9 ⟨4⟩ .unlimited 2 (by decide +kernel)
  exact ⟨⟨task, hget, hspawned⟩, hspawn 1 .audit 9 .empty .unlimited⟩

end Scheduler

end AlaniKernel
