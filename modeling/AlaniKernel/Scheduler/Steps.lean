import AlaniKernel.Foundation.Search
import AlaniKernel.Foundation.Transition
import AlaniKernel.Scheduler

/-!
# What a scheduler operation can do

The public operations as one transition function, and for each operation the
cases of its outcome with the slots it leaves behind.
-/

namespace AlaniKernel

open AlaniKernel.Foundation

inductive SchedulerOp where
  | spawn (parentId : TaskId) (schedulerClass : SchedulerClass)
      (priority : UInt8) (capabilities : CapabilitySet) (budget : BudgetAccount)
  | transition (taskId : TaskId) (target : TaskState)
  | cancel (taskId : TaskId)
  | scheduleNext
  | yieldCurrent
  deriving DecidableEq, Repr

def SchedulerOp.isSpawn : SchedulerOp → Bool
  | .spawn .. => true
  | _ => false

inductive SchedulerReply where
  | spawned (taskId : TaskId)
  | moved (record : TaskStateTransition)
  | selected (taskId : Option TaskId)
  deriving DecidableEq, Repr

abbrev SchedulerEvent := SchedulerOp × KernelResult SchedulerReply

namespace Scheduler

def step (self : Scheduler) :
    SchedulerOp → KernelResult SchedulerReply × Scheduler
  | .spawn parentId schedulerClass priority capabilities budget =>
      let outcome := self.spawn parentId schedulerClass priority capabilities budget
      (outcome.1.map .spawned, outcome.2)
  | .transition taskId target =>
      let outcome := self.transition taskId target
      (outcome.1.map .moved, outcome.2)
  | .cancel taskId =>
      let outcome := self.cancel taskId
      (outcome.1.map .moved, outcome.2)
  | .scheduleNext =>
      let outcome := self.scheduleNext
      (outcome.1.map .selected, outcome.2)
  | .yieldCurrent =>
      let outcome := self.yieldCurrent
      (outcome.1.map .selected, outcome.2)

abbrev runNew (ops : List SchedulerOp) : Scheduler := run step new ops

abbrev historyNew (ops : List SchedulerOp) : List SchedulerEvent := history step new ops

def slotAt (self : Scheduler) (i : Fin maxTasks) : TaskSlot :=
  (self.runQueue.slots.get i)

def taskAt (self : Scheduler) (i : Fin maxTasks) : TaskControlBlock :=
  (self.slotAt i).task

def Occupied (self : Scheduler) (i : Fin maxTasks) : Prop :=
  (self.slotAt i).occupied = true

instance (self : Scheduler) (i : Fin maxTasks) : Decidable (self.Occupied i) :=
  inferInstanceAs (Decidable (_ = true))

def ReadyAt (self : Scheduler) (i : Fin maxTasks) : Prop :=
  self.Occupied i ∧ (self.taskAt i).state = .ready

instance (self : Scheduler) (i : Fin maxTasks) : Decidable (self.ReadyAt i) :=
  inferInstanceAs (Decidable (_ ∧ _))

def RunningAt (self : Scheduler) (i : Fin maxTasks) : Prop :=
  self.Occupied i ∧ (self.taskAt i).state = .running

instance (self : Scheduler) (i : Fin maxTasks) : Decidable (self.RunningAt i) :=
  inferInstanceAs (Decidable (_ ∧ _))

theorem slotAt_new (i : Fin maxTasks) : new.slotAt i = .empty := by
  simp [new, RunQueue.new, slotAt]

theorem not_occupied_new (i : Fin maxTasks) : ¬ new.Occupied i := by
  simp [Occupied, slotAt_new, TaskSlot.empty]

/-! ## Lookup and writes -/

theorem getMut_some {self : Scheduler} {taskId : TaskId} {i : Fin maxTasks}
    (h : self.runQueue.getMut taskId = some i) :
    self.Occupied i ∧ (self.taskAt i).id = taskId := by
  simpa [Occupied, taskAt, slotAt] using position_some h

def withTask (self : Scheduler) (i : Fin maxTasks) (task : TaskControlBlock) :
    Scheduler :=
  { self with runQueue := self.runQueue.writeTask i task }

theorem slotAt_withTask (self : Scheduler) (i j : Fin maxTasks)
    (task : TaskControlBlock) :
    (self.withTask i task).slotAt j =
      if j = i then { self.slotAt i with task } else self.slotAt j :=
  get_set _ i j _

/-! ## Spawn -/

inductive Refused (queue : RunQueue) (taskId : TaskId) : KernelError → Prop where
  | zeroId (zero : taskId = 0) : Refused queue taskId .invalidArgument
  | duplicate (found : (queue.getMut taskId).isSome = true) :
      Refused queue taskId .duplicate
  | full (taken : ∀ i : Fin maxTasks, (queue.slots.get i).occupied = true) :
      Refused queue taskId .capacityExceeded

theorem insert_cases (queue : RunQueue) (task : TaskControlBlock) :
    (∃ error, Refused queue task.id error ∧
        queue.insert task = (.error error, queue)) ∨
      ∃ slot : Fin maxTasks, (queue.slots.get slot).occupied = false ∧
        task.id ≠ 0 ∧ queue.getMut task.id = none ∧
        queue.insert task =
          (.ok (),
            { slots := queue.slots.set slot { occupied := true, task } slot.isLt }) := by
  unfold RunQueue.insert
  by_cases hzero : task.id = 0
  · exact .inl ⟨.invalidArgument, .zeroId hzero, by simp [hzero]⟩
  · by_cases hduplicate : (queue.get task.id).isSome = true
    · have hfound : (queue.getMut task.id).isSome = true := by
        simpa [RunQueue.get] using hduplicate
      exact .inl ⟨.duplicate, .duplicate hfound, by simp [hzero, hduplicate]⟩
    · cases hslot : position queue.slots (fun slot => !slot.occupied) with
      | none =>
          have hfull : ∀ i : Fin maxTasks, (queue.slots.get i).occupied = true := by
            intro i
            simpa using position_eq_none_iff.mp hslot i
          exact .inl ⟨.capacityExceeded, .full hfull, by simp [hzero, hduplicate]⟩
      | some slot =>
          refine .inr ⟨slot, by simpa using position_some hslot, hzero, ?_,
            by simp [hzero, hduplicate]⟩
          simpa [RunQueue.get] using hduplicate

def withSpawned (self : Scheduler) (slot : Fin maxTasks) (nextTaskId : TaskId)
    (task : TaskControlBlock) : Scheduler :=
  { self with
    nextTaskId
    runQueue :=
      { slots := self.runQueue.slots.set slot { occupied := true, task } slot.isLt } }

theorem slotAt_withSpawned (self : Scheduler) (slot j : Fin maxTasks)
    (nextTaskId : TaskId) (task : TaskControlBlock) :
    (self.withSpawned slot nextTaskId task).slotAt j =
      if j = slot then { occupied := true, task } else self.slotAt j :=
  get_set _ slot j _

theorem taskAt_withSpawned_self (self : Scheduler) (slot : Fin maxTasks)
    (nextTaskId : TaskId) (task : TaskControlBlock) :
    (self.withSpawned slot nextTaskId task).taskAt slot = task := by
  rw [taskAt, slotAt_withSpawned, if_pos rfl]

theorem slotAt_withSpawned_of_ne (self : Scheduler) {slot i : Fin maxTasks}
    (hne : i ≠ slot) (nextTaskId : TaskId) (task : TaskControlBlock) :
    (self.withSpawned slot nextTaskId task).slotAt i = self.slotAt i := by
  rw [slotAt_withSpawned, if_neg hne]

theorem spawn_cases (self : Scheduler) (parentId : TaskId)
    (schedulerClass : SchedulerClass) (priority : UInt8)
    (capabilities : CapabilitySet) (budget : BudgetAccount) :
    (2 ^ 64 ≤ self.nextTaskId.toNat + 1 ∧
        self.spawn parentId schedulerClass priority capabilities budget =
          (.error .internal, self)) ∨
      ∃ nextTaskId, nextTaskId.toNat = self.nextTaskId.toNat + 1 ∧
        ((∃ error, Refused self.runQueue self.nextTaskId error ∧
            self.spawn parentId schedulerClass priority capabilities budget =
              (.error error, { self with nextTaskId })) ∨
          ∃ slot, ¬ self.Occupied slot ∧ self.nextTaskId ≠ 0 ∧
            self.runQueue.getMut self.nextTaskId = none ∧
            self.spawn parentId schedulerClass priority capabilities budget =
              (.ok self.nextTaskId,
                self.withSpawned slot nextTaskId
                  (.new self.nextTaskId parentId schedulerClass priority
                    capabilities budget))) := by
  unfold spawn
  cases hnext : checkedAdd64 self.nextTaskId 1 with
  | none => exact .inl ⟨checkedAdd64_eq_none_iff.mp hnext, rfl⟩
  | some nextTaskId =>
      refine .inr ⟨nextTaskId, by simpa using checkedAdd64_eq_some_iff.mp hnext, ?_⟩
      rcases insert_cases self.runQueue (.new self.nextTaskId parentId
        schedulerClass priority capabilities budget) with
        ⟨error, hrefused, h⟩ | ⟨slot, hfree, hzero, hfresh, h⟩
      · exact .inl ⟨error, hrefused, by simp only [h]⟩
      · refine .inr ⟨slot, ?_, hzero, hfresh, by simp only [h, withSpawned]⟩
        simp [Occupied, slotAt, hfree]

/-- What a spawn leaves: the slots as they were, or the new task in a free one. -/
inductive Spawns (sched : Scheduler) : Scheduler → Prop where
  | refused (nextTaskId : TaskId)
      (next_le : sched.nextTaskId.toNat ≤ nextTaskId.toNat) :
      Spawns sched { sched with nextTaskId }
  | added (slot : Fin maxTasks) (nextTaskId parentId : TaskId)
      (schedulerClass : SchedulerClass) (priority : UInt8)
      (capabilities : CapabilitySet) (budget : BudgetAccount)
      (free : ¬ sched.Occupied slot)
      (next_eq : nextTaskId.toNat = sched.nextTaskId.toNat + 1) :
      Spawns sched
        (sched.withSpawned slot nextTaskId
          (.new sched.nextTaskId parentId schedulerClass priority capabilities
            budget))

theorem spawns_spawn (self : Scheduler) (parentId : TaskId)
    (schedulerClass : SchedulerClass) (priority : UInt8)
    (capabilities : CapabilitySet) (budget : BudgetAccount) :
    self.Spawns
      (self.spawn parentId schedulerClass priority capabilities budget).2 := by
  rcases self.spawn_cases parentId schedulerClass priority capabilities budget with
    ⟨-, h⟩ | ⟨nextTaskId, hnext, ⟨error, -, h⟩ | ⟨slot, hfree, -, -, h⟩⟩
  · rw [h]
    exact .refused self.nextTaskId (Nat.le_refl _)
  · rw [h]
    exact .refused nextTaskId (by omega)
  · rw [h]
    exact .added slot nextTaskId _ _ _ _ _ hfree hnext

theorem Spawns.tick {self next : Scheduler} (h : self.Spawns next) :
    next.tick = self.tick := by
  cases h <;> rfl

theorem Spawns.currentTask {self next : Scheduler} (h : self.Spawns next) :
    next.currentTask = self.currentTask := by
  cases h <;> rfl

theorem Spawns.slotAt {self next : Scheduler} (h : self.Spawns next)
    {i : Fin maxTasks} (hi : self.Occupied i) : next.slotAt i = self.slotAt i := by
  cases h with
  | refused => rfl
  | added slot nextTaskId _ _ _ _ _ hfree =>
      have hne : i ≠ slot := fun heq => hfree (heq ▸ hi)
      exact slotAt_withSpawned_of_ne self hne _ _

theorem Spawns.slotAt_cases {self next : Scheduler} (h : self.Spawns next)
    (i : Fin maxTasks) :
    next.slotAt i = self.slotAt i ∨
      ¬ self.Occupied i ∧
        ∃ parentId schedulerClass priority capabilities budget,
          next.slotAt i =
            { occupied := true
              task := .new self.nextTaskId parentId schedulerClass priority
                capabilities budget } := by
  cases h with
  | refused => exact .inl rfl
  | added slot nextTaskId _ _ _ _ _ hfree =>
      by_cases hi : i = slot
      · subst hi
        rw [slotAt_withSpawned, if_pos rfl]
        exact .inr ⟨hfree, _, _, _, _, _, rfl⟩
      · exact .inl (slotAt_withSpawned_of_ne self hi _ _)

/-! ## Transition, cancel and the charge of a yield -/

theorem transition_cases (self : Scheduler) (taskId : TaskId)
    (target : TaskState) :
    (∃ error, error ≠ .internal ∧
        self.transition taskId target = (.error error, self) ∧
        ∀ i, self.runQueue.getMut taskId = some i →
          validTransition (self.taskAt i).state target = false) ∨
      ∃ i, self.runQueue.getMut taskId = some i ∧
        validTransition (self.taskAt i).state target = true ∧
        self.transition taskId target =
          (.ok { taskId, source := (self.taskAt i).state, target },
            { self.withTask i { self.taskAt i with state := target } with
              currentTask :=
                if target = .running then some taskId
                else if self.currentTask = some taskId then none
                else self.currentTask }) := by
  unfold transition
  cases hmut : self.runQueue.getMut taskId with
  | none => exact .inl ⟨.notFound, by simp, rfl, by simp⟩
  | some i =>
      by_cases hvalid : validTransition (self.taskAt i).state target = true
      · have hvalid' := hvalid
        simp only [taskAt, slotAt] at hvalid'
        exact .inr ⟨i, rfl, hvalid, by simp [hvalid', taskAt, slotAt, withTask]⟩
      · have hvalid' := hvalid
        simp only [taskAt, slotAt, Bool.not_eq_true] at hvalid'
        refine .inl ⟨.invalidState, by simp, by simp [hvalid'], ?_⟩
        rintro j hj
        cases hj
        simpa using hvalid

theorem cancel_cases (self : Scheduler) (taskId : TaskId) :
    (∃ error, error ≠ .internal ∧ self.cancel taskId = (.error error, self)) ∨
      ∃ i, self.runQueue.getMut taskId = some i ∧
        (self.taskAt i).state ≠ .zombie ∧
        self.cancel taskId =
          (.ok { taskId, source := (self.taskAt i).state, target := .zombie },
            { self.withTask i { self.taskAt i with state := .zombie } with
              currentTask :=
                if self.currentTask = some taskId then none
                else self.currentTask }) := by
  unfold cancel
  cases hmut : self.runQueue.getMut taskId with
  | none => exact .inl ⟨.notFound, by simp, rfl⟩
  | some i =>
      by_cases hdone : (self.taskAt i).state = .zombie ∨
          (self.taskAt i).state = .exiting
      · have hdone' := hdone
        simp only [taskAt, slotAt] at hdone'
        exact .inl ⟨.invalidState, by simp, by simp [hdone']⟩
      · have hdone' := hdone
        simp only [taskAt, slotAt] at hdone'
        exact .inr ⟨i, rfl, (not_or.mp hdone).1,
          by simp [hdone', taskAt, slotAt, withTask]⟩

theorem consumeTick_cases {budget charged : BudgetAccount}
    (h : budget.consumeTick = .ok charged) :
    ∃ remainingTicks ≤ budget.remainingTicks,
      charged = { budget with remainingTicks } := by
  unfold BudgetAccount.consumeTick at h
  split_ifs at h with hunlimited hspent
  · cases h
    exact ⟨_, UInt64.le_refl _, rfl⟩
  · cases h
    refine ⟨_, ?_, rfl⟩
    rw [UInt64.le_iff_toNat_le, toNat_pred hspent]
    exact Nat.sub_le _ _

theorem consumeTick_bounded {budget charged : BudgetAccount} (hbounded : budget.maxTicks ≠ 0)
    (h : budget.consumeTick = .ok charged) :
    charged.remainingTicks.toNat + 1 = budget.remainingTicks.toNat := by
  unfold BudgetAccount.consumeTick at h
  rw [if_neg hbounded] at h
  split_ifs at h with hspent
  · cases h
    have hpos : budget.remainingTicks.toNat ≠ 0 := UInt64.toNat_inj.not.mpr hspent
    rw [toNat_pred hspent]
    omega

theorem consumeTick_error {budget : BudgetAccount} {error : KernelError}
    (h : budget.consumeTick = .error error) : error = .deadlineExceeded := by
  unfold BudgetAccount.consumeTick at h
  split at h
  · contradiction
  · split at h
    · cases h
      rfl
    · contradiction

/-- The task after the charge of a yield: it pays a tick and stops running. -/
def chargedTask (task : TaskControlBlock) (remainingTicks : UInt64) :
    TaskControlBlock :=
  { task with
    budget := { task.budget with remainingTicks }
    state := if task.state = .running then .ready else task.state }

theorem chargeCurrent_cases (self : Scheduler) :
    (∃ error, (error = .notFound ∨ error = .deadlineExceeded) ∧
        self.chargeCurrent = .error error) ∨
      (self.currentTask = none ∧ self.chargeCurrent = .ok self) ∨
      ∃ current i, ∃ remainingTicks ≤ (self.taskAt i).budget.remainingTicks,
        self.currentTask = some current ∧ self.runQueue.getMut current = some i ∧
        self.chargeCurrent =
          .ok (self.withTask i (chargedTask (self.taskAt i) remainingTicks)) := by
  cases hcurrent : self.currentTask with
  | none => exact .inr (.inl ⟨rfl, by simp [chargeCurrent, hcurrent]⟩)
  | some current =>
      cases hmut : self.runQueue.getMut current with
      | none =>
          exact .inl ⟨.notFound, .inl rfl, by simp [chargeCurrent, hcurrent, hmut]⟩
      | some i =>
          cases hcharge : (self.taskAt i).budget.consumeTick with
          | error error =>
              have hcharge' := hcharge
              simp only [taskAt, slotAt] at hcharge'
              refine .inl ⟨error, .inr (consumeTick_error hcharge), ?_⟩
              simp [chargeCurrent, hcurrent, hmut, hcharge']
          | ok budget =>
              obtain ⟨remainingTicks, hle, hbudget⟩ := consumeTick_cases hcharge
              simp only [taskAt, slotAt] at hcharge
              refine .inr (.inr ⟨current, i, remainingTicks, hle, rfl, hmut, ?_⟩)
              simp only [chargeCurrent, hcurrent, hmut, hcharge, hbudget, withTask]
              rfl

/-! ## Selection -/

def Runnable (self : Scheduler) (i : Fin maxTasks) : Prop :=
  self.ReadyAt i ∨ self.RunningAt i

theorem considerSlot_eq (self : Scheduler) :
    self.considerSlot =
      improve (fun i => (self.slotAt i).occupied && (self.taskAt i).isRunnable)
        (fun i => self.score (self.taskAt i)) := by
  funext best i
  have hskip : ∀ a b : Bool, ((!a || !b) = true) = ((a && b) = false) := by decide
  simp only [considerSlot, improve, hskip]
  rfl

theorem runnable_iff (self : Scheduler) (i : Fin maxTasks) :
    ((self.slotAt i).occupied && (self.taskAt i).isRunnable) = true ↔
      self.Runnable i := by
  simp only [Runnable, ReadyAt, RunningAt, Occupied, TaskControlBlock.isRunnable,
    Bool.and_eq_true, Bool.or_eq_true, beq_iff_eq, and_or_left]

theorem bestOf_slots (self : Scheduler) :
    BestOf (fun i => (self.slotAt i).occupied && (self.taskAt i).isRunnable)
      (fun i => self.score (self.taskAt i)) (List.finRange maxTasks)
      ((List.finRange maxTasks).foldl self.considerSlot (none, 0)) := by
  rw [considerSlot_eq]
  exact bestOf_finRange _ _

theorem bestIndex_none {self : Scheduler} (h : self.bestIndex = none)
    (i : Fin maxTasks) : ¬ self.Runnable i := by
  have hbest := self.bestOf_slots
  simp only [bestIndex] at h
  simp only [BestOf, h] at hbest
  rw [← runnable_iff, hbest i (List.mem_finRange i)]
  simp

theorem bestIndex_some {self : Scheduler} {k : Fin maxTasks}
    (h : self.bestIndex = some k) :
    self.Runnable k ∧ ∀ i, self.Runnable i →
      self.score (self.taskAt i) ≤ self.score (self.taskAt k) ∧
        (i < k → self.score (self.taskAt i) < self.score (self.taskAt k)) := by
  have hbest := self.bestOf_slots
  simp only [bestIndex] at h
  simp only [BestOf, h] at hbest
  obtain ⟨-, hk, -, hall⟩ := hbest
  refine ⟨(self.runnable_iff k).mp hk, fun i hi => ?_⟩
  exact hall i (List.mem_finRange i) ((self.runnable_iff i).mpr hi)

def rotated (selectedId : TaskId) (slot : TaskSlot) : TaskSlot :=
  (rotateSlot selectedId slot).2

def startedTask (task : TaskControlBlock) (contextSwitches : UInt64) :
    TaskControlBlock :=
  { task with
    state := .running
    age := 0
    dynamicPriority := task.basePriority
    contextSwitches }

def agedTask (task : TaskControlBlock) : TaskControlBlock :=
  let age := saturatingAdd16 task.age 1
  { task with
    age
    dynamicPriority := saturatingAdd8 task.basePriority (age / 4).toUInt8 }

theorem rotated_of_free {selectedId : TaskId} {slot : TaskSlot}
    (h : slot.occupied = false) : rotated selectedId slot = slot := by
  simp [rotated, rotateSlot, h]

theorem rotated_of_selected {selectedId : TaskId} {slot : TaskSlot}
    (h : slot.occupied = true) (hid : slot.task.id = selectedId) :
    ∃ contextSwitches, contextSwitches.toNat ≤ slot.task.contextSwitches.toNat + 1 ∧
      rotated selectedId slot =
        { slot with task := startedTask slot.task contextSwitches } := by
  cases hnext : checkedAdd64 slot.task.contextSwitches 1 with
  | none =>
      refine ⟨slot.task.contextSwitches, by omega, ?_⟩
      simp [rotated, rotateSlot, h, hid, hnext, startedTask]
  | some contextSwitches =>
      have hcount := checkedAdd64_eq_some_iff.mp hnext
      refine ⟨contextSwitches, by simpa using hcount.le, ?_⟩
      simp [rotated, rotateSlot, h, hid, hnext, startedTask]

theorem rotated_of_other {selectedId : TaskId} {slot : TaskSlot}
    (h : slot.occupied = true) (hid : slot.task.id ≠ selectedId) :
    rotated selectedId slot =
      { slot with
        task :=
          if slot.task.state = .running then { slot.task with state := .ready }
          else if slot.task.state = .ready then agedTask slot.task
          else slot.task } := by
  obtain ⟨occupied, task⟩ := slot
  simp only at h hid
  subst h
  simp only [rotated, rotateSlot, hid, Bool.not_true, Bool.false_eq_true,
    if_false]
  split_ifs <;> rfl

theorem rotateSlot_error {selectedId : TaskId} {slot : TaskSlot}
    {error : KernelError} (h : (rotateSlot selectedId slot).1 = .error error) :
    error = .internal ∧ slot.occupied = true ∧ slot.task.id = selectedId ∧
      2 ^ 64 ≤ slot.task.contextSwitches.toNat + 1 := by
  unfold rotateSlot at h
  by_cases hoccupied : slot.occupied = true
  · by_cases hid : slot.task.id = selectedId
    · cases hnext : checkedAdd64 slot.task.contextSwitches 1 with
      | none =>
          simp only [hoccupied, hid, hnext] at h
          cases h
          exact ⟨rfl, hoccupied, hid, checkedAdd64_eq_none_iff.mp hnext⟩
      | some contextSwitches => simp [hoccupied, hid, hnext] at h
    · simp only [hoccupied, hid, Bool.not_true, Bool.false_eq_true, if_false] at h
      split_ifs at h
  · simp [hoccupied] at h

structure Selects (sched : Scheduler) (k : Fin maxTasks) (next : Scheduler) :
    Prop where
  tick : next.tick.toNat = sched.tick.toNat + 1
  nextTaskId : next.nextTaskId = sched.nextTaskId
  currentTask : next.currentTask = some (sched.taskAt k).id
  runnable : sched.Runnable k
  best : ∀ i, sched.Runnable i →
    { sched with tick := next.tick }.score (sched.taskAt i) ≤
        { sched with tick := next.tick }.score (sched.taskAt k) ∧
      (i < k → { sched with tick := next.tick }.score (sched.taskAt i) <
        { sched with tick := next.tick }.score (sched.taskAt k))
  slotAt : ∀ i, next.slotAt i = rotated (sched.taskAt k).id (sched.slotAt i)

theorem Selects.occupied {sched next : Scheduler} {k : Fin maxTasks}
    (h : sched.Selects k next) : sched.Occupied k := by
  rcases h.runnable with hk | hk
  · exact hk.1
  · exact hk.1

/--
A selection is refused at the last tick, finds nothing to run, picks a slot, or
stops inside its loop because a switch counter is exhausted.
-/
theorem scheduleNext_cases (self : Scheduler) :
    (2 ^ 64 ≤ self.tick.toNat + 1 ∧ self.scheduleNext = (.error .internal, self)) ∨
      (∃ tick, tick.toNat = self.tick.toNat + 1 ∧ (∀ i, ¬ self.Runnable i) ∧
        self.scheduleNext = (.ok none, { self with tick, currentTask := none })) ∨
      (∃ k next, self.Selects k next ∧
        self.scheduleNext = (.ok (some (self.taskAt k).id), next)) ∨
      ∃ k next, self.scheduleNext = (.error .internal, next) ∧
        next.tick.toNat = self.tick.toNat + 1 ∧
        next.nextTaskId = self.nextTaskId ∧
        (∃ i, self.Occupied i ∧ (self.taskAt i).id = (self.taskAt k).id ∧
          2 ^ 64 ≤ (self.taskAt i).contextSwitches.toNat + 1) ∧
        ∀ i, next.slotAt i = self.slotAt i ∨
          next.slotAt i = rotated (self.taskAt k).id (self.slotAt i) := by
  cases htick : checkedAdd64 self.tick 1 with
  | none =>
      exact .inl ⟨checkedAdd64_eq_none_iff.mp htick, by simp [scheduleNext, htick]⟩
  | some tick =>
      have htick' : tick.toNat = self.tick.toNat + 1 := by
        simpa using checkedAdd64_eq_some_iff.mp htick
      cases hbest : { self with tick }.bestIndex with
      | none =>
          refine .inr (.inl ⟨tick, htick', fun i => bestIndex_none hbest i, ?_⟩)
          simp [scheduleNext, htick, hbest]
      | some k =>
          obtain ⟨hk, hall⟩ := bestIndex_some hbest
          cases hloop : forEach (rotateSlot (self.taskAt k).id) self.runQueue.slots with
          | mk result slots =>
              have hslots : slots =
                  (forEach (rotateSlot (self.taskAt k).id) self.runQueue.slots).2 := by
                rw [hloop]
              simp only [taskAt, slotAt] at hloop
              cases result with
              | ok =>
                  have hnext : self.scheduleNext =
                      (.ok (some (self.taskAt k).id),
                        { self with
                          tick
                          runQueue := { slots }
                          currentTask := some (self.taskAt k).id }) := by
                    simp only [scheduleNext, htick, hbest, hloop, taskAt, slotAt]
                  have hdone := forEach_ok (congrArg Prod.fst hloop)
                  have hselects : self.Selects k
                      { self with
                        tick
                        runQueue := { slots }
                        currentTask := some (self.taskAt k).id } := by
                    refine ⟨htick', rfl, rfl, hk, hall, fun i => ?_⟩
                    simp only [slotAt, hslots]
                    exact (hdone i).2
                  exact .inr (.inr (.inl ⟨k, _, hselects, hnext⟩))
              | error error =>
                  have hnext : self.scheduleNext =
                      (.error error, { self with tick, runQueue := { slots } }) := by
                    simp only [scheduleNext, htick, hbest, hloop]
                  obtain ⟨i, hi⟩ := forEach_error (congrArg Prod.fst hloop)
                  obtain ⟨rfl, hoccupied, hid, hmax⟩ := rotateSlot_error hi
                  refine .inr (.inr (.inr ⟨k, { self with tick, runQueue := { slots } },
                    hnext, htick', rfl, ⟨i, hoccupied, hid, hmax⟩, fun j => ?_⟩))
                  simp only [slotAt, hslots]
                  exact forEach_cell _ j

end Scheduler

end AlaniKernel
