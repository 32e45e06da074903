import AlaniKernel.Foundation.Identity
import AlaniKernel.Scheduler.Steps

/-!
# Task identity over runs

No operation but a spawn adds a task, and none changes what a task was spawned
with.  Identifiers therefore name at most one slot in every reachable state.
-/

namespace AlaniKernel

open AlaniKernel.Foundation

/-- What a spawn fixes, with the fields that later operations write blanked. -/
def TaskControlBlock.spawned (self : TaskControlBlock) : TaskControlBlock :=
  { self with
    state := .ready
    dynamicPriority := self.basePriority
    age := 0
    budget := { self.budget with remainingTicks := self.budget.maxTicks }
    contextSwitches := 0 }

namespace Scheduler

structure SameTasks (before after : Scheduler) : Prop where
  nextTaskId : after.nextTaskId = before.nextTaskId
  occupied : ∀ i, after.Occupied i ↔ before.Occupied i
  spawned : ∀ i, (after.taskAt i).spawned = (before.taskAt i).spawned

theorem SameTasks.id {before after : Scheduler} (h : SameTasks before after)
    (i : Fin maxTasks) : (after.taskAt i).id = (before.taskAt i).id :=
  congrArg (·.id) (h.spawned i)

theorem SameTasks.kept {before after : Scheduler} (h : SameTasks before after)
    {i : Fin maxTasks} (hi : before.Occupied i) :
    after.Occupied i ∧ (after.taskAt i).id = (before.taskAt i).id :=
  ⟨(h.occupied i).mpr hi, h.id i⟩

theorem SameTasks.trans {first second third : Scheduler}
    (h : SameTasks first second) (h' : SameTasks second third) :
    SameTasks first third :=
  ⟨h'.nextTaskId.trans h.nextTaskId, fun i => (h'.occupied i).trans (h.occupied i),
    fun i => (h'.spawned i).trans (h.spawned i)⟩

/--
A scheduler that differs from another one only in task states, paid ticks and
the current task.
-/
structure Restated (before after : Scheduler) : Prop where
  nextTaskId : after.nextTaskId = before.nextTaskId
  tick : after.tick = before.tick
  slotAt : ∀ i, ∃ state remainingTicks,
    after.slotAt i =
      { before.slotAt i with
        task :=
          { before.taskAt i with
            state
            budget := { (before.taskAt i).budget with remainingTicks } } }

theorem Restated.refl (self : Scheduler) : Restated self self :=
  ⟨rfl, rfl, fun _ => ⟨_, _, rfl⟩⟩

theorem Restated.sameTasks {before after : Scheduler} (h : Restated before after) :
    SameTasks before after := by
  refine ⟨h.nextTaskId, fun i => ?_, fun i => ?_⟩
  · obtain ⟨state, remainingTicks, hslot⟩ := h.slotAt i
    simp only [Occupied, hslot]
  · obtain ⟨state, remainingTicks, hslot⟩ := h.slotAt i
    simp only [taskAt, hslot, TaskControlBlock.spawned]

theorem Restated.withTask (self : Scheduler) (i : Fin maxTasks)
    (state : TaskState) (remainingTicks : UInt64) (currentTask : Option TaskId) :
    Restated self
      { self.withTask i
          { self.taskAt i with
            state
            budget := { (self.taskAt i).budget with remainingTicks } } with
        currentTask } := by
  refine ⟨rfl, rfl, fun j => ?_⟩
  have hslot := slotAt_withTask self i j
    { self.taskAt i with
      state
      budget := { (self.taskAt i).budget with remainingTicks } }
  by_cases hij : j = i
  · subst hij
    rw [if_pos rfl] at hslot
    exact ⟨state, remainingTicks, hslot⟩
  · rw [if_neg hij] at hslot
    exact ⟨_, _, hslot⟩

theorem restated_transition (self : Scheduler) (taskId : TaskId)
    (target : TaskState) : Restated self (self.transition taskId target).2 := by
  rcases self.transition_cases taskId target with
    ⟨error, -, h, -⟩ | ⟨i, -, -, h⟩
  · rw [h]
    exact .refl self
  · rw [h]
    exact .withTask self i target (self.taskAt i).budget.remainingTicks _

theorem restated_cancel (self : Scheduler) (taskId : TaskId) :
    Restated self (self.cancel taskId).2 := by
  rcases self.cancel_cases taskId with ⟨error, -, h⟩ | ⟨i, -, -, h⟩
  · rw [h]
    exact .refl self
  · rw [h]
    exact .withTask self i .zombie (self.taskAt i).budget.remainingTicks _

theorem restated_chargeCurrent {self charged : Scheduler}
    (h : self.chargeCurrent = .ok charged) : Restated self charged := by
  rcases self.chargeCurrent_cases with
    ⟨error, -, herror⟩ | ⟨-, hidle⟩ | ⟨current, i, remainingTicks, -, -, -, hpaid⟩
  · rw [herror] at h
    contradiction
  · rw [hidle] at h
    cases h
    exact .refl self
  · rw [hpaid] at h
    cases h
    exact .withTask self i _ remainingTicks _

/-! ## Selection keeps the tasks -/

theorem spawned_startedTask (task : TaskControlBlock) (contextSwitches : UInt64) :
    (startedTask task contextSwitches).spawned = task.spawned := rfl

theorem spawned_agedTask (task : TaskControlBlock) :
    (agedTask task).spawned = task.spawned := rfl

theorem rotated_keeps (selectedId : TaskId) (slot : TaskSlot) :
    (rotated selectedId slot).occupied = slot.occupied ∧
      (rotated selectedId slot).task.spawned = slot.task.spawned := by
  by_cases hoccupied : slot.occupied = true
  · by_cases hid : slot.task.id = selectedId
    · obtain ⟨contextSwitches, -, h⟩ := rotated_of_selected hoccupied hid
      rw [h]
      exact ⟨rfl, spawned_startedTask _ _⟩
    · rw [rotated_of_other hoccupied hid]
      refine ⟨rfl, ?_⟩
      dsimp only
      split_ifs
      · rfl
      · exact spawned_agedTask _
      · rfl
  · rw [rotated_of_free (by simpa using hoccupied)]
    exact ⟨rfl, rfl⟩

theorem sameTasks_of_rotated {before after : Scheduler} {selectedId : TaskId}
    (hnext : after.nextTaskId = before.nextTaskId)
    (h : ∀ i, after.slotAt i = before.slotAt i ∨
      after.slotAt i = rotated selectedId (before.slotAt i)) :
    SameTasks before after := by
  have hkeeps : ∀ i, (after.slotAt i).occupied = (before.slotAt i).occupied ∧
      (after.slotAt i).task.spawned = (before.slotAt i).task.spawned := by
    intro i
    rcases h i with hi | hi
    · rw [hi]
      exact ⟨rfl, rfl⟩
    · rw [hi]
      exact rotated_keeps selectedId (before.slotAt i)
  refine ⟨hnext, fun i => ?_, fun i => (hkeeps i).2⟩
  rw [Occupied, (hkeeps i).1, Occupied]

theorem scheduleNext_slots (self : Scheduler) :
    self.scheduleNext.2.nextTaskId = self.nextTaskId ∧
      ∃ selectedId, ∀ i, self.scheduleNext.2.slotAt i = self.slotAt i ∨
        self.scheduleNext.2.slotAt i = rotated selectedId (self.slotAt i) := by
  rcases self.scheduleNext_cases with
    ⟨-, h⟩ | ⟨tick, -, -, h⟩ | ⟨k, next, hselects, h⟩ |
      ⟨k, next, h, -, hid, -, hslots⟩
  · rw [h]
    exact ⟨rfl, 0, fun i => .inl rfl⟩
  · rw [h]
    exact ⟨rfl, 0, fun i => .inl rfl⟩
  · rw [h]
    exact ⟨hselects.nextTaskId, _, fun i => .inr (hselects.slotAt i)⟩
  · rw [h]
    exact ⟨hid, _, hslots⟩

theorem sameTasks_scheduleNext (self : Scheduler) :
    SameTasks self self.scheduleNext.2 := by
  obtain ⟨hnext, selectedId, hslots⟩ := self.scheduleNext_slots
  exact sameTasks_of_rotated hnext hslots

/-! ## The selections of a run -/

/-- The state in which an operation executes `schedule_next`, if it does. -/
def selectionState (self : Scheduler) : SchedulerOp → Option Scheduler
  | .scheduleNext => some self
  | .yieldCurrent =>
      match self.chargeCurrent with
      | .ok charged => some charged
      | .error _ => none
  | _ => none

theorem selectionState_some {self charged : Scheduler} {op : SchedulerOp}
    (h : self.selectionState op = some charged) :
    Restated self charged ∧
      self.step op =
        (charged.scheduleNext.1.map .selected, charged.scheduleNext.2) := by
  cases op with
  | scheduleNext =>
      cases h
      exact ⟨.refl self, rfl⟩
  | yieldCurrent =>
      cases hcharge : self.chargeCurrent with
      | error error => simp [selectionState, hcharge] at h
      | ok paid =>
          simp only [selectionState, hcharge, Option.some.injEq] at h
          subst h
          exact ⟨restated_chargeCurrent hcharge, by simp [step, yieldCurrent, hcharge]⟩
  | spawn | transition | cancel => simp [selectionState] at h

theorem step_cases (self : Scheduler) (op : SchedulerOp) :
    (op.isSpawn = true ∧ self.selectionState op = none ∧
        self.Spawns (self.step op).2) ∨
      (self.selectionState op = none ∧ Restated self (self.step op).2) ∨
      ∃ charged, self.selectionState op = some charged ∧
        Restated self charged ∧
        self.step op =
          (charged.scheduleNext.1.map .selected, charged.scheduleNext.2) := by
  cases hselection : self.selectionState op with
  | some charged =>
      obtain ⟨hcharged, hstep⟩ := selectionState_some hselection
      exact .inr (.inr ⟨charged, rfl, hcharged, hstep⟩)
  | none =>
      cases op with
      | spawn => exact .inl ⟨rfl, rfl, self.spawns_spawn _ _ _ _ _⟩
      | transition taskId target =>
          exact .inr (.inl ⟨rfl, restated_transition self taskId target⟩)
      | cancel taskId => exact .inr (.inl ⟨rfl, restated_cancel self taskId⟩)
      | scheduleNext => simp [selectionState] at hselection
      | yieldCurrent =>
          cases hcharge : self.chargeCurrent with
          | ok paid => simp [selectionState, hcharge] at hselection
          | error error =>
              have hself : (self.step .yieldCurrent).2 = self := by
                simp [step, yieldCurrent, hcharge]
              rw [hself]
              exact .inr (.inl ⟨rfl, .refl self⟩)

theorem step_invariant {I : Scheduler → Prop}
    (hspawns : ∀ {self next}, I self → self.Spawns next → I next)
    (hrestated : ∀ {before after}, I before → Restated before after → I after)
    (hnext : ∀ {self}, I self → I self.scheduleNext.2)
    {self : Scheduler} (h : I self) (op : SchedulerOp) : I (self.step op).2 := by
  rcases self.step_cases op with
    ⟨-, -, hspawned⟩ | ⟨-, hwritten⟩ | ⟨charged, -, hcharged, hstep⟩
  · exact hspawns h hspawned
  · exact hrestated h hwritten
  · rw [hstep]
    exact hnext (hrestated h hcharged)

theorem sameTasks_step {self : Scheduler} {op : SchedulerOp}
    (hop : op.isSpawn = false) : SameTasks self (self.step op).2 := by
  rcases self.step_cases op with
    ⟨hspawn, -⟩ | ⟨-, hwritten⟩ | ⟨charged, -, hcharged, hstep⟩
  · rw [hop] at hspawn
    contradiction
  · exact hwritten.sameTasks
  · rw [hstep]
    exact hcharged.sameTasks.trans (sameTasks_scheduleNext charged)

theorem kept_step (self : Scheduler) (op : SchedulerOp) {i : Fin maxTasks}
    (hi : self.Occupied i) :
    (self.step op).2.Occupied i ∧
      ((self.step op).2.taskAt i).id = (self.taskAt i).id := by
  rcases self.step_cases op with
    ⟨-, -, hspawned⟩ | ⟨-, hwritten⟩ | ⟨charged, -, hcharged, hstep⟩
  · rw [Occupied, taskAt, hspawned.slotAt hi]
    exact ⟨hi, rfl⟩
  · exact hwritten.sameTasks.kept hi
  · rw [hstep]
    exact (hcharged.sameTasks.trans (sameTasks_scheduleNext charged)).kept hi

/-! ## Distinct identifiers -/

/-- Issued task identifiers are nonzero, distinct and below the next one. -/
structure WellFormed (sched : Scheduler) : Prop where
  next_pos : 0 < sched.nextTaskId.toNat
  id_pos : ∀ i, sched.Occupied i → 0 < (sched.taskAt i).id.toNat
  id_lt : ∀ i, sched.Occupied i → (sched.taskAt i).id.toNat < sched.nextTaskId.toNat
  id_unique : ∀ i j, sched.Occupied i → sched.Occupied j →
    (sched.taskAt i).id = (sched.taskAt j).id → i = j

theorem WellFormed.id_ne_zero {self : Scheduler} (h : self.WellFormed) {i : Fin maxTasks}
    (hi : self.Occupied i) : (self.taskAt i).id ≠ 0 := by
  have hpos := h.id_pos i hi
  intro hzero
  rw [hzero] at hpos
  contradiction

theorem wellFormed_new : new.WellFormed := by
  refine ⟨by decide, ?_, ?_, ?_⟩
  · intro i hi
    exact absurd hi (not_occupied_new i)
  · intro i hi
    exact absurd hi (not_occupied_new i)
  · intro i j hi
    exact absurd hi (not_occupied_new i)

theorem WellFormed.numbered {self : Scheduler} (hself : self.WellFormed) :
    Numbered self.Occupied (fun i => (self.taskAt i).id.toNat)
      self.nextTaskId.toNat :=
  ⟨hself.id_lt, fun i j hi hj hid =>
    hself.id_unique i j hi hj (UInt64.toNat_inj.mp hid)⟩

theorem wellFormed_of_numbered {self : Scheduler}
    (hnext : 0 < self.nextTaskId.toNat)
    (hpos : ∀ i, self.Occupied i → 0 < (self.taskAt i).id.toNat)
    (h : Numbered self.Occupied (fun i => (self.taskAt i).id.toNat)
      self.nextTaskId.toNat) : self.WellFormed :=
  ⟨hnext, hpos, h.lt, fun i j hi hj hid =>
    h.unique i j hi hj (congrArg UInt64.toNat hid)⟩

theorem WellFormed.of_sameTasks {before after : Scheduler} (hself : before.WellFormed)
    (h : SameTasks before after) : after.WellFormed := by
  have hlive := fun i => (h.occupied i).mp
  refine wellFormed_of_numbered ?_ (fun i hi => ?_) ?_
  · rw [h.nextTaskId]
    exact hself.next_pos
  · rw [h.id]
    exact hself.id_pos i (hlive i hi)
  · refine hself.numbered.restrict hlive (fun i _ => ?_) ?_
    · rw [h.id]
    · rw [h.nextTaskId]

theorem WellFormed.withSpawned {self : Scheduler} (hself : self.WellFormed)
    {slot : Fin maxTasks} {nextTaskId : TaskId} {task : TaskControlBlock}
    (hnext : nextTaskId.toNat = self.nextTaskId.toNat + 1)
    (hid : task.id = self.nextTaskId) :
    (self.withSpawned slot nextTaskId task).WellFormed := by
  have hfresh := taskAt_withSpawned_self self slot nextTaskId task
  have hkept : ∀ i, i ≠ slot →
      (self.withSpawned slot nextTaskId task).slotAt i = self.slotAt i :=
    fun i hne => slotAt_withSpawned_of_ne self hne nextTaskId task
  have hold : ∀ i, i ≠ slot →
      (self.withSpawned slot nextTaskId task).Occupied i → self.Occupied i := by
    intro i hne hi
    rwa [Occupied, hkept i hne] at hi
  refine wellFormed_of_numbered ?_ (fun i hi => ?_) ?_
  · change 0 < nextTaskId.toNat
    omega
  · by_cases hne : i = slot
    · rw [hne, hfresh, hid]
      exact hself.next_pos
    · rw [taskAt, hkept i hne]
      exact hself.id_pos i (hold i hne hi)
  · change Numbered _ _ nextTaskId.toNat
    rw [hnext]
    refine hself.numbered.issue slot ?_ hold fun i hne _ => ?_
    · rw [hfresh, hid]
    · rw [taskAt, hkept i hne, taskAt]

theorem WellFormed.spawns {self next : Scheduler} (hself : self.WellFormed)
    (h : self.Spawns next) : next.WellFormed := by
  cases h with
  | refused nextTaskId hle =>
      refine wellFormed_of_numbered (lt_of_lt_of_le hself.next_pos hle)
        hself.id_pos ?_
      exact hself.numbered.restrict (fun _ => id) (fun _ _ => rfl) hle
  | added _ _ _ _ _ _ _ _ hnext => exact hself.withSpawned hnext rfl

theorem WellFormed.step {self : Scheduler} (hself : self.WellFormed)
    (op : SchedulerOp) : (self.step op).2.WellFormed :=
  step_invariant (fun h hspawned => h.spawns hspawned)
    (fun h hwritten => h.of_sameTasks hwritten.sameTasks)
    (fun h => h.of_sameTasks (sameTasks_scheduleNext _)) hself op

theorem wellFormed_runNew (ops : List SchedulerOp) : (runNew ops).WellFormed :=
  run_invariant (fun _ op h => h.step op) wellFormed_new ops

theorem WellFormed.getMut_taskAt {self : Scheduler} (hself : self.WellFormed)
    {i : Fin maxTasks} (hi : self.Occupied i) :
    self.runQueue.getMut (self.taskAt i).id = some i := by
  refine position_of_unique ?_ fun j hj => ?_
  · simpa [Occupied, taskAt, slotAt] using hi
  · have hj' : self.Occupied j ∧ (self.taskAt j).id = (self.taskAt i).id := by
      simpa [Occupied, taskAt, slotAt] using hj
    exact hself.id_unique j i hj'.1 hi hj'.2

theorem WellFormed.spawn_refused {self : Scheduler} (hself : self.WellFormed)
    {error : KernelError} (h : Refused self.runQueue self.nextTaskId error) :
    error = .capacityExceeded ∧ ∀ i, self.Occupied i := by
  cases h with
  | zeroId hzero =>
      have hpos := hself.next_pos
      rw [hzero] at hpos
      contradiction
  | duplicate hfound =>
      obtain ⟨i, hi⟩ := Option.isSome_iff_exists.mp hfound
      obtain ⟨hoccupied, hid⟩ := getMut_some hi
      have hbelow := hself.id_lt i hoccupied
      rw [hid] at hbelow
      omega
  | full htaken => exact ⟨rfl, htaken⟩

/-! ## Switch counters -/

def SwitchesBounded (self : Scheduler) : Prop :=
  ∀ i, self.Occupied i →
    (self.taskAt i).contextSwitches.toNat ≤ self.tick.toNat

theorem switchesBounded_new : new.SwitchesBounded :=
  fun i hi => absurd hi (not_occupied_new i)

theorem SwitchesBounded.of_restated {before after : Scheduler}
    (hself : before.SwitchesBounded) (h : Restated before after) :
    after.SwitchesBounded := by
  intro i hi
  have hbefore := hself i ((h.sameTasks.occupied i).mp hi)
  obtain ⟨state, remainingTicks, hslot⟩ := h.slotAt i
  rw [h.tick, taskAt, hslot]
  exact hbefore

/-- The clock runs out before a switch counter does. -/
theorem SwitchesBounded.scheduleNext_cases {self : Scheduler}
    (hself : self.SwitchesBounded) :
    (2 ^ 64 ≤ self.tick.toNat + 1 ∧ self.scheduleNext = (.error .internal, self)) ∨
      (∃ tick, tick.toNat = self.tick.toNat + 1 ∧ (∀ i, ¬ self.Runnable i) ∧
        self.scheduleNext = (.ok none, { self with tick, currentTask := none })) ∨
      ∃ k next, self.Selects k next ∧
        self.scheduleNext = (.ok (some (self.taskAt k).id), next) := by
  rcases Scheduler.scheduleNext_cases self with
    h | hnone | hselects | ⟨k, next, h, htick, -, ⟨i, hi, -, hmax⟩, -⟩
  · exact .inl h
  · exact .inr (.inl hnone)
  · exact .inr (.inr hselects)
  · have hle := hself i hi
    have hlt := next.tick.toNat_lt
    omega

theorem SwitchesBounded.scheduleNext {self : Scheduler}
    (hself : self.SwitchesBounded) : self.scheduleNext.2.SwitchesBounded := by
  rcases hself.scheduleNext_cases with
    ⟨-, h⟩ | ⟨tick, htick, -, h⟩ | ⟨k, next, hselects, h⟩
  · rw [h]
    exact hself
  · rw [h]
    intro i hi
    have hle := hself i hi
    change (self.taskAt i).contextSwitches.toNat ≤ tick.toNat
    omega
  · have hsame := sameTasks_scheduleNext self
    rw [h] at hsame ⊢
    intro i hi
    have hi' := (hsame.occupied i).mp hi
    have hle := hself i hi'
    have htick := hselects.tick
    rw [taskAt, hselects.slotAt]
    by_cases hid : (self.taskAt i).id = (self.taskAt k).id
    · obtain ⟨contextSwitches, hcount, hslot⟩ := rotated_of_selected hi' hid
      rw [hslot]
      change contextSwitches.toNat ≤ next.tick.toNat
      change _ ≤ (self.taskAt i).contextSwitches.toNat + 1 at hcount
      omega
    · have hkept : (rotated (self.taskAt k).id (self.slotAt i)).task.contextSwitches =
          (self.taskAt i).contextSwitches := by
        rw [rotated_of_other hi' hid]
        dsimp only
        split_ifs <;> rfl
      rw [hkept]
      change (self.taskAt i).contextSwitches.toNat ≤ next.tick.toNat
      omega

theorem SwitchesBounded.spawns {self next : Scheduler}
    (hself : self.SwitchesBounded) (h : self.Spawns next) :
    next.SwitchesBounded := by
  intro i hi
  rw [h.tick]
  rcases h.slotAt_cases i with hkept | ⟨-, parentId, _, _, _, _, hnew⟩
  · rw [Occupied, hkept] at hi
    rw [taskAt, hkept]
    exact hself i hi
  · rw [taskAt, hnew]
    exact Nat.zero_le _

end Scheduler

end AlaniKernel
