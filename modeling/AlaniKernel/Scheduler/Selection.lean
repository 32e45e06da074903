import AlaniKernel.Scheduler.Aging

/-!
# What a selection does

The task that `schedule_next` picks, and what becomes of every slot when it
does, from any state of the table.
-/

namespace AlaniKernel

open AlaniKernel.Foundation

namespace Scheduler

/-! ## The best runnable task -/

/-- Slot `k` has the highest score among the runnable ones, and the first such. -/
structure Best (sched : Scheduler) (k : Fin maxTasks) : Prop where
  runnable : sched.Runnable k
  highest : ∀ i, sched.Runnable i →
    sched.score (sched.taskAt i) ≤ sched.score (sched.taskAt k)
  earliest : ∀ i, sched.Runnable i → i < k →
    sched.score (sched.taskAt i) < sched.score (sched.taskAt k)

theorem Best.unique {self : Scheduler} {k l : Fin maxTasks} (hk : self.Best k)
    (hl : self.Best l) : k = l := by
  have hscores := UInt32.le_antisymm (hk.highest l hl.runnable) (hl.highest k hk.runnable)
  rcases lt_trichotomy k l with hlt | heq | hgt
  · have hless := hl.earliest k hk.runnable hlt
    rw [hscores] at hless
    exact absurd hless (UInt32.lt_irrefl _)
  · exact heq
  · have hless := hk.earliest l hl.runnable hgt
    rw [hscores] at hless
    exact absurd hless (UInt32.lt_irrefl _)

theorem best_of_bestIndex {self : Scheduler} {k : Fin maxTasks}
    (h : self.bestIndex = some k) : self.Best k :=
  { runnable := (bestIndex_some h).1
    highest := fun i hi => ((bestIndex_some h).2 i hi).1
    earliest := fun i hi => ((bestIndex_some h).2 i hi).2 }

theorem bestIndex_eq_some_iff {self : Scheduler} {k : Fin maxTasks} :
    self.bestIndex = some k ↔ self.Best k := by
  constructor
  · exact best_of_bestIndex
  · intro hk
    cases hbest : self.bestIndex with
    | none => exact absurd hk.runnable (bestIndex_none hbest k)
    | some l => rw [(best_of_bestIndex hbest).unique hk]

theorem bestIndex_eq_none_iff {self : Scheduler} :
    self.bestIndex = none ↔ ∀ i, ¬ self.Runnable i := by
  constructor
  · exact bestIndex_none
  · intro hidle
    cases hbest : self.bestIndex with
    | none => rfl
    | some k => exact absurd (best_of_bestIndex hbest).runnable (hidle k)

/-! ## The outcomes of a selection -/

def ticked (self : Scheduler) : Scheduler := { self with tick := self.tick + 1 }

theorem runnable_ticked (self : Scheduler) (i : Fin maxTasks) :
    self.ticked.Runnable i ↔ self.Runnable i := Iff.rfl

theorem checkedAdd64_tick {self : Scheduler} (h : self.tick.toNat + 1 < 2 ^ 64) :
    checkedAdd64 self.tick 1 = some (self.tick + 1) :=
  if_pos h

theorem scheduleNext_last {self : Scheduler} (h : 2 ^ 64 ≤ self.tick.toNat + 1) :
    self.scheduleNext = (.error .internal, self) := by
  have htick : checkedAdd64 self.tick 1 = none := checkedAdd64_eq_none_iff.mpr h
  simp only [scheduleNext, htick]

theorem scheduleNext_idle {self : Scheduler} (htick : self.tick.toNat + 1 < 2 ^ 64)
    (hidle : ∀ i, ¬ self.Runnable i) :
    self.scheduleNext = (.ok none, { self.ticked with currentTask := none }) := by
  have hnone : self.ticked.bestIndex = none := bestIndex_eq_none_iff.mpr hidle
  rw [ticked] at hnone
  simp only [scheduleNext, checkedAdd64_tick htick, hnone]
  rfl

def CounterSpent (self : Scheduler) (k : Fin maxTasks) : Prop :=
  ∃ i, self.Occupied i ∧ (self.taskAt i).id = (self.taskAt k).id ∧
    2 ^ 64 ≤ (self.taskAt i).contextSwitches.toNat + 1

theorem rotateSlot_ok_iff {selectedId : TaskId} {slot : TaskSlot} :
    (rotateSlot selectedId slot).1 = .ok () ↔
      (slot.occupied = true → slot.task.id = selectedId →
        slot.task.contextSwitches.toNat + 1 < 2 ^ 64) := by
  constructor
  · intro hok hoccupied hid
    by_contra hspent
    have hnone : checkedAdd64 slot.task.contextSwitches 1 = none :=
      checkedAdd64_eq_none_iff.mpr (not_lt.mp hspent)
    simp [rotateSlot, hoccupied, hid, hnone] at hok
  · intro h
    cases hrotated : (rotateSlot selectedId slot).1 with
    | ok => rfl
    | error error =>
        obtain ⟨-, hoccupied, hid, hspent⟩ := rotateSlot_error hrotated
        have hleft := h hoccupied hid
        omega

theorem rotate_ok_iff (self : Scheduler) (k : Fin maxTasks) :
    (forEach (rotateSlot (self.taskAt k).id) self.runQueue.slots).1 = .ok () ↔
      ¬ self.CounterSpent k := by
  simp only [forEach_ok_iff, rotateSlot_ok_iff, CounterSpent, not_exists, not_and, not_le]
  rfl

theorem scheduleNext_best {self : Scheduler} (htick : self.tick.toNat + 1 < 2 ^ 64)
    {k : Fin maxTasks} (hbest : self.ticked.Best k) :
    let loop := forEach (rotateSlot (self.taskAt k).id) self.runQueue.slots
    (loop.1 = .ok () →
        self.scheduleNext = (.ok (some (self.taskAt k).id),
          { self.ticked with
            runQueue := { slots := loop.2 }
            currentTask := some (self.taskAt k).id })) ∧
      ∀ error, loop.1 = .error error →
        self.scheduleNext =
          (.error error, { self.ticked with runQueue := { slots := loop.2 } }) := by
  intro loop
  have hindex := bestIndex_eq_some_iff.mpr hbest
  rw [ticked] at hindex
  have hloop : forEach (rotateSlot (self.runQueue.slots.get k).task.id)
      self.runQueue.slots = loop := rfl
  clear_value loop
  obtain ⟨result, slots⟩ := loop
  constructor
  · rintro rfl
    simp only [scheduleNext, checkedAdd64_tick htick, hindex, hloop]
    rfl
  · rintro error rfl
    simp only [scheduleNext, checkedAdd64_tick htick, hindex, hloop]
    rfl

theorem toNat_tick_ticked {self : Scheduler} (h : self.tick.toNat + 1 < 2 ^ 64) :
    self.ticked.tick.toNat = self.tick.toNat + 1 :=
  checkedAdd64_eq_some_iff.mp (checkedAdd64_tick h)

theorem scheduleNext_selects {self : Scheduler} (htick : self.tick.toNat + 1 < 2 ^ 64)
    {k : Fin maxTasks} (hbest : self.ticked.Best k) (hcounter : ¬ self.CounterSpent k) :
    ∃ next, self.Selects k next ∧
      self.scheduleNext = (.ok (some (self.taskAt k).id), next) := by
  have hloop := (self.rotate_ok_iff k).mpr hcounter
  refine ⟨_, ?_, (scheduleNext_best htick hbest).1 hloop⟩
  exact
    { tick := toNat_tick_ticked htick
      nextTaskId := rfl
      currentTask := rfl
      runnable := hbest.runnable
      best := fun i hi => ⟨hbest.highest i hi, hbest.earliest i hi⟩
      slotAt := fun i => (forEach_ok hloop i).2 }

theorem scheduleNext_spent {self : Scheduler} (htick : self.tick.toNat + 1 < 2 ^ 64)
    {k : Fin maxTasks} (hbest : self.ticked.Best k) (hcounter : self.CounterSpent k) :
    ∃ error next, self.scheduleNext = (.error error, next) ∧
      next.tick.toNat = self.tick.toNat + 1 := by
  cases hloop : (forEach (rotateSlot (self.taskAt k).id) self.runQueue.slots).1 with
  | ok => exact absurd hcounter ((self.rotate_ok_iff k).mp hloop)
  | error error =>
      exact ⟨error, _, (scheduleNext_best htick hbest).2 error hloop,
        toNat_tick_ticked htick⟩

theorem selection_cases (self : Scheduler) :
    (2 ^ 64 ≤ self.tick.toNat + 1 ∧ self.scheduleNext = (.error .internal, self)) ∨
      self.tick.toNat + 1 < 2 ^ 64 ∧
        (((∀ i, ¬ self.Runnable i) ∧
            self.scheduleNext = (.ok none, { self.ticked with currentTask := none })) ∨
          ∃ k, self.ticked.Best k ∧
            (self.CounterSpent k ∧ (∃ error next,
                self.scheduleNext = (.error error, next) ∧
                  next.tick.toNat = self.tick.toNat + 1) ∨
              ¬ self.CounterSpent k ∧ ∃ next, self.Selects k next ∧
                self.scheduleNext = (.ok (some (self.taskAt k).id), next))) := by
  by_cases htick : self.tick.toNat + 1 < 2 ^ 64
  · right
    refine ⟨htick, ?_⟩
    cases hbest : self.ticked.bestIndex with
    | none =>
        have hidle := bestIndex_eq_none_iff.mp hbest
        simp only [runnable_ticked] at hidle
        exact .inl ⟨hidle, scheduleNext_idle htick hidle⟩
    | some k =>
        have hk := bestIndex_eq_some_iff.mp hbest
        right
        by_cases hcounter : self.CounterSpent k
        · exact ⟨k, hk, .inl ⟨hcounter, scheduleNext_spent htick hk hcounter⟩⟩
        · exact ⟨k, hk, .inr ⟨hcounter, scheduleNext_selects htick hk hcounter⟩⟩
  · exact .inl ⟨not_lt.mp htick, scheduleNext_last (not_lt.mp htick)⟩

/-! ## The slots after a selection -/

theorem rotated_of_started {selectedId : TaskId} {slot : TaskSlot}
    (h : slot.occupied = true) (hid : slot.task.id = selectedId)
    (hcount : slot.task.contextSwitches.toNat + 1 < 2 ^ 64) :
    rotated selectedId slot =
      { slot with task := startedTask slot.task (slot.task.contextSwitches + 1) } := by
  have hnext : checkedAdd64 slot.task.contextSwitches 1 =
      some (slot.task.contextSwitches + 1) := if_pos hcount
  simp [rotated, rotateSlot, h, hid, hnext, startedTask]

section Rotation

variable {self next : Scheduler} {k : Fin maxTasks}

theorem Selects.slotAt_started (h : self.Selects k next)
    (hcount : (self.taskAt k).contextSwitches.toNat + 1 < 2 ^ 64) :
    next.slotAt k =
      { self.slotAt k with
        task := startedTask (self.taskAt k) ((self.taskAt k).contextSwitches + 1) } := by
  rw [h.slotAt]
  exact rotated_of_started h.occupied rfl hcount

end Rotation

/-! ## The order of the table -/

/-- The occupied slots come first, in the order in which their tasks were spawned. -/
structure Ordered (sched : Scheduler) : Prop where
  filled : ∀ i j, i < j → sched.Occupied j → sched.Occupied i
  increasing : ∀ i j, i < j → sched.Occupied j →
    (sched.taskAt i).id.toNat < (sched.taskAt j).id.toNat

theorem Ordered.of_sameTasks {before after : Scheduler} (hself : before.Ordered)
    (h : SameTasks before after) : after.Ordered := by
  constructor
  · intro i j hlt hj
    rw [h.occupied] at hj ⊢
    exact hself.filled i j hlt hj
  · intro i j hlt hj
    rw [h.occupied] at hj
    rw [h.id, h.id]
    exact hself.increasing i j hlt hj

theorem insert_first {queue : RunQueue} {task : TaskControlBlock} {slot : Fin maxTasks}
    (hfree : (queue.slots.get slot).occupied = false)
    (htaken : ((queue.insert task).2.slots.get slot).occupied = true) {i : Fin maxTasks}
    (hi : i < slot) : (queue.slots.get i).occupied = true := by
  unfold RunQueue.insert at htaken
  split_ifs at htaken
  · rw [hfree] at htaken
    contradiction
  · rw [hfree] at htaken
    contradiction
  · cases hfound : position queue.slots (fun slot => !slot.occupied) with
    | none =>
        rw [hfound] at htaken
        dsimp only at htaken
        rw [hfree] at htaken
        contradiction
    | some found =>
        rw [hfound] at htaken
        dsimp only at htaken
        rw [get_set] at htaken
        split_ifs at htaken with heq
        · subst heq
          have hbefore := (position_eq_some_iff.mp hfound).2 i hi
          simpa using hbefore
        · rw [hfree] at htaken
          contradiction

theorem runQueue_spawn (self : Scheduler) (parentId : TaskId)
    (schedulerClass : SchedulerClass) (priority : UInt8) (capabilities : CapabilitySet)
    (budget : BudgetAccount) :
    (self.spawn parentId schedulerClass priority capabilities budget).2.runQueue =
        self.runQueue ∨
      (self.spawn parentId schedulerClass priority capabilities budget).2.runQueue =
        (self.runQueue.insert (.new self.nextTaskId parentId schedulerClass priority
          capabilities budget)).2 := by
  unfold spawn
  cases checkedAdd64 self.nextTaskId 1 with
  | none => exact .inl rfl
  | some nextTaskId =>
      right
      dsimp only
      generalize self.runQueue.insert (.new self.nextTaskId parentId schedulerClass priority
        capabilities budget) = outcome
      obtain ⟨result, queue⟩ := outcome
      cases result <;> rfl

theorem spawn_first {self : Scheduler} {parentId : TaskId}
    {schedulerClass : SchedulerClass} {priority : UInt8} {capabilities : CapabilitySet}
    {budget : BudgetAccount} {slot i : Fin maxTasks} (hfree : ¬ self.Occupied slot)
    (htaken :
      (self.spawn parentId schedulerClass priority capabilities budget).2.Occupied slot)
    (hi : i < slot) : self.Occupied i := by
  have hfree' : (self.runQueue.slots.get slot).occupied = false := by
    simpa [Occupied, slotAt] using hfree
  rw [Occupied, slotAt] at htaken
  rcases self.runQueue_spawn parentId schedulerClass priority capabilities budget with
    hqueue | hqueue
  · rw [hqueue, hfree'] at htaken
    contradiction
  · rw [hqueue] at htaken
    exact insert_first hfree' htaken hi

theorem Ordered.spawn {self : Scheduler} (h : self.Ordered) (hself : self.WellFormed)
    (parentId : TaskId) (schedulerClass : SchedulerClass) (priority : UInt8)
    (capabilities : CapabilitySet) (budget : BudgetAccount) :
    (self.spawn parentId schedulerClass priority capabilities budget).2.Ordered := by
  have hspawns := self.spawns_spawn parentId schedulerClass priority capabilities budget
  have hfirst : ∀ slot i, ¬ self.Occupied slot →
      (self.spawn parentId schedulerClass priority capabilities budget).2.Occupied slot →
      i < slot → self.Occupied i := fun _ _ => spawn_first
  generalize (self.spawn parentId schedulerClass priority capabilities budget).2 = next
    at hspawns hfirst
  have hbefore : ∀ i j, i < j → next.Occupied j → self.Occupied i := by
    intro i j hlt hj
    by_cases hold : self.Occupied j
    · exact h.filled i j hlt hold
    · exact hfirst j i hold hj hlt
  constructor
  · intro i j hlt hj
    have hi := hbefore i j hlt hj
    rw [Occupied, hspawns.slotAt hi]
    exact hi
  · intro i j hlt hj
    have hi := hbefore i j hlt hj
    rw [taskAt, hspawns.slotAt hi]
    rcases hspawns.slotAt_cases j with hkept | ⟨-, _, _, _, _, _, hnew⟩
    · rw [Occupied, hkept] at hj
      rw [taskAt, hkept]
      exact h.increasing i j hlt hj
    · rw [taskAt, hnew]
      exact hself.id_lt i hi

theorem Ordered.step {self : Scheduler} (h : self.Ordered) (hself : self.WellFormed)
    (op : SchedulerOp) : (self.step op).2.Ordered := by
  rcases self.step_cases op with
    ⟨hspawn, -⟩ | ⟨-, hwritten⟩ | ⟨charged, -, hcharged, hstep⟩
  · cases op with
    | spawn parentId schedulerClass priority capabilities budget =>
        exact h.spawn hself parentId schedulerClass priority capabilities budget
    | transition | cancel | scheduleNext | yieldCurrent => contradiction
  · exact h.of_sameTasks hwritten.sameTasks
  · rw [hstep]
    exact h.of_sameTasks (hcharged.sameTasks.trans (sameTasks_scheduleNext charged))

end Scheduler

end AlaniKernel
