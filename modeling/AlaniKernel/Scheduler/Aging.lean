import AlaniKernel.Foundation.Aging
import AlaniKernel.Scheduler.Invariant

/-!
# Aging stays within its integers

The scores of the tasks are levels of a competition under aging: 480 is the
highest score of a task that has not waited, and 128 the boost of an expired
deadline.
-/

namespace AlaniKernel

open AlaniKernel.Foundation

/-- The dynamic priority is the one that the unbounded age formula gives. -/
structure TaskControlBlock.Paced (task : TaskControlBlock) : Prop where
  weight : task.weight = 1
  dynamicPriority : task.dynamicPriority.toNat =
    min 255 (task.basePriority.toNat + task.age.toNat / 4)

namespace Scheduler

theorem deadlineExpired_mono {budget : BudgetAccount} {now later : UInt64}
    (hle : now.toNat ≤ later.toNat) (h : budget.deadlineExpired now = true) :
    budget.deadlineExpired later = true := by
  simp only [BudgetAccount.deadlineExpired, Bool.and_eq_true, bne_iff_ne, ne_eq,
    decide_eq_true_eq, UInt64.le_iff_toNat_le] at h ⊢
  exact ⟨h.1, h.2.trans hle⟩

theorem deadlineExpired_congr {budget budget' : BudgetAccount} {now : UInt64}
    (h : budget'.deadlineTick = budget.deadlineTick) :
    budget'.deadlineExpired now = budget.deadlineExpired now := by
  rw [BudgetAccount.deadlineExpired, h, BudgetAccount.deadlineExpired]

def standing (task : TaskControlBlock) : Nat :=
  task.dynamicPriority.toNat + task.weight.toNat +
    task.schedulerClass.boost.toNat + task.age.toNat

theorem boost_le (schedulerClass : SchedulerClass) :
    schedulerClass.boost.toNat ≤ 96 := by
  cases schedulerClass <;> decide

theorem score_toNat (self : Scheduler) (task : TaskControlBlock) :
    (self.score task).toNat =
      standing task + if task.budget.deadlineExpired self.tick then 128 else 0 := by
  have hpriority := task.dynamicPriority.toNat_lt
  have hweight := task.weight.toNat_lt
  have hage := task.age.toNat_lt
  have hclass := boost_le task.schedulerClass
  unfold score standing
  split_ifs
  · simp only [UInt32.toNat_add, UInt8.toNat_toUInt32, UInt16.toNat_toUInt32]
    rw [show (128 : UInt32).toNat = 128 from rfl]
    omega
  · simp only [UInt32.toNat_add, UInt8.toNat_toUInt32, UInt16.toNat_toUInt32]
    rw [show (0 : UInt32).toNat = 0 from rfl]
    omega

theorem score_congr {before after : Scheduler} {task task' : TaskControlBlock}
    (hstanding : standing task' = standing task)
    (hdeadline : task'.budget.deadlineTick = task.budget.deadlineTick)
    (htick : after.tick = before.tick) :
    (after.score task').toNat = (before.score task).toNat := by
  rw [score_toNat, score_toNat, hstanding, htick, deadlineExpired_congr hdeadline]

theorem score_le_later {before after : Scheduler} {task task' : TaskControlBlock}
    (htick : before.tick.toNat ≤ after.tick.toNat)
    (hstanding : standing task ≤ standing task')
    (hdeadline : task'.budget.deadlineTick = task.budget.deadlineTick) :
    (before.score task).toNat ≤ (after.score task').toNat := by
  rw [score_toNat, score_toNat, deadlineExpired_congr hdeadline]
  by_cases hnow : task.budget.deadlineExpired before.tick = true
  · rw [if_pos hnow, if_pos (deadlineExpired_mono htick hnow)]
    omega
  · rw [if_neg hnow]
    omega

theorem score_lt_of_paced (self : Scheduler) {task : TaskControlBlock}
    (h : task.Paced) : task.age.toNat + 1 ≤ (self.score task).toNat := by
  have hweight : task.weight.toNat = 1 := by
    rw [h.weight]
    rfl
  rw [score_toNat, standing]
  omega

theorem score_le_of_paced (self : Scheduler) {task : TaskControlBlock}
    (h : task.Paced) : (self.score task).toNat ≤ 480 + task.age.toNat := by
  have hweight : task.weight.toNat = 1 := by
    rw [h.weight]
    rfl
  have hpriority := task.dynamicPriority.toNat_lt
  have hclass := boost_le task.schedulerClass
  rw [score_toNat, standing]
  split_ifs
  · omega
  · omega

theorem paced_new (id parentId : TaskId) (schedulerClass : SchedulerClass)
    (priority : UInt8) (capabilities : CapabilitySet) (budget : BudgetAccount) :
    (TaskControlBlock.new id parentId schedulerClass priority capabilities
      budget).Paced := by
  have hpriority := priority.toNat_lt
  refine ⟨rfl, ?_⟩
  change priority.toNat = min 255 (priority.toNat + 0 / 4)
  omega

theorem paced_startedTask {task : TaskControlBlock} (h : task.Paced)
    (contextSwitches : UInt64) : (startedTask task contextSwitches).Paced := by
  have hpriority := task.basePriority.toNat_lt
  refine ⟨h.weight, ?_⟩
  change task.basePriority.toNat = min 255 (task.basePriority.toNat + 0 / 4)
  omega

theorem age_agedTask {task : TaskControlBlock} (hage : task.age.toNat < 1023) :
    (agedTask task).age.toNat = task.age.toNat + 1 := by
  change (saturatingAdd16 task.age 1).toNat = _
  rw [saturatingAdd16_toNat]
  change min 65535 (task.age.toNat + 1) = _
  omega

theorem narrow_quarter {age : UInt16} (hage : age.toNat < 1024) :
    (age / 4).toUInt8.toNat = age.toNat / 4 := by
  rw [UInt16.toNat_toUInt8, UInt16.toNat_div]
  change age.toNat / 4 % 2 ^ 8 = _
  omega

theorem paced_agedTask {task : TaskControlBlock} (h : task.Paced)
    (hage : task.age.toNat < 1023) : (agedTask task).Paced := by
  have hnext := age_agedTask hage
  refine ⟨h.weight, ?_⟩
  have hpriority : (agedTask task).dynamicPriority =
      saturatingAdd8 task.basePriority ((agedTask task).age / 4).toUInt8 := rfl
  rw [hpriority, saturatingAdd8_toNat, narrow_quarter (by omega)]
  rfl

theorem standing_agedTask {task : TaskControlBlock} (h : task.Paced)
    (hage : task.age.toNat < 1023) :
    standing task ≤ standing (agedTask task) ∧
      standing (agedTask task) ≤ standing task + 2 := by
  have hnext := age_agedTask hage
  have hbefore := h.dynamicPriority
  have hafter := (paced_agedTask h hage).dynamicPriority
  have hbase : (agedTask task).basePriority = task.basePriority := rfl
  have hweight : (agedTask task).weight = task.weight := rfl
  have hclass : (agedTask task).schedulerClass = task.schedulerClass := rfl
  rw [hbase, hnext] at hafter
  simp only [standing, hweight, hclass, hnext]
  omega

/-! ## Levels -/

def level (self : Scheduler) (i : Fin maxTasks) : Nat :=
  if self.Occupied i then (self.score (self.taskAt i)).toNat else 0

def expired (self : Scheduler) : Finset (Fin maxTasks) :=
  Finset.univ.filter fun i =>
    self.Occupied i ∧ (self.taskAt i).budget.deadlineExpired self.tick = true

theorem level_of_occupied {self : Scheduler} {i : Fin maxTasks}
    (h : self.Occupied i) : self.level i = (self.score (self.taskAt i)).toNat :=
  if_pos h

theorem level_of_free {self : Scheduler} {i : Fin maxTasks}
    (h : ¬ self.Occupied i) : self.level i = 0 :=
  if_neg h

theorem mem_expired {self : Scheduler} {i : Fin maxTasks} :
    i ∈ self.expired ↔
      self.Occupied i ∧ (self.taskAt i).budget.deadlineExpired self.tick = true := by
  simp [expired]

/-- The ages of all tasks come from a competition that has stayed bounded. -/
structure AgesBounded (sched : Scheduler) : Prop where
  paced : ∀ i, sched.Occupied i → (sched.taskAt i).Paced
  aged : Aged 480 128 sched.level sched.expired

theorem AgesBounded.age_lt {self : Scheduler} (h : self.AgesBounded)
    {i : Fin maxTasks} (hi : self.Occupied i) : (self.taskAt i).age.toNat < 864 := by
  have hlevel := h.aged.level_le i
  rw [level_of_occupied hi, Fintype.card_fin, maxTasks] at hlevel
  have hscore := score_lt_of_paced self (h.paced i hi)
  omega

theorem agesBounded_new : new.AgesBounded := by
  refine ⟨fun i hi => absurd hi (not_occupied_new i), ∅, ?_⟩
  have hlevel : new.level = fun _ => 0 := by
    funext i
    exact level_of_free (not_occupied_new i)
  have hexpired : new.expired = ∅ := by
    simp [expired, not_occupied_new]
  rw [hlevel, hexpired]
  exact agingBound_zero 480 128

theorem SameTasks.deadlineTick {before after : Scheduler}
    (h : SameTasks before after) (i : Fin maxTasks) :
    (after.taskAt i).budget.deadlineTick = (before.taskAt i).budget.deadlineTick :=
  congrArg (·.budget.deadlineTick) (h.spawned i)

theorem SameTasks.expired_eq {before after : Scheduler}
    (h : SameTasks before after) (htick : after.tick = before.tick) :
    after.expired = before.expired := by
  ext i
  rw [mem_expired, mem_expired, h.occupied, htick,
    deadlineExpired_congr (h.deadlineTick i)]

theorem AgesBounded.of_restated {before after : Scheduler}
    (hself : before.AgesBounded) (h : Restated before after) :
    after.AgesBounded := by
  have hsame := h.sameTasks
  have hlevel : after.level = before.level := by
    funext i
    by_cases hi : before.Occupied i
    · rw [level_of_occupied hi, level_of_occupied ((hsame.occupied i).mpr hi)]
      obtain ⟨state, remainingTicks, hslot⟩ := h.slotAt i
      refine score_congr ?_ (hsame.deadlineTick i) h.tick
      rw [taskAt, hslot]
      rfl
    · rw [level_of_free hi, level_of_free (fun hi' => hi ((hsame.occupied i).mp hi'))]
  refine ⟨fun i hi => ?_, ?_⟩
  · have hpaced := hself.paced i ((hsame.occupied i).mp hi)
    obtain ⟨state, remainingTicks, hslot⟩ := h.slotAt i
    rw [taskAt, hslot]
    exact ⟨hpaced.weight, hpaced.dynamicPriority⟩
  · rw [hlevel, hsame.expired_eq h.tick]
    exact hself.aged

/-- Between rounds only the clock moves, and a deadline may expire. -/
theorem AgesBounded.advance {self : Scheduler} (hself : self.AgesBounded)
    {tick : UInt64} (htick : self.tick.toNat ≤ tick.toNat)
    (currentTask : Option TaskId) :
    ({ self with tick, currentTask } : Scheduler).AgesBounded := by
  refine ⟨hself.paced, hself.aged.raise (fun i hi => ?_) (fun i => ?_)⟩
  · obtain ⟨hi, hexpired⟩ := mem_expired.mp hi
    exact mem_expired.mpr ⟨hi, deadlineExpired_mono htick hexpired⟩
  · by_cases hi : self.Occupied i
    · have hafter : ({ self with tick, currentTask } : Scheduler).level i =
          standing (self.taskAt i) +
            if (self.taskAt i).budget.deadlineExpired tick then 128 else 0 := by
        have hi' : ({ self with tick, currentTask } : Scheduler).Occupied i := hi
        rw [level_of_occupied hi', score_toNat]
        rfl
      rw [hafter, level_of_occupied hi, score_toNat]
      by_cases hnow : (self.taskAt i).budget.deadlineExpired self.tick = true
      · rw [if_pos hnow, if_pos (deadlineExpired_mono htick hnow)]
        exact .inl (le_max_left _ _)
      · rw [if_neg hnow]
        by_cases hlater : (self.taskAt i).budget.deadlineExpired tick = true
        · rw [if_pos hlater]
          refine .inr ⟨?_, by omega⟩
          rw [Finset.mem_sdiff, mem_expired, mem_expired]
          exact ⟨⟨hi, hlater⟩, fun h => hnow h.2⟩
        · rw [if_neg hlater]
          exact .inl (le_max_left _ _)
    · have hi' : ¬ ({ self with tick, currentTask } : Scheduler).Occupied i := hi
      left
      rw [level_of_free hi']
      exact Nat.zero_le _

theorem standing_rotated {selectedId : TaskId} {slot : TaskSlot}
    (h : slot.occupied = true) (hid : slot.task.id ≠ selectedId)
    (hpaced : slot.task.Paced) (hage : slot.task.age.toNat < 1023) :
    (rotated selectedId slot).task.Paced ∧
      standing slot.task ≤ standing (rotated selectedId slot).task ∧
      (standing (rotated selectedId slot).task = standing slot.task ∨
        slot.task.state = .ready ∧
          standing (rotated selectedId slot).task ≤ standing slot.task + 2) := by
  rw [rotated_of_other h hid]
  dsimp only
  split_ifs with hrunning hready
  · exact ⟨⟨hpaced.weight, hpaced.dynamicPriority⟩, le_refl _, .inl rfl⟩
  · have hstanding := standing_agedTask hpaced hage
    exact ⟨paced_agedTask hpaced hage, hstanding.1, .inr ⟨hready, hstanding.2⟩⟩
  · exact ⟨hpaced, le_refl _, .inl rfl⟩

theorem AgesBounded.selects {self next : Scheduler} {k : Fin maxTasks}
    (hself : self.AgesBounded) (hunique : self.WellFormed)
    (hselects : self.Selects k next) (hsame : SameTasks self next) :
    next.AgesBounded := by
  have hclock : self.tick.toNat ≤ next.tick.toNat := by
    have := hselects.tick
    omega
  have hadvanced := hself.advance hclock self.currentTask
  have hk := hselects.occupied
  have hother : ∀ i, i ≠ k → self.Occupied i →
      (self.taskAt i).id ≠ (self.taskAt k).id :=
    fun i hne hi hid => hne (hunique.id_unique i k hi hk hid)
  obtain ⟨contextSwitches, -, hstarted⟩ := rotated_of_selected hk rfl
  have hwinner : next.taskAt k = startedTask (self.taskAt k) contextSwitches := by
    rw [taskAt, hselects.slotAt]
    exact congrArg (·.task) hstarted
  have hwinnerPaced : (next.taskAt k).Paced := by
    rw [hwinner]
    exact paced_startedTask (hself.paced k hk) contextSwitches
  have hloser : ∀ i, i ≠ k → self.Occupied i →
      (next.taskAt i).Paced ∧ standing (self.taskAt i) ≤ standing (next.taskAt i) ∧
        (standing (next.taskAt i) = standing (self.taskAt i) ∨
          (self.taskAt i).state = .ready ∧
            standing (next.taskAt i) ≤ standing (self.taskAt i) + 2) := by
    intro i hne hi
    have hage := hself.age_lt hi
    rw [taskAt, hselects.slotAt]
    exact standing_rotated hi (hother i hne hi) (hself.paced i hi) (by
      change (self.taskAt i).age.toNat < 1023
      omega)
  refine ⟨fun i hi => ?_, ?_⟩
  · by_cases hne : i = k
    · rw [hne]
      exact hwinnerPaced
    · exact (hloser i hne ((hsame.occupied i).mp hi)).1
  · have hclocked : SameTasks { self with tick := next.tick } next :=
      ⟨hsame.nextTaskId, hsame.occupied, hsame.spawned⟩
    rw [hclocked.expired_eq rfl]
    refine hadvanced.aged.round (by omega) (k := k) ?_ fun i hne => ?_
    · have hzero : (next.taskAt k).age.toNat = 0 := by
        rw [hwinner]
        rfl
      have hscore := score_le_of_paced next hwinnerPaced
      rw [level_of_occupied ((hsame.occupied k).mpr hk)]
      omega
    · by_cases hi : self.Occupied i
      · have hi' := (hsame.occupied i).mpr hi
        have hbefore := score_toNat { self with tick := next.tick } (self.taskAt i)
        have hafter := score_toNat next (next.taskAt i)
        rw [deadlineExpired_congr (hsame.deadlineTick i)] at hafter
        rw [level_of_occupied hi', level_of_occupied (by exact hi),
          level_of_occupied (by exact hk)]
        change _ ≤ (({ self with tick := next.tick } : Scheduler).score
          (self.taskAt i)).toNat ∨ _
        rcases (hloser i hne hi).2.2 with hkept | ⟨hready, hgain⟩
        · left
          dsimp only at hbefore
          omega
        · right
          have hbest := (hselects.best i (.inl ⟨hi, hready⟩)).1
          refine ⟨UInt32.le_iff_toNat_le.mp hbest, ?_⟩
          change (next.score (next.taskAt i)).toNat ≤
            (({ self with tick := next.tick } : Scheduler).score
              (self.taskAt i)).toNat + 2
          dsimp only at hbefore
          omega
      · left
        rw [level_of_free (fun hi' => hi ((hsame.occupied i).mp hi'))]
        exact Nat.zero_le _

theorem AgesBounded.withSpawned {self : Scheduler} (hself : self.AgesBounded)
    {slot : Fin maxTasks} (hfree : ¬ self.Occupied slot) {nextTaskId : TaskId}
    {task : TaskControlBlock} (hpaced : task.Paced) (hage : task.age = 0) :
    (self.withSpawned slot nextTaskId task).AgesBounded := by
  have hspawned := taskAt_withSpawned_self self slot nextTaskId task
  have hkept : ∀ i, i ≠ slot →
      (self.withSpawned slot nextTaskId task).slotAt i = self.slotAt i :=
    fun i hne => slotAt_withSpawned_of_ne self hne nextTaskId task
  refine ⟨fun i hi => ?_, hself.aged.raise (fun i hi => ?_) (fun i => ?_)⟩
  · by_cases hne : i = slot
    · rw [hne, hspawned]
      exact hpaced
    · rw [Occupied, hkept i hne] at hi
      rw [taskAt, hkept i hne]
      exact hself.paced i hi
  · obtain ⟨hi, hexpired⟩ := mem_expired.mp hi
    have hne : i ≠ slot := fun heq => hfree (heq ▸ hi)
    rw [mem_expired, Occupied, taskAt, hkept i hne]
    exact ⟨hi, hexpired⟩
  · left
    by_cases hne : i = slot
    · have hocc : (self.withSpawned slot nextTaskId task).Occupied slot := by
        rw [Occupied, slotAt_withSpawned, if_pos rfl]
      have hscore := score_le_of_paced (self.withSpawned slot nextTaskId task) hpaced
      rw [hage, UInt16.toNat_zero] at hscore
      rw [hne, level_of_occupied hocc, hspawned]
      omega
    · have hlevel : (self.withSpawned slot nextTaskId task).level i = self.level i := by
        simp only [level, Occupied, taskAt, hkept i hne]
        rfl
      rw [hlevel]
      exact le_max_left _ _

theorem AgesBounded.spawns {self next : Scheduler} (hself : self.AgesBounded)
    (h : self.Spawns next) : next.AgesBounded := by
  cases h with
  | refused => exact ⟨hself.paced, hself.aged⟩
  | added _ _ _ _ _ _ _ hfree =>
      exact hself.withSpawned hfree (paced_new _ _ _ _ _ _) rfl

/-! ## Runs -/

structure Reachable (sched : Scheduler) : Prop where
  wellFormed : sched.WellFormed
  switches : sched.SwitchesBounded
  ages : sched.AgesBounded

theorem Reachable.of_restated {before after : Scheduler} (hself : before.Reachable)
    (h : Restated before after) : after.Reachable :=
  ⟨hself.wellFormed.of_sameTasks h.sameTasks, hself.switches.of_restated h,
    hself.ages.of_restated h⟩

theorem Reachable.scheduleNext {self : Scheduler} (hself : self.Reachable) :
    self.scheduleNext.2.Reachable := by
  have hsame := sameTasks_scheduleNext self
  refine ⟨hself.wellFormed.of_sameTasks hsame, hself.switches.scheduleNext, ?_⟩
  rcases hself.switches.scheduleNext_cases with
    ⟨-, h⟩ | ⟨tick, htick, -, h⟩ | ⟨k, next, hselects, h⟩
  · rw [h]
    exact hself.ages
  · rw [h]
    exact hself.ages.advance (by omega) none
  · rw [h] at hsame ⊢
    exact hself.ages.selects hself.wellFormed hselects hsame

theorem Reachable.spawns {self next : Scheduler} (hself : self.Reachable)
    (h : self.Spawns next) : next.Reachable :=
  ⟨hself.wellFormed.spawns h, hself.switches.spawns h, hself.ages.spawns h⟩

theorem Reachable.step {self : Scheduler} (hself : self.Reachable)
    (op : SchedulerOp) : (self.step op).2.Reachable :=
  step_invariant (fun h hspawned => h.spawns hspawned)
    (fun h hwritten => h.of_restated hwritten) (fun h => h.scheduleNext) hself op

theorem reachable_runNew (ops : List SchedulerOp) : (runNew ops).Reachable :=
  run_invariant (fun _ op h => h.step op)
    ⟨wellFormed_new, switchesBounded_new, agesBounded_new⟩ ops

theorem score_le_scheduleNext {self : Scheduler} (hself : self.Reachable)
    {i : Fin maxTasks} (hi : self.Occupied i)
    (hpassed : self.scheduleNext.1 ≠ .ok (some (self.taskAt i).id)) :
    (self.score (self.taskAt i)).toNat ≤
      (self.scheduleNext.2.score (self.scheduleNext.2.taskAt i)).toNat := by
  have hsame := sameTasks_scheduleNext self
  rcases hself.switches.scheduleNext_cases with
    ⟨-, h⟩ | ⟨tick, htick, -, h⟩ | ⟨k, next, hselects, h⟩
  · rw [h]
  · rw [h]
    refine score_le_later ?_ (le_refl _) rfl
    change self.tick.toNat ≤ tick.toNat
    omega
  · rw [h] at hpassed hsame ⊢
    have hid : (self.taskAt i).id ≠ (self.taskAt k).id := by
      intro hid
      exact hpassed (by rw [hid])
    have hage := hself.ages.age_lt hi
    have hloses := standing_rotated hi hid (hself.ages.paced i hi) (by
      change (self.taskAt i).age.toNat < 1023
      omega)
    have htick := hselects.tick
    refine score_le_later ?_ ?_ (hsame.deadlineTick i)
    · change self.tick.toNat ≤ next.tick.toNat
      omega
    · change standing (self.taskAt i) ≤ standing (next.slotAt i).task
      rw [hselects.slotAt]
      exact hloses.2.1

theorem score_le_step {self : Scheduler} (hself : self.Reachable)
    {op : SchedulerOp} {i : Fin maxTasks} (hi : self.Occupied i)
    (hpassed : (self.step op).1 ≠ .ok (.selected (some (self.taskAt i).id))) :
    (self.score (self.taskAt i)).toNat ≤
      ((self.step op).2.score ((self.step op).2.taskAt i)).toNat := by
  have hrestated : ∀ {after : Scheduler}, Restated self after →
      (after.score (after.taskAt i)).toNat = (self.score (self.taskAt i)).toNat := by
    intro after h
    obtain ⟨state, remainingTicks, hslot⟩ := h.slotAt i
    rw [taskAt, hslot]
    exact score_congr rfl rfl h.tick
  rcases self.step_cases op with
    ⟨-, -, hspawned⟩ | ⟨-, hwritten⟩ | ⟨charged, -, hcharged, hstep⟩
  · have htask : (self.step op).2.taskAt i = self.taskAt i := by
      rw [taskAt, hspawned.slotAt hi, taskAt]
    rw [htask]
    exact (score_congr rfl rfl hspawned.tick).ge
  · exact (hrestated hwritten).ge
  · rw [hstep] at hpassed ⊢
    rw [← hrestated hcharged]
    refine score_le_scheduleNext (hself.of_restated hcharged)
      ((hcharged.sameTasks.occupied i).mpr hi) ?_
    rw [hcharged.sameTasks.id i]
    intro hselected
    exact hpassed (by rw [hselected]; rfl)

/--
In every reachable state each task is younger than 1024 rounds, its priority
is the one of the unbounded formula, and its score does not fall in a step
that does not select it.
-/
theorem aging_never_wraps (ops : List SchedulerOp) (i : Fin maxTasks)
    (hi : (runNew ops).Occupied i) :
    ((runNew ops).taskAt i).age.toNat < 1024 ∧
      (((runNew ops).taskAt i).age / 4).toUInt8.toNat =
        ((runNew ops).taskAt i).age.toNat / 4 ∧
      ((runNew ops).taskAt i).dynamicPriority.toNat =
        min 255 (((runNew ops).taskAt i).basePriority.toNat +
          ((runNew ops).taskAt i).age.toNat / 4) ∧
      ∀ op,
        ((runNew ops).step op).1 ≠
          .ok (.selected (some ((runNew ops).taskAt i).id)) →
        (runNew ops).score ((runNew ops).taskAt i) ≤
          ((runNew ops).step op).2.score (((runNew ops).step op).2.taskAt i) := by
  have hreachable := reachable_runNew ops
  have hage := hreachable.ages.age_lt hi
  refine ⟨by omega, narrow_quarter (by omega),
    (hreachable.ages.paced i hi).dynamicPriority, fun op hpassed => ?_⟩
  exact UInt32.le_iff_toNat_le.mpr (score_le_step hreachable hi hpassed)

theorem aging_never_wraps_preferred :
    ((runNew [.spawn 0 .background 8 .empty .unlimited,
      .spawn 0 .audit 8 .empty .unlimited, .scheduleNext,
      .scheduleNext]).taskAt 0).age.toNat < 1024 :=
  (aging_never_wraps _ 0 (by decide +kernel)).1

end Scheduler

end AlaniKernel
