import Mathlib.Algebra.BigOperators.Group.Finset.Piecewise
import Mathlib.Algebra.Order.BigOperators.Group.Finset
import AlaniKernel.Scheduler.Counters
import AlaniKernel.Scheduler.Starvation

/-!
# Bounded overtaking

A task that is selected loses its age, while a task that is passed over gains a
round.  A rival can therefore be preferred again only as long as its static
advantage outweighs the rounds that the waiting task is ahead.
-/

namespace AlaniKernel

open AlaniKernel.Foundation

/-- The deadline can have expired at a tick at which the other one has not. -/
def BudgetAccount.precedes (self other : BudgetAccount) : Bool :=
  self.deadlineTick != 0 &&
    (other.deadlineTick == 0 || self.deadlineTick < other.deadlineTick)

/-- The part of a rival's score that a waiting task has to make up by its age. -/
def TaskControlBlock.headStart (rival waiting : TaskControlBlock) : Nat :=
  rival.basePriority.toNat - waiting.basePriority.toNat +
      rival.schedulerClass.boost.toNat +
      (if rival.budget.precedes waiting.budget then 128 else 0) -
    waiting.schedulerClass.boost.toNat

theorem TaskControlBlock.headStart_congr {rival rival' waiting waiting' : TaskControlBlock}
    (hrival : rival'.spawned = rival.spawned) (hwaiting : waiting'.spawned = waiting.spawned) :
    rival'.headStart waiting' = rival.headStart waiting := by
  change rival'.spawned.headStart waiting'.spawned = rival.spawned.headStart waiting.spawned
  rw [hrival, hwaiting]

theorem BudgetAccount.deadlineExpired_of_not_precedes {self other : BudgetAccount}
    {now : UInt64} (h : self.precedes other = false) (hnow : self.deadlineExpired now = true) :
    other.deadlineExpired now = true := by
  simp only [precedes, deadlineExpired, Bool.and_eq_true, Bool.and_eq_false_iff,
    Bool.or_eq_false_iff, bne_iff_ne, bne_eq_false_iff_eq, beq_eq_false_iff_ne,
    decide_eq_true_eq, decide_eq_false_iff_not, UInt64.le_iff_toNat_le,
    UInt64.lt_iff_toNat_lt] at h hnow ⊢
  rcases h with hnone | ⟨hdeadline, hlater⟩
  · exact absurd hnone hnow.1
  · exact ⟨hdeadline, by omega⟩

namespace Scheduler

theorem gap_le_headStart (self : Scheduler) {rival waiting : TaskControlBlock}
    (hrival : rival.Paced) (hwaiting : waiting.Paced)
    (hbest : (self.score waiting).toNat ≤ (self.score rival).toNat) :
    waiting.age.toNat - rival.age.toNat ≤ rival.headStart waiting := by
  have hrivalPace := hrival.dynamicPriority
  have hwaitingPace := hwaiting.dynamicPriority
  have hdeadline : (if rival.budget.deadlineExpired self.tick then 128 else 0) ≤
      (if waiting.budget.deadlineExpired self.tick then 128 else 0) +
        if rival.budget.precedes waiting.budget then 128 else 0 := by
    cases hprecedes : rival.budget.precedes waiting.budget with
    | true =>
        rw [if_pos rfl]
        split_ifs <;> omega
    | false =>
        by_cases hnow : rival.budget.deadlineExpired self.tick = true
        · have hother := BudgetAccount.deadlineExpired_of_not_precedes hprecedes hnow
          simp [hnow, hother]
        · simp [hnow]
  rw [score_toNat, score_toNat, standing, standing, hrival.weight, hwaiting.weight] at hbest
  rw [TaskControlBlock.headStart]
  omega

/-! ## Ages after a selection -/

section Ages

variable {self next : Scheduler} {i j k : Fin maxTasks}

theorem Selects.age_winner (h : self.Selects k next) : (next.taskAt k).age = 0 := by
  obtain ⟨contextSwitches, -, hstarted⟩ := rotated_of_selected h.occupied rfl
  rw [taskAt, h.slotAt]
  exact congrArg (·.task.age) hstarted

theorem Selects.age_other (h : self.Selects k next) (hself : self.Reachable)
    (hj : self.Occupied j) (hne : j ≠ k) :
    (next.taskAt j).age.toNat ≤ (self.taskAt j).age.toNat + 1 ∧
      ((self.taskAt j).state = .ready →
        (next.taskAt j).age.toNat = (self.taskAt j).age.toNat + 1) := by
  have hid : (self.taskAt j).id ≠ (self.taskAt k).id :=
    fun hid => hne (hself.wellFormed.id_unique j k hj h.occupied hid)
  have hage : (self.slotAt j).task.age.toNat < 1023 :=
    Nat.lt_trans (hself.ages.age_lt hj) (by omega)
  rw [taskAt, h.slotAt]
  exact age_rotated hj hid hage

end Ages

/-! ## The rounds that a rival has used up -/

/-- How far slot `i` is ahead of slot `j` in age, as far as that still matters. -/
def lag (self : Scheduler) (i j : Fin maxTasks) : Nat :=
  min (1 + (self.taskAt j).headStart (self.taskAt i))
    ((self.taskAt i).age.toNat - (self.taskAt j).age.toNat)

theorem lag_le (self : Scheduler) (i j : Fin maxTasks) :
    self.lag i j ≤ 1 + (self.taskAt j).headStart (self.taskAt i) :=
  Nat.min_le_left _ _

theorem lag_selects {self next : Scheduler} {i j k : Fin maxTasks}
    (hself : self.Reachable) (hselects : self.Selects k next)
    (hsame : SameTasks self next) (hi : self.ReadyAt i) (hne : k ≠ i)
    (hj : self.Occupied j) :
    (if j = k then 1 else 0) + self.lag i j ≤ next.lag i j := by
  have hwaits := (hselects.age_other hself hi.1 hne.symm).2 hi.2
  have hheadStart := TaskControlBlock.headStart_congr (hsame.spawned j) (hsame.spawned i)
  rw [lag, lag, hheadStart, hwaits]
  by_cases hwinner : j = k
  · have hbest := UInt32.le_iff_toNat_le.mp (hselects.best i (.inl hi)).1
    have hgap := gap_le_headStart _ (hself.ages.paced k hselects.occupied)
      (hself.ages.paced i hi.1) hbest
    have hzero : (next.taskAt k).age.toNat = 0 :=
      congrArg UInt16.toNat hselects.age_winner
    rw [if_pos hwinner, hwinner, hzero]
    omega
  · have hrival := (hselects.age_other hself hj hwinner).1
    rw [if_neg hwinner]
    omega

def rivalSlots (rivals : TaskId → Bool) (self : Scheduler) : Finset (Fin maxTasks) :=
  Finset.univ.filter fun j =>
    self.Occupied j ∧ rivals (self.taskAt j).id = true

theorem mem_rivalSlots {rivals : TaskId → Bool} {self : Scheduler} {j : Fin maxTasks} :
    j ∈ self.rivalSlots rivals ↔
      self.Occupied j ∧ rivals (self.taskAt j).id = true := by
  simp [rivalSlots]

/-- What the rivals together have used up of their head starts on a task. -/
def conceded (rivals : TaskId → Bool) (taskId : TaskId) (self : Scheduler) : Nat :=
  (self.runQueue.getMut taskId).elim 0 fun i =>
    ∑ j ∈ self.rivalSlots rivals, self.lag i j

def patience (rivals : TaskId → Bool) (self : Scheduler) (waiting : TaskControlBlock) : Nat :=
  ∑ j ∈ self.rivalSlots rivals, (1 + (self.taskAt j).headStart waiting)

section Conceded

variable {rivals : TaskId → Bool} {taskId : TaskId}

theorem conceded_of_some {self : Scheduler} {i : Fin maxTasks}
    (h : self.runQueue.getMut taskId = some i) :
    self.conceded rivals taskId = ∑ j ∈ self.rivalSlots rivals, self.lag i j := by
  rw [conceded, h, Option.elim_some]

theorem conceded_le_patience {self : Scheduler} {waiting : TaskControlBlock}
    (h : self.runQueue.get taskId = some waiting) :
    self.conceded rivals taskId ≤ self.patience rivals waiting := by
  obtain ⟨i, hfound, rfl⟩ := Option.map_eq_some_iff.mp h
  rw [conceded_of_some hfound]
  exact Finset.sum_le_sum fun j _ => self.lag_le i j

theorem conceded_mono {before after : Scheduler} (hafter : after.WellFormed)
    (hkept : ∀ i, before.Occupied i → after.Occupied i ∧
      (after.taskAt i).spawned = (before.taskAt i).spawned ∧
      (after.taskAt i).age = (before.taskAt i).age) :
    before.conceded rivals taskId ≤ after.conceded rivals taskId := by
  cases hfound : before.runQueue.getMut taskId with
  | none =>
      rw [conceded, hfound, Option.elim_none]
      exact Nat.zero_le _
  | some i =>
      obtain ⟨hi, rfl⟩ := getMut_some hfound
      obtain ⟨hi', hspawned, hage⟩ := hkept i hi
      have hid : (after.taskAt i).id = (before.taskAt i).id := congrArg (·.id) hspawned
      have hsubset : before.rivalSlots rivals ⊆ after.rivalSlots rivals := by
        intro j hj
        obtain ⟨hj, hrival⟩ := mem_rivalSlots.mp hj
        obtain ⟨hj', hspawned, -⟩ := hkept j hj
        have hid : (after.taskAt j).id = (before.taskAt j).id := congrArg (·.id) hspawned
        exact mem_rivalSlots.mpr ⟨hj', hid ▸ hrival⟩
      have hlag : ∀ j ∈ before.rivalSlots rivals, before.lag i j = after.lag i j := by
        intro j hj
        obtain ⟨-, hspawned', hage'⟩ := hkept j (mem_rivalSlots.mp hj).1
        rw [lag, lag, hage, hage', TaskControlBlock.headStart_congr hspawned' hspawned]
      rw [conceded_of_some hfound, ← hid, conceded_of_some (hafter.getMut_taskAt hi'),
        Finset.sum_congr rfl hlag]
      exact Finset.sum_le_sum_of_subset hsubset

theorem conceded_of_restated {before after : Scheduler} (hself : before.WellFormed)
    (h : Restated before after) :
    before.conceded rivals taskId ≤ after.conceded rivals taskId := by
  apply conceded_mono (hself.of_sameTasks h.sameTasks)
  intro i hi
  exact ⟨(h.sameTasks.occupied i).mpr hi, h.sameTasks.spawned i, age_of_restated h i⟩

theorem conceded_selects {self next : Scheduler} {i k : Fin maxTasks}
    (hself : self.Reachable) (hselects : self.Selects k next)
    (hsame : SameTasks self next) (hi : self.ReadyAt i)
    (hpassed : (self.taskAt k).id ≠ (self.taskAt i).id) :
    (if rivals (self.taskAt k).id then 1 else 0) +
        self.conceded rivals (self.taskAt i).id ≤
      next.conceded rivals (self.taskAt i).id := by
  have hne : k ≠ i := fun hki => hpassed (congrArg (fun j => (self.taskAt j).id) hki)
  have hfound := hself.wellFormed.getMut_taskAt hi.1
  have hfound' : next.runQueue.getMut (self.taskAt i).id = some i := by
    rw [← hsame.id i]
    exact (hself.wellFormed.of_sameTasks hsame).getMut_taskAt ((hsame.occupied i).mpr hi.1)
  have hrivals : next.rivalSlots rivals = self.rivalSlots rivals := by
    ext j
    rw [mem_rivalSlots, mem_rivalSlots, hsame.occupied, hsame.id]
  have hwinner : (if rivals (self.taskAt k).id then 1 else 0) =
      ∑ j ∈ self.rivalSlots rivals, if j = k then 1 else 0 := by
    have hmem : k ∈ self.rivalSlots rivals ↔ rivals (self.taskAt k).id = true := by
      simp [mem_rivalSlots, hselects.occupied]
    simp only [Finset.sum_ite_eq', hmem]
  rw [conceded_of_some hfound, conceded_of_some hfound', hrivals, hwinner,
    ← Finset.sum_add_distrib]
  apply Finset.sum_le_sum
  intro j hj
  exact lag_selects hself hselects hsame hi hne (mem_rivalSlots.mp hj).1

end Conceded

/-! ## Runs -/

def selectsRival (rivals : TaskId → Bool) (self : Scheduler) (op : SchedulerOp) : Bool :=
  match (self.step op).1 with
  | .ok (.selected (some taskId)) => rivals taskId
  | _ => false

theorem selectsRival_of_no_selection {rivals : TaskId → Bool} {self : Scheduler}
    {op : SchedulerOp} (h : self.selectionState op = none) :
    self.selectsRival rivals op = false := by
  rw [selectsRival]
  cases hreply : (self.step op).1 with
  | error error => rfl
  | ok reply =>
      cases reply with
      | spawned taskId => rfl
      | moved record => rfl
      | selected taskId => exact absurd hreply (not_selected_of_no_selection h taskId)

theorem conceded_step {rivals : TaskId → Bool} {taskId : TaskId} {self : Scheduler}
    (hself : self.Reachable) {op : SchedulerOp} (h : self.PassesOver taskId op) :
    (if self.selectsRival rivals op then 1 else 0) + self.conceded rivals taskId ≤
      (self.step op).2.conceded rivals taskId := by
  rcases self.step_cases op with
    ⟨-, hselection, hspawned⟩ | ⟨hselection, hwritten⟩ |
      ⟨charged, hselection, hcharged, hstep⟩
  · rw [selectsRival_of_no_selection hselection, if_neg Bool.false_ne_true, Nat.zero_add]
    apply conceded_mono (hself.wellFormed.step op)
    intro i hi
    rw [Occupied, taskAt, hspawned.slotAt hi]
    exact ⟨hi, rfl, rfl⟩
  · rw [selectsRival_of_no_selection hselection, if_neg Bool.false_ne_true, Nat.zero_add]
    exact conceded_of_restated hself.wellFormed hwritten
  · obtain ⟨⟨i, hi, rfl⟩, hok, hpassed⟩ := h charged hselection
    have hreachable := hself.of_restated hcharged
    have hcharge : self.conceded rivals (charged.taskAt i).id ≤
        charged.conceded rivals (charged.taskAt i).id :=
      conceded_of_restated hself.wellFormed hcharged
    have hsame := sameTasks_scheduleNext charged
    rcases hreachable.switches.scheduleNext_cases with
      ⟨-, hlast⟩ | ⟨tick, -, hidle, -⟩ | ⟨k, next, hselects, hchosen⟩
    · rw [hlast] at hok
      contradiction
    · exact absurd (.inl hi) (hidle i)
    · have hreply : self.selectsRival rivals op = rivals (charged.taskAt k).id := by
        rw [selectsRival, hstep, hchosen]
        rfl
      rw [hchosen] at hpassed hsame
      have hround : (if rivals (charged.taskAt k).id then 1 else 0) +
          charged.conceded rivals (charged.taskAt i).id ≤
            next.conceded rivals (charged.taskAt i).id :=
        conceded_selects hreachable hselects hsame hi fun hid => hpassed (by rw [hid])
      rw [hreply, hstep, hchosen]
      exact (Nat.add_le_add_left hcharge _).trans hround

theorem selections_le_patience {rivals : TaskId → Bool} {before window : List SchedulerOp}
    {waiting : TaskControlBlock} {taskId : TaskId}
    (h : Along step (PassesOver taskId) (runNew before) window)
    (hwaiting : (run step (runNew before) window).runQueue.get taskId = some waiting) :
    countAlong step (selectsRival rivals) (runNew before) window ≤
      (run step (runNew before) window).patience rivals waiting := by
  have hcount : countAlong step (selectsRival rivals) (runNew before) window +
      conceded rivals taskId (runNew before) ≤
        conceded rivals taskId (run step (runNew before) window) :=
    countAlong_le_potential (conceded rivals taskId) (fun _ op hself => hself.step op)
      (fun _ _ hself h => conceded_step hself h) (reachable_runNew before) h
  have hbound : conceded rivals taskId (run step (runNew before) window) ≤
      (run step (runNew before) window).patience rivals waiting :=
    conceded_le_patience hwaiting
  omega

theorem PassesOver.executesSelection_eq {taskId : TaskId} {self : Scheduler}
    (hself : self.Reachable) {op : SchedulerOp} (h : self.PassesOver taskId op) :
    self.executesSelection op = self.selectsRival (fun id => id != taskId) op := by
  cases hselection : self.selectionState op with
  | none =>
      rw [selectsRival_of_no_selection hselection, executesSelection, hselection]
      rfl
  | some charged =>
      obtain ⟨hcharged, hstep⟩ := selectionState_some hselection
      obtain ⟨⟨i, hi, rfl⟩, hok, hpassed⟩ := h charged hselection
      rcases (hself.of_restated hcharged).switches.scheduleNext_cases with
        ⟨-, hlast⟩ | ⟨tick, -, hidle, -⟩ | ⟨k, next, -, hchosen⟩
      · rw [hlast] at hok
        contradiction
      · exact absurd (.inl hi) (hidle i)
      · have hother : (charged.taskAt k).id ≠ (charged.taskAt i).id := by
          rintro hid
          exact hpassed (by rw [hchosen, hid])
        rw [executesSelection, hselection, selectsRival, hstep, hchosen]
        exact (bne_iff_ne.mpr hother).symm

theorem patience_single {self : Scheduler} (hself : self.WellFormed) {rivalId : TaskId}
    {rival : TaskControlBlock} (h : self.runQueue.get rivalId = some rival)
    (waiting : TaskControlBlock) :
    self.patience (fun id => id == rivalId) waiting = 1 + rival.headStart waiting := by
  obtain ⟨j, hfound, rfl⟩ := Option.map_eq_some_iff.mp h
  obtain ⟨hj, rfl⟩ := getMut_some hfound
  have hslots : self.rivalSlots (fun id => id == (self.taskAt j).id) = {j} := by
    ext i
    rw [mem_rivalSlots, beq_iff_eq, Finset.mem_singleton]
    constructor
    · exact fun h => hself.id_unique i j h.1 hj h.2
    · rintro rfl
      exact ⟨hj, rfl⟩
  rw [patience, hslots, Finset.sum_singleton]
  rfl

/--
While a task waits, a rival is selected at most once more than its head start
counts: one that has none overtakes at most once.
-/
theorem overtakings_le_headStart (before window : List SchedulerOp)
    (waitingId rivalId : TaskId) (waiting rival : TaskControlBlock)
    (h : Along step (PassesOver waitingId) (runNew before) window)
    (hwaiting : (run step (runNew before) window).runQueue.get waitingId = some waiting)
    (hrival : (run step (runNew before) window).runQueue.get rivalId = some rival) :
    countAlong step (selectsRival fun id => id == rivalId) (runNew before) window ≤
      1 + rival.headStart waiting := by
  have hlast : (run step (runNew before) window).WellFormed :=
    (run_invariant (I := Reachable) (fun _ op hself => hself.step op)
      (reachable_runNew before) window).wellFormed
  rw [← patience_single hlast hrival]
  exact selections_le_patience h hwaiting

theorem overtakings_le_headStart_audit :
    countAlong step (selectsRival fun id => id == 2)
      (runNew [.spawn 0 .background 8 .empty .unlimited,
        .spawn 0 .audit 8 .empty .unlimited])
      [.scheduleNext, .yieldCurrent] ≤ 1 + 96 :=
  overtakings_le_headStart _ _ 1 2
    { TaskControlBlock.new 1 0 .background 8 .empty .unlimited with age := 2 }
    { TaskControlBlock.new 2 0 .audit 8 .empty .unlimited with
      state := .running, contextSwitches := 2 }
    (by decide +kernel) (by decide +kernel) (by decide +kernel)

/--
A ready task waits at most the rounds that the head starts of the other tasks in
the table allow, whatever else happens in between.
-/
theorem rounds_le_patience (before window : List SchedulerOp) (waitingId : TaskId)
    (waiting : TaskControlBlock)
    (h : Along step (PassesOver waitingId) (runNew before) window)
    (hwaiting : (run step (runNew before) window).runQueue.get waitingId = some waiting) :
    countAlong step executesSelection (runNew before) window ≤
      (run step (runNew before) window).patience (fun id => id != waitingId) waiting := by
  have hcount : countAlong step executesSelection (runNew before) window =
      countAlong step (selectsRival fun id => id != waitingId) (runNew before) window :=
    countAlong_congr (J := Reachable) (P := PassesOver waitingId)
      (fun _ op hself => hself.step op) (fun _ _ hself h => h.executesSelection_eq hself)
      (reachable_runNew before) h
  rw [hcount]
  exact selections_le_patience h hwaiting

theorem rounds_le_patience_peers :
    countAlong step executesSelection
      (runNew [.spawn 0 .runtime 32 .empty .unlimited, .spawn 0 .runtime 32 .empty .unlimited,
        .spawn 0 .runtime 32 .empty .unlimited])
      [.yieldCurrent, .yieldCurrent] ≤ 2 :=
  (rounds_le_patience _ _ 3
    { TaskControlBlock.new 3 0 .runtime 32 .empty .unlimited with age := 2 }
    (by decide +kernel) (by decide +kernel)).trans (by decide +kernel)

end Scheduler

end AlaniKernel
