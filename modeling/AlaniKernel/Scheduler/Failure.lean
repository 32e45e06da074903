import AlaniKernel.Scheduler.Progress
import AlaniKernel.Scheduler.Selection

/-!
# Failed rescheduling

A selection advances the clock before a counter can stop it, and a yield
charges the current task before it selects.  Which failures leave a trace of
either is decided by the state before the call.
-/

namespace AlaniKernel

open AlaniKernel.Foundation

namespace BudgetAccount

theorem consumeTick_eq_self_iff {self charged : BudgetAccount}
    (h : self.consumeTick = .ok charged) : charged = self ↔ self.maxTicks = 0 := by
  by_cases hunlimited : self.maxTicks = 0
  · rw [consumeTick, if_pos hunlimited] at h
    exact iff_of_true (Except.ok.inj h).symm hunlimited
  · apply iff_of_false _ hunlimited
    rintro rfl
    have hpaid := Scheduler.consumeTick_bounded hunlimited h
    omega

end BudgetAccount

namespace Scheduler

def KeptOnError (before : Scheduler)
    (outcome : KernelResult (Option TaskId) × Scheduler) : Prop :=
  ∀ error, outcome.1 = .error error →
    outcome.2.runQueue = before.runQueue ∧
      outcome.2.currentTask = before.currentTask ∧ outcome.2.tick = before.tick

/-- The best task can be picked and a counter that its start advances is spent. -/
def Exhausted (self : Scheduler) : Prop :=
  self.tick.toNat + 1 < 2 ^ 64 ∧ ∃ k, self.ticked.Best k ∧ self.CounterSpent k

theorem scheduleNext_error_ticks {self : Scheduler}
    (htick : self.tick.toNat + 1 < 2 ^ 64) {error : KernelError}
    (h : self.scheduleNext.1 = .error error) : self.scheduleNext.2.tick ≠ self.tick := by
  rcases self.selection_cases with
    ⟨hlast, -⟩ | ⟨-, ⟨-, hnext⟩ |
      ⟨k, -, ⟨-, first, next, hnext, hadvanced⟩ | ⟨-, next, -, hnext⟩⟩⟩
  · omega
  · rw [hnext] at h
    contradiction
  · rw [hnext]
    intro hsame
    rw [hsame] at hadvanced
    omega
  · rw [hnext] at h
    contradiction

theorem keptOnError_iff_ok {before : Scheduler}
    {outcome : KernelResult (Option TaskId) × Scheduler}
    (hmoves : ∀ error, outcome.1 = .error error → outcome.2.tick ≠ before.tick) :
    KeptOnError before outcome ↔ ∀ error, outcome.1 ≠ .error error := by
  constructor
  · exact fun hkept error herror => hmoves error herror (hkept error herror).2.2
  · exact fun hok error herror => absurd herror (hok error)

theorem scheduleNext_kept_iff (self : Scheduler) :
    KeptOnError self self.scheduleNext ↔ ¬ self.Exhausted := by
  rcases self.selection_cases with
    ⟨hlast, h⟩ | ⟨htick, ⟨hidle, h⟩ |
      ⟨k, hbest, ⟨hspent, error, next, h, hnext⟩ | ⟨hcounter, next, hselects, h⟩⟩⟩
  · rw [h]
    apply iff_of_true
    · exact fun _ _ => ⟨rfl, rfl, rfl⟩
    · rintro ⟨htick, -⟩
      omega
  · rw [h]
    apply iff_of_true
    · exact fun _ hfailed => nomatch hfailed
    · rintro ⟨-, k, hbest, -⟩
      exact hidle k hbest.runnable
  · rw [h]
    apply iff_of_false
    · intro hkept
      have hsame := (hkept error rfl).2.2
      rw [hsame] at hnext
      omega
    · exact not_not.mpr ⟨htick, k, hbest, hspent⟩
  · rw [h]
    apply iff_of_true
    · exact fun _ hfailed => nomatch hfailed
    · rintro ⟨-, l, hl, hspent⟩
      rw [hbest.unique hl] at hcounter
      exact hcounter hspent

/-! ## The charge before a selection -/

def CanCharge (self : Scheduler) : Prop :=
  ∀ current, self.currentTask = some current →
    ∃ i, self.runQueue.getMut current = some i ∧ (self.taskAt i).budget.CanPay

def ChargeWrites (self : Scheduler) : Prop :=
  ∃ current i, self.currentTask = some current ∧
    self.runQueue.getMut current = some i ∧
    ((self.taskAt i).budget.maxTicks ≠ 0 ∨ (self.taskAt i).state = .running)

theorem chargeCurrent_found {self : Scheduler} {current : TaskId} {i : Fin maxTasks}
    {budget : BudgetAccount} (hcurrent : self.currentTask = some current)
    (hfound : self.runQueue.getMut current = some i)
    (hcharge : (self.taskAt i).budget.consumeTick = .ok budget) :
    self.chargeCurrent = .ok (self.withTask i
      { self.taskAt i with
        budget
        state :=
          if (self.taskAt i).state = .running then .ready
          else (self.taskAt i).state }) := by
  simp only [taskAt, slotAt] at hcharge
  simp only [chargeCurrent, hcurrent, hfound, hcharge, withTask, taskAt, slotAt]
  rfl

theorem chargeCurrent_ok_iff (self : Scheduler) :
    (∃ charged, self.chargeCurrent = .ok charged) ↔ self.CanCharge := by
  cases hcurrent : self.currentTask with
  | none =>
      apply iff_of_true
      · exact ⟨self, by simp [chargeCurrent, hcurrent]⟩
      · intro current h
        rw [hcurrent] at h
        contradiction
  | some current =>
      cases hfound : self.runQueue.getMut current with
      | none =>
          apply iff_of_false
          · simp [chargeCurrent, hcurrent, hfound]
          · intro h
            obtain ⟨i, hi, -⟩ := h current hcurrent
            rw [hfound] at hi
            contradiction
      | some i =>
          by_cases hpay : (self.taskAt i).budget.CanPay
          · obtain ⟨budget, hcharge⟩ := BudgetAccount.consumeTick_ok hpay
            apply iff_of_true ⟨_, chargeCurrent_found hcurrent hfound hcharge⟩
            intro other hother
            rw [hcurrent, Option.some.injEq] at hother
            exact ⟨i, hother ▸ hfound, hpay⟩
          · have hrefused := BudgetAccount.consumeTick_refused hpay
            simp only [taskAt, slotAt] at hrefused
            apply iff_of_false
            · simp [chargeCurrent, hcurrent, hfound, hrefused]
            · intro h
              obtain ⟨j, hj, hpays⟩ := h current hcurrent
              rw [hfound, Option.some.injEq] at hj
              exact hpay (hj ▸ hpays)

theorem writeTask_self (queue : RunQueue) (i : Fin maxTasks) :
    queue.writeTask i (queue.slots.get i).task = queue := by
  have hslots : queue.slots.set i (queue.slots.get i) i.isLt = queue.slots :=
    Vector.set_getElem_self i.isLt
  rw [RunQueue.writeTask, hslots]

theorem charged_runQueue_iff {self charged : Scheduler}
    (h : self.chargeCurrent = .ok charged) :
    charged.runQueue = self.runQueue ↔ ¬ self.ChargeWrites := by
  cases hcurrent : self.currentTask with
  | none =>
      simp only [chargeCurrent, hcurrent, Except.ok.injEq] at h
      subst h
      apply iff_of_true rfl
      rintro ⟨current, i, hsome, -⟩
      rw [hcurrent] at hsome
      contradiction
  | some current =>
      obtain ⟨i, hfound, hpay⟩ := self.chargeCurrent_ok_iff.mp ⟨charged, h⟩ current hcurrent
      obtain ⟨budget, hcharge⟩ := BudgetAccount.consumeTick_ok hpay
      have hbudget := BudgetAccount.consumeTick_eq_self_iff hcharge
      rw [chargeCurrent_found hcurrent hfound hcharge, Except.ok.injEq] at h
      subst h
      constructor
      · rintro hsame ⟨other, j, hother, hj, hwrites⟩
        rw [hcurrent, Option.some.injEq] at hother
        rw [← hother, hfound, Option.some.injEq] at hj
        subst hj
        have htask := congrArg (fun queue : RunQueue => (queue.slots.get i).task) hsame
        simp only [withTask, RunQueue.writeTask, get_set, if_true] at htask
        rcases hwrites with hbounded | hrunning
        · have hkept : budget = (self.taskAt i).budget :=
            congrArg TaskControlBlock.budget htask
          exact hbounded (hbudget.mp hkept)
        · have hstate := congrArg TaskControlBlock.state htask
          rw [if_pos hrunning] at hstate
          change TaskState.ready = (self.taskAt i).state at hstate
          rw [hrunning] at hstate
          contradiction
      · intro hquiet
        have hidle : ¬ ((self.taskAt i).budget.maxTicks ≠ 0 ∨
            (self.taskAt i).state = .running) :=
          fun hwrites => hquiet ⟨current, i, hcurrent, hfound, hwrites⟩
        obtain ⟨hunbounded, hstopped⟩ := not_or.mp hidle
        rw [if_neg hstopped, hbudget.mpr (not_not.mp hunbounded)]
        exact writeTask_self self.runQueue i

/-! ## The exact failures -/

theorem runnable_charged_iff {self charged : Scheduler}
    (h : self.chargeCurrent = .ok charged) (i : Fin maxTasks) :
    charged.Runnable i ↔ self.Runnable i := by
  have hoccupied := (restated_chargeCurrent h).sameTasks.occupied i
  constructor
  · intro hi
    rcases state_chargeCurrent h i with hkept | ⟨hrunning, -⟩
    · simpa only [Runnable, ReadyAt, RunningAt, hoccupied, hkept] using hi
    · have hslot : self.Occupied i := hoccupied.mp (hi.elim And.left And.left)
      exact .inr ⟨hslot, hrunning⟩
  · exact fun hi => hi.charged h

theorem Restated.score {before after : Scheduler} (h : Restated before after)
    (i : Fin maxTasks) :
    after.ticked.score (after.taskAt i) = before.ticked.score (before.taskAt i) := by
  obtain ⟨state, remainingTicks, hslot⟩ := h.slotAt i
  unfold Scheduler.score ticked
  rw [taskAt, hslot, h.tick]
  rfl

theorem best_charged_iff {self charged : Scheduler} (h : self.chargeCurrent = .ok charged)
    (k : Fin maxTasks) : charged.ticked.Best k ↔ self.ticked.Best k := by
  have hrunnable : ∀ i, charged.ticked.Runnable i ↔ self.ticked.Runnable i := by
    intro i
    rw [runnable_ticked, runnable_ticked]
    exact runnable_charged_iff h i
  have hscore : ∀ i, charged.ticked.score (charged.ticked.taskAt i) =
      self.ticked.score (self.ticked.taskAt i) := (restated_chargeCurrent h).score
  constructor
  · rintro ⟨hk, hhighest, hearliest⟩
    simp only [hrunnable, hscore] at hk hhighest hearliest
    exact ⟨hk, hhighest, hearliest⟩
  · rintro ⟨hk, hhighest, hearliest⟩
    simp only [← hrunnable, ← hscore] at hk hhighest hearliest
    exact ⟨hk, hhighest, hearliest⟩

theorem Restated.counterSpent_iff {before after : Scheduler} (h : Restated before after)
    (k : Fin maxTasks) : after.CounterSpent k ↔ before.CounterSpent k := by
  have hswitches : ∀ i, (after.taskAt i).contextSwitches =
      (before.taskAt i).contextSwitches := by
    intro i
    obtain ⟨state, remainingTicks, hslot⟩ := h.slotAt i
    rw [taskAt, hslot]
  simp only [CounterSpent, h.sameTasks.occupied, h.sameTasks.id, hswitches]

theorem exhausted_charged_iff {self charged : Scheduler}
    (h : self.chargeCurrent = .ok charged) : charged.Exhausted ↔ self.Exhausted := by
  have hcharged := restated_chargeCurrent h
  simp only [Exhausted, best_charged_iff h, hcharged.counterSpent_iff, hcharged.tick]

/-- A charge that is kept although the selection after it fails. -/
def HalfYields (self : Scheduler) : Prop :=
  self.CanCharge ∧ (2 ^ 64 ≤ self.tick.toNat + 1 ∧ self.ChargeWrites ∨ self.Exhausted)

theorem yieldCurrent_kept_iff (self : Scheduler) :
    KeptOnError self self.yieldCurrent ↔ ¬ self.HalfYields := by
  cases hcharge : self.chargeCurrent with
  | error error =>
      have hcannot : ¬ self.CanCharge := by
        rw [← self.chargeCurrent_ok_iff, hcharge]
        simp
      simp only [yieldCurrent, hcharge]
      apply iff_of_true
      · exact fun _ _ => ⟨rfl, rfl, rfl⟩
      · exact fun h => hcannot h.1
  | ok charged =>
      have hcan : self.CanCharge := self.chargeCurrent_ok_iff.mp ⟨charged, hcharge⟩
      have htick : charged.tick = self.tick := (restated_chargeCurrent hcharge).tick
      have hcurrent : charged.currentTask = self.currentTask :=
        currentTask_chargeCurrent hcharge
      have hqueue := charged_runQueue_iff hcharge
      simp only [yieldCurrent, hcharge, HalfYields, hcan, true_and]
      by_cases hlast : 2 ^ 64 ≤ self.tick.toNat + 1
      · have hspared : ¬ self.Exhausted := by
          rintro ⟨hbefore, -⟩
          omega
        rw [scheduleNext_last (by rwa [htick])]
        simp only [hlast, hspared, true_and, or_false, ← hqueue]
        constructor
        · exact fun hkept => (hkept .internal rfl).1
        · exact fun hsame _ _ => ⟨hsame, hcurrent, htick⟩
      · simp only [hlast, false_and, false_or, ← exhausted_charged_iff hcharge,
          ← scheduleNext_kept_iff]
        have hmoves : ∀ error, charged.scheduleNext.1 = .error error →
            charged.scheduleNext.2.tick ≠ charged.tick :=
          fun error => scheduleNext_error_ticks (by rw [htick]; omega)
        rw [keptOnError_iff_ok hmoves]
        rw [htick] at hmoves
        rw [keptOnError_iff_ok hmoves]

/--
A reschedule that fails leaves the scheduler as it was, but for a selection
that meets a spent switch counter and a charge that a failed selection follows.
-/
theorem reschedule_kept_iff (self : Scheduler) :
    (KeptOnError self self.scheduleNext ↔ ¬ self.Exhausted) ∧
      (KeptOnError self self.yieldCurrent ↔ ¬ self.HalfYields) :=
  ⟨self.scheduleNext_kept_iff, self.yieldCurrent_kept_iff⟩

def lastTick : Scheduler :=
  { runNew [.spawn 0 .runtime 8 .empty
      { maxTicks := 5, remainingTicks := 5, deadlineTick := 0 }, .scheduleNext] with
    tick := 0xffffffffffffffff }

theorem not_reschedule_kept_lastTick : ¬ KeptOnError lastTick lastTick.yieldCurrent := by
  intro hkept
  have hfails : lastTick.yieldCurrent.1 = .error .internal := by decide +kernel
  have hqueue := (hkept .internal hfails).1
  revert hqueue
  decide +kernel

end Scheduler

end AlaniKernel
