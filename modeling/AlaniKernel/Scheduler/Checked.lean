import AlaniKernel.Foundation.Checked
import AlaniKernel.Scheduler.Aging

/-!
# Scheduling in a build with overflow checks

The scheduler subtracts paid ticks, adds up scores and indexes the slot it has
selected.  None of these can stop such a build, whatever the tasks are.
-/

namespace AlaniKernel

open AlaniKernel.Foundation

def BudgetAccount.consumeTickChecked (self : BudgetAccount) :
    Option (KernelResult BudgetAccount) :=
  if self.maxTicks = 0 then some (.ok self)
  else if self.remainingTicks = 0 then some (.error .deadlineExceeded)
  else do
    let remainingTicks ← checkedSub64 self.remainingTicks 1
    return .ok { self with remainingTicks }

theorem BudgetAccount.consumeTickChecked_eq (self : BudgetAccount) :
    self.consumeTickChecked = some self.consumeTick := by
  unfold consumeTickChecked consumeTick
  split_ifs with hunlimited hspent
  · rfl
  · rfl
  · rw [checkedSub64_one hspent]
    rfl

namespace Scheduler

def scoreChecked (self : Scheduler) (task : TaskControlBlock) : Option UInt32 := do
  let deadlineBoost : UInt32 :=
    if task.budget.deadlineExpired self.tick then 128 else 0
  let score ← checkedAdd32 task.dynamicPriority.toUInt32 task.weight.toUInt32
  let score ← checkedAdd32 score task.schedulerClass.boost
  let score ← checkedAdd32 score task.age.toUInt32
  checkedAdd32 score deadlineBoost

def considerSlotChecked (self : Scheduler) (best : Option (Fin maxTasks) × UInt32)
    (index : Fin maxTasks) : Option (Option (Fin maxTasks) × UInt32) :=
  let slot := self.runQueue.slots.get index
  if !slot.occupied || !slot.task.isRunnable then some best
  else do
    let score ← self.scoreChecked slot.task
    return if best.1.isNone || best.2 < score then (some index, score) else best

def bestIndexChecked (self : Scheduler) : Option (Option (Fin maxTasks)) := do
  let best ← (List.finRange maxTasks).foldlM self.considerSlotChecked (none, 0)
  return best.1

def scheduleNextChecked (self : Scheduler) :
    Option (KernelResult (Option TaskId) × Scheduler) :=
  match checkedAdd64 self.tick 1 with
  | none => some (.error .internal, self)
  | some tick => do
      let self := { self with tick }
      match ← self.bestIndexChecked with
      | none => return (.ok none, { self with currentTask := none })
      | some selectedIndex =>
          let selected ← getChecked self.runQueue.slots selectedIndex.val
          match forEach (rotateSlot selected.task.id) self.runQueue.slots with
          | (.error error, slots) =>
              return (.error error, { self with runQueue := { slots } })
          | (.ok (), slots) =>
              return (.ok (some selected.task.id),
                { self with
                  runQueue := { slots }, currentTask := some selected.task.id })

def chargeCurrentChecked (self : Scheduler) : Option (KernelResult Scheduler) :=
  match self.currentTask with
  | none => some (.ok self)
  | some current =>
      match self.runQueue.getMut current with
      | none => some (.error .notFound)
      | some index => do
          let task := (self.runQueue.slots.get index).task
          match ← task.budget.consumeTickChecked with
          | .error error => return .error error
          | .ok budget =>
              let state := if task.state = .running then .ready else task.state
              return .ok
                { self with
                  runQueue :=
                    self.runQueue.writeTask index { task with budget, state } }

def yieldCurrentChecked (self : Scheduler) :
    Option (KernelResult (Option TaskId) × Scheduler) := do
  match ← self.chargeCurrentChecked with
  | .error error => return (.error error, self)
  | .ok charged => charged.scheduleNextChecked

/-- A score is a sum of five numbers of at most sixteen bits. -/
theorem scoreChecked_eq (self : Scheduler) (task : TaskControlBlock) :
    self.scoreChecked task = some (self.score task) := by
  have hpriority := task.dynamicPriority.toNat_lt
  have hweight := task.weight.toNat_lt
  have hage := task.age.toNat_lt
  have hclass := boost_le task.schedulerClass
  have hadd (a b : UInt32) (h : a.toNat + b.toNat < 2 ^ 20) :
      checkedAdd32 a b = some (a + b) ∧ (a + b).toNat = a.toNat + b.toNat :=
    ⟨checkedAdd32_of_lt (by omega), by rw [UInt32.toNat_add]; omega⟩
  obtain ⟨h₁, n₁⟩ := hadd task.dynamicPriority.toUInt32 task.weight.toUInt32 (by
    rw [UInt8.toNat_toUInt32, UInt16.toNat_toUInt32]
    omega)
  rw [UInt8.toNat_toUInt32, UInt16.toNat_toUInt32] at n₁
  obtain ⟨h₂, n₂⟩ := hadd _ task.schedulerClass.boost (by rw [n₁]; omega)
  obtain ⟨h₃, n₃⟩ := hadd _ task.age.toUInt32 (by
    rw [n₂, n₁, UInt16.toNat_toUInt32]
    omega)
  rw [n₂, n₁, UInt16.toNat_toUInt32] at n₃
  unfold scoreChecked score
  dsimp only
  rw [h₁, Option.bind_eq_bind, Option.bind_some, h₂, Option.bind_some, h₃,
    Option.bind_some]
  split_ifs
  · exact (hadd _ 128 (by rw [n₃, show (128 : UInt32).toNat = 128 from rfl]; omega)).1
  · exact (hadd _ 0 (by rw [n₃, show (0 : UInt32).toNat = 0 from rfl]; omega)).1

theorem considerSlotChecked_eq (self : Scheduler) (best : Option (Fin maxTasks) × UInt32)
    (index : Fin maxTasks) :
    self.considerSlotChecked best index = some (self.considerSlot best index) := by
  unfold considerSlotChecked considerSlot
  dsimp only
  rw [scoreChecked_eq, Option.bind_eq_bind, Option.bind_some]
  split_ifs <;> rfl

theorem bestIndexChecked_eq (self : Scheduler) :
    self.bestIndexChecked = some self.bestIndex := by
  have hslots : self.considerSlotChecked =
      fun best index => pure (self.considerSlot best index) := by
    funext best index
    exact self.considerSlotChecked_eq best index
  rw [bestIndexChecked, hslots, List.foldlM_pure, pure_bind]
  rfl

theorem scheduleNextChecked_eq (self : Scheduler) :
    self.scheduleNextChecked = some self.scheduleNext := by
  unfold scheduleNextChecked scheduleNext
  cases checkedAdd64 self.tick 1 with
  | none => rfl
  | some tick =>
      dsimp only
      rw [bestIndexChecked_eq, Option.bind_eq_bind, Option.bind_some]
      cases { self with tick }.bestIndex with
      | none => rfl
      | some k =>
          dsimp only
          rw [getChecked_val, Option.bind_eq_bind, Option.bind_some]
          generalize forEach (rotateSlot (self.runQueue.slots.get k).task.id)
            self.runQueue.slots = outcome
          obtain ⟨result, slots⟩ := outcome
          cases result <;> rfl

theorem chargeCurrentChecked_eq (self : Scheduler) :
    self.chargeCurrentChecked = some self.chargeCurrent := by
  unfold chargeCurrentChecked chargeCurrent
  cases self.currentTask with
  | none => rfl
  | some current =>
      dsimp only
      cases self.runQueue.getMut current with
      | none => rfl
      | some i =>
          dsimp only
          rw [BudgetAccount.consumeTickChecked_eq, Option.bind_eq_bind, Option.bind_some]
          cases (self.runQueue.slots.get i).task.budget.consumeTick <;> rfl

theorem yieldCurrentChecked_eq (self : Scheduler) :
    self.yieldCurrentChecked = some self.yieldCurrent := by
  rw [yieldCurrentChecked, chargeCurrentChecked_eq, Option.bind_eq_bind,
    Option.bind_some, yieldCurrent]
  cases self.chargeCurrent with
  | error error => rfl
  | ok charged => exact charged.scheduleNextChecked_eq

end Scheduler

end AlaniKernel
