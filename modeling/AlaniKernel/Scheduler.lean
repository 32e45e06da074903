import AlaniKernel.Capability

/-!
# Cooperative scheduler: tasks, priorities, budgets, and yielding

An operation returns its result together with the scheduler it leaves behind;
an early return keeps the writes made before it.
-/

namespace AlaniKernel

open AlaniKernel.Foundation

abbrev maxTasks : Nat := 64

def defaultPriority : UInt8 := 32

inductive TaskState where
  | new
  | ready
  | running
  | blocked
  | sleeping
  | suspended
  | exiting
  | zombie
  deriving DecidableEq, Repr

/-- The `repr(u8)` value of a task state, as `u64`. -/
def TaskState.toUInt64 : TaskState → UInt64
  | .new => 0
  | .ready => 1
  | .running => 2
  | .blocked => 3
  | .sleeping => 4
  | .suspended => 5
  | .exiting => 6
  | .zombie => 7

inductive SchedulerClass where
  | kernel
  | runtime
  | interactive
  | cognitive
  | background
  | audit
  deriving DecidableEq, Repr

def SchedulerClass.boost : SchedulerClass → UInt32
  | .audit => 96
  | .kernel => 80
  | .runtime => 48
  | .interactive => 32
  | .cognitive => 16
  | .background => 0

structure BudgetAccount where
  maxTicks : UInt64
  remainingTicks : UInt64
  deadlineTick : UInt64
  deriving DecidableEq, Repr

namespace BudgetAccount

def unlimited : BudgetAccount :=
  { maxTicks := 0, remainingTicks := 0, deadlineTick := 0 }

def bounded (maxTicks deadlineTick : UInt64) : KernelResult BudgetAccount :=
  if maxTicks = 0 ∧ deadlineTick = 0 then .error .invalidArgument
  else .ok { maxTicks, remainingTicks := maxTicks, deadlineTick }

def deadlineExpired (self : BudgetAccount) (now : UInt64) : Bool :=
  self.deadlineTick != 0 && self.deadlineTick ≤ now

/-- The account after one paid tick; a refused charge changes nothing. -/
def consumeTick (self : BudgetAccount) : KernelResult BudgetAccount :=
  if self.maxTicks = 0 then .ok self
  else if self.remainingTicks = 0 then .error .deadlineExceeded
  else .ok { self with remainingTicks := self.remainingTicks - 1 }

end BudgetAccount

structure TaskControlBlock where
  id : TaskId
  parentId : TaskId
  state : TaskState
  schedulerClass : SchedulerClass
  basePriority : UInt8
  dynamicPriority : UInt8
  weight : UInt16
  age : UInt16
  budget : BudgetAccount
  capabilities : CapabilitySet
  contextSwitches : UInt64
  deriving DecidableEq, Repr

namespace TaskControlBlock

def empty : TaskControlBlock :=
  { id := 0
    parentId := 0
    state := .zombie
    schedulerClass := .background
    basePriority := 0
    dynamicPriority := 0
    weight := 0
    age := 0
    budget := .unlimited
    capabilities := .empty
    contextSwitches := 0 }

def new (id parentId : TaskId) (schedulerClass : SchedulerClass)
    (priority : UInt8) (capabilities : CapabilitySet) (budget : BudgetAccount) :
    TaskControlBlock :=
  { id
    parentId
    state := .ready
    schedulerClass
    basePriority := priority
    dynamicPriority := priority
    weight := 1
    age := 0
    budget
    capabilities
    contextSwitches := 0 }

def isRunnable (self : TaskControlBlock) : Bool :=
  self.state == .ready || self.state == .running

end TaskControlBlock

structure TaskSlot where
  occupied : Bool
  task : TaskControlBlock
  deriving DecidableEq, Repr

def TaskSlot.empty : TaskSlot := { occupied := false, task := .empty }

structure TaskStateTransition where
  taskId : TaskId
  source : TaskState
  target : TaskState
  deriving DecidableEq, Repr

structure RunQueue where
  slots : Vector TaskSlot maxTasks
  deriving DecidableEq

namespace RunQueue

def new : RunQueue := { slots := Vector.replicate maxTasks .empty }

/-- The slot that `get_mut` hands out a reference to. -/
def getMut (self : RunQueue) (taskId : TaskId) : Option (Fin maxTasks) :=
  position self.slots fun slot => slot.occupied && slot.task.id == taskId

def get (self : RunQueue) (taskId : TaskId) : Option TaskControlBlock :=
  (self.getMut taskId).map fun index => (self.slots.get index).task

def writeTask (self : RunQueue) (index : Fin maxTasks)
    (task : TaskControlBlock) : RunQueue :=
  { slots := self.slots.set index { self.slots.get index with task } index.isLt }

def insert (self : RunQueue) (task : TaskControlBlock) :
    KernelResult Unit × RunQueue :=
  if task.id = 0 then (.error .invalidArgument, self)
  else if (self.get task.id).isSome then (.error .duplicate, self)
  else
    match position self.slots (fun slot => !slot.occupied) with
    | none => (.error .capacityExceeded, self)
    | some slot =>
        (.ok (), { slots := self.slots.set slot { occupied := true, task } slot.isLt })

def len (self : RunQueue) : Nat := countCells self.slots TaskSlot.occupied

def tasks (self : RunQueue) : List TaskControlBlock :=
  (self.slots.toList.filter TaskSlot.occupied).map TaskSlot.task

end RunQueue

structure Scheduler where
  runQueue : RunQueue
  currentTask : Option TaskId
  nextTaskId : TaskId
  tick : UInt64
  deriving DecidableEq

namespace Scheduler

def new : Scheduler :=
  { runQueue := .new, currentTask := none, nextTaskId := 1, tick := 0 }

def spawn (self : Scheduler) (parentId : TaskId) (schedulerClass : SchedulerClass)
    (priority : UInt8) (capabilities : CapabilitySet) (budget : BudgetAccount) :
    KernelResult TaskId × Scheduler :=
  let taskId := self.nextTaskId
  match checkedAdd64 self.nextTaskId 1 with
  | none => (.error .internal, self)
  | some nextTaskId =>
      let task :=
        TaskControlBlock.new taskId parentId schedulerClass priority
          capabilities budget
      -- the identifier stays consumed when the insertion fails
      match self.runQueue.insert task with
      | (.error error, runQueue) =>
          (.error error, { self with nextTaskId, runQueue })
      | (.ok (), runQueue) => (.ok taskId, { self with nextTaskId, runQueue })

def validTransition : TaskState → TaskState → Bool
  | .new, .ready => true
  | .ready, .running => true
  | .running, .ready => true
  | .running, .blocked => true
  | .running, .sleeping => true
  | .ready, .suspended => true
  | .suspended, .ready => true
  | .blocked, .ready => true
  | .sleeping, .ready => true
  | .running, .exiting => true
  | .exiting, .zombie => true
  | _, .zombie => true
  | _, _ => false

def transition (self : Scheduler) (taskId : TaskId) (target : TaskState) :
    KernelResult TaskStateTransition × Scheduler :=
  match self.runQueue.getMut taskId with
  | none => (.error .notFound, self)
  | some index =>
      let task := (self.runQueue.slots.get index).task
      if !validTransition task.state target then (.error .invalidState, self)
      else
        (.ok { taskId, source := task.state, target },
          { self with
            runQueue := self.runQueue.writeTask index { task with state := target }
            currentTask :=
              if target = .running then some taskId
              else if self.currentTask = some taskId then none
              else self.currentTask })

def score (self : Scheduler) (task : TaskControlBlock) : UInt32 :=
  let deadlineBoost : UInt32 :=
    if task.budget.deadlineExpired self.tick then 128 else 0
  task.dynamicPriority.toUInt32 + task.weight.toUInt32 +
    task.schedulerClass.boost + task.age.toUInt32 + deadlineBoost

/-- One round of the search for the best slot, with the best score so far. -/
def considerSlot (self : Scheduler) (best : Option (Fin maxTasks) × UInt32)
    (index : Fin maxTasks) : Option (Fin maxTasks) × UInt32 :=
  let slot := self.runQueue.slots.get index
  if !slot.occupied || !slot.task.isRunnable then best
  else
    let score := self.score slot.task
    if best.1.isNone || best.2 < score then (some index, score) else best

def bestIndex (self : Scheduler) : Option (Fin maxTasks) :=
  ((List.finRange maxTasks).foldl self.considerSlot (none, 0)).1

/-- What `schedule_next` does to one slot once a task is selected. -/
def rotateSlot (selectedId : TaskId) (slot : TaskSlot) :
    KernelResult Unit × TaskSlot :=
  let task := slot.task
  if !slot.occupied then (.ok (), slot)
  else if task.id = selectedId then
    let started : TaskControlBlock :=
      { task with
        state := .running, age := 0, dynamicPriority := task.basePriority }
    match checkedAdd64 task.contextSwitches 1 with
    | none => (.error .internal, { slot with task := started })
    | some contextSwitches =>
        (.ok (), { slot with task := { started with contextSwitches } })
  else if task.state = .running then
    (.ok (), { slot with task := { task with state := .ready } })
  else if task.state = .ready then
    let age := saturatingAdd16 task.age 1
    -- the narrowing cast keeps the low eight bits of `age / 4`
    let dynamicPriority := saturatingAdd8 task.basePriority (age / 4).toUInt8
    (.ok (), { slot with task := { task with age, dynamicPriority } })
  else (.ok (), slot)

def scheduleNext (self : Scheduler) : KernelResult (Option TaskId) × Scheduler :=
  match checkedAdd64 self.tick 1 with
  | none => (.error .internal, self)
  | some tick =>
      let self := { self with tick }
      match self.bestIndex with
      | none => (.ok none, { self with currentTask := none })
      | some selectedIndex =>
          let selectedId := (self.runQueue.slots.get selectedIndex).task.id
          match forEach (rotateSlot selectedId) self.runQueue.slots with
          | (.error error, slots) =>
              (.error error, { self with runQueue := { slots } })
          | (.ok (), slots) =>
              (.ok (some selectedId),
                { self with
                  runQueue := { slots }, currentTask := some selectedId })

/-- What `yield_current` does before it reschedules. -/
def chargeCurrent (self : Scheduler) : KernelResult Scheduler :=
  match self.currentTask with
  | none => .ok self
  | some current =>
      match self.runQueue.getMut current with
      | none => .error .notFound
      | some index =>
          let task := (self.runQueue.slots.get index).task
          match task.budget.consumeTick with
          | .error error => .error error
          | .ok budget =>
              let state := if task.state = .running then .ready else task.state
              .ok
                { self with
                  runQueue :=
                    self.runQueue.writeTask index { task with budget, state } }

def yieldCurrent (self : Scheduler) : KernelResult (Option TaskId) × Scheduler :=
  match self.chargeCurrent with
  | .error error => (.error error, self)
  | .ok charged => charged.scheduleNext

def cancel (self : Scheduler) (taskId : TaskId) :
    KernelResult TaskStateTransition × Scheduler :=
  match self.runQueue.getMut taskId with
  | none => (.error .notFound, self)
  | some index =>
      let task := (self.runQueue.slots.get index).task
      if task.state = .zombie ∨ task.state = .exiting then
        (.error .invalidState, self)
      else
        (.ok { taskId, source := task.state, target := .zombie },
          { self with
            runQueue := self.runQueue.writeTask index { task with state := .zombie }
            currentTask :=
              if self.currentTask = some taskId then none
              else self.currentTask })

end Scheduler

end AlaniKernel
