import AlaniKernel.Scheduler.Budget
import AlaniKernel.Scheduler.Selection

/-!
# What the counters say about the past

The clock counts the selections that completed, and the switch counter of a
task counts those that selected it.
-/

namespace AlaniKernel

open AlaniKernel.Foundation

namespace Scheduler

/-- The event is a selection that completed, whether or not it found a task. -/
def completesSelection (event : SchedulerEvent) : Bool :=
  match event.2 with
  | .ok (.selected _) => true
  | _ => false

theorem not_selected_of_no_selection {self : Scheduler} {op : SchedulerOp}
    (h : self.selectionState op = none) (selected : Option TaskId) :
    (self.step op).1 ≠ .ok (.selected selected) := by
  cases op with
  | spawn parentId schedulerClass priority capabilities budget =>
      rw [step]
      cases (self.spawn parentId schedulerClass priority capabilities budget).1 <;>
        simp [Except.map]
  | transition taskId target =>
      rw [step]
      cases (self.transition taskId target).1 <;> simp [Except.map]
  | cancel taskId =>
      rw [step]
      cases (self.cancel taskId).1 <;> simp [Except.map]
  | scheduleNext => simp [selectionState] at h
  | yieldCurrent =>
      cases hcharge : self.chargeCurrent with
      | ok charged => simp [selectionState, hcharge] at h
      | error error => simp [step, yieldCurrent, hcharge, Except.map]

theorem completesSelection_of_no_selection {self : Scheduler} {op : SchedulerOp}
    (h : self.selectionState op = none) :
    completesSelection (op, (self.step op).1) = false := by
  cases hreply : (self.step op).1 with
  | error error => rfl
  | ok reply =>
      cases reply with
      | spawned taskId => rfl
      | moved record => rfl
      | selected taskId => exact absurd hreply (not_selected_of_no_selection h taskId)

theorem selectsTask_of_no_selection {self : Scheduler} {op : SchedulerOp}
    (h : self.selectionState op = none) (taskId : TaskId) :
    selectsTask taskId (op, (self.step op).1) = false :=
  decide_eq_false (not_selected_of_no_selection h (some taskId))

theorem selections_snoc (taskId : TaskId) (events : List SchedulerEvent)
    (event : SchedulerEvent) :
    selections taskId (events ++ [event]) =
      selections taskId events + if selectsTask taskId event then 1 else 0 := by
  rw [selections, List.countP_append, List.countP_singleton]
  rfl

structure Counted (sched : Scheduler) (events : List SchedulerEvent) : Prop where
  tick : sched.tick.toNat = events.countP completesSelection
  switches : ∀ i, sched.Occupied i →
    (sched.taskAt i).contextSwitches.toNat = selections (sched.taskAt i).id events

theorem Counted.of_restated {before after : Scheduler} {events : List SchedulerEvent}
    (h : before.Counted events) (hwritten : Restated before after) :
    after.Counted events := by
  refine ⟨?_, fun i hi => ?_⟩
  · rw [hwritten.tick]
    exact h.tick
  · rw [hwritten.sameTasks.id, ← h.switches i ((hwritten.sameTasks.occupied i).mp hi)]
    obtain ⟨state, remainingTicks, hslot⟩ := hwritten.slotAt i
    rw [taskAt, hslot]

theorem Counted.append {self : Scheduler} {events : List SchedulerEvent}
    (h : self.Counted events) {event : SchedulerEvent}
    (hclock : completesSelection event = false)
    (hselects : ∀ taskId, selectsTask taskId event = false) :
    self.Counted (events ++ [event]) := by
  refine ⟨?_, fun i hi => ?_⟩
  · rw [List.countP_append, List.countP_singleton, hclock, h.tick]
    rfl
  · rw [selections_snoc, hselects, h.switches i hi]
    rfl

theorem Counted.spawns {self next : Scheduler} {events : List SchedulerEvent}
    (h : self.Counted events) (hspawned : self.Spawns next)
    (hfresh : selections self.nextTaskId events = 0) : next.Counted events := by
  refine ⟨?_, fun i hi => ?_⟩
  · rw [hspawned.tick]
    exact h.tick
  · rcases hspawned.slotAt_cases i with hkept | ⟨-, parentId, _, _, _, _, hnew⟩
    · rw [Occupied, hkept] at hi
      rw [taskAt, hkept]
      exact h.switches i hi
    · rw [taskAt, hnew]
      exact hfresh.symm

theorem contextSwitches_rotated {selectedId : TaskId} {slot : TaskSlot}
    (h : slot.occupied = true) (hid : slot.task.id ≠ selectedId) :
    (rotated selectedId slot).task.contextSwitches = slot.task.contextSwitches := by
  rw [rotated_of_other h hid]
  dsimp only
  split_ifs <;> rfl

theorem Counted.selects {self next : Scheduler} {events : List SchedulerEvent}
    {k : Fin maxTasks} (h : self.Counted events) (hself : self.Reachable)
    (hselects : self.Selects k next) (hsame : SameTasks self next)
    {event : SchedulerEvent}
    (hevent : event.2 = .ok (.selected (some (self.taskAt k).id))) :
    next.Counted (events ++ [event]) := by
  have htick := hselects.tick
  have hlast := next.tick.toNat_lt
  refine ⟨?_, fun i hi => ?_⟩
  · have hclock : completesSelection event = true := by
      rw [completesSelection, hevent]
    rw [List.countP_append, List.countP_singleton, hclock, htick, h.tick]
    rfl
  · have hi' := (hsame.occupied i).mp hi
    rw [hsame.id, selections_snoc, ← h.switches i hi']
    by_cases hwinner : i = k
    · have hbound := hself.switches k hselects.occupied
      have hcount : (self.taskAt k).contextSwitches.toNat + 1 < 2 ^ 64 := by omega
      have hone : selectsTask (self.taskAt k).id event = true := decide_eq_true hevent
      rw [hwinner, hone, taskAt, hselects.slotAt_started hcount]
      change ((self.taskAt k).contextSwitches + 1).toNat = _
      rw [UInt64.toNat_add]
      exact Nat.mod_eq_of_lt hcount
    · have hid : (self.taskAt i).id ≠ (self.taskAt k).id :=
        fun hid => hwinner (hself.wellFormed.id_unique i k hi' hselects.occupied hid)
      have hnone : selectsTask (self.taskAt i).id event = false := by
        apply decide_eq_false
        rw [hevent]
        simpa using hid.symm
      rw [hnone, taskAt, hselects.slotAt, contextSwitches_rotated hi' hid]
      rfl

theorem Counted.scheduleNext {self : Scheduler} {events : List SchedulerEvent}
    (h : self.Counted events) (hself : self.Reachable) (op : SchedulerOp) :
    self.scheduleNext.2.Counted (events ++ [(op, self.scheduleNext.1.map .selected)]) := by
  have hsame := sameTasks_scheduleNext self
  rcases hself.switches.scheduleNext_cases with
    ⟨-, hs⟩ | ⟨tick, htick, -, hs⟩ | ⟨k, next, hselects, hs⟩
  · rw [hs]
    exact h.append rfl fun taskId => rfl
  · rw [hs]
    refine ⟨?_, fun i hi => ?_⟩
    · rw [List.countP_append, List.countP_singleton, htick, h.tick]
      rfl
    · rw [selections_snoc]
      exact h.switches i hi
  · rw [hs] at hsame ⊢
    exact h.selects hself hselects hsame rfl

theorem counted_run (ops : List SchedulerOp) : (runNew ops).Counted (historyNew ops) := by
  induction ops using List.reverseRecOn with
  | nil => exact ⟨rfl, fun i hi => absurd hi (not_occupied_new i)⟩
  | append_singleton ops op ih =>
      have hreachable := reachable_runNew ops
      rw [runNew, historyNew, run_snoc, history_snoc]
      rcases (runNew ops).step_cases op with
        ⟨-, hselection, hspawned⟩ | ⟨hselection, hwritten⟩ |
          ⟨charged, hselection, hcharged, hstep⟩
      · exact (ih.spawns hspawned (selections_before_spawn ops)).append
          (completesSelection_of_no_selection hselection)
          (selectsTask_of_no_selection hselection)
      · exact (ih.of_restated hwritten).append
          (completesSelection_of_no_selection hselection)
          (selectsTask_of_no_selection hselection)
      · rw [hstep]
        exact (ih.of_restated hcharged).scheduleNext (hreachable.of_restated hcharged) op

/--
In every run the clock shows how many selections completed, and the switch
counter of each task how many of them selected it.
-/
theorem counters_match_history (ops : List SchedulerOp) :
    (runNew ops).tick.toNat = (historyNew ops).countP completesSelection ∧
      ∀ taskId task, (runNew ops).runQueue.get taskId = some task →
        task.contextSwitches.toNat = selections taskId (historyNew ops) := by
  have hcounted := counted_run ops
  refine ⟨hcounted.tick, fun taskId task hget => ?_⟩
  obtain ⟨i, hfound, rfl⟩ := Option.map_eq_some_iff.mp hget
  obtain ⟨hi, rfl⟩ := getMut_some hfound
  exact hcounted.switches i hi

theorem counters_match_history_once :
    ({ TaskControlBlock.new 1 0 .runtime 8 .empty .unlimited with
        state := .running, contextSwitches := 1 } : TaskControlBlock).contextSwitches.toNat =
      selections 1 (historyNew [.spawn 0 .runtime 8 .empty .unlimited, .scheduleNext]) :=
  (counters_match_history [.spawn 0 .runtime 8 .empty .unlimited, .scheduleNext]).2 1 _
    (by decide +kernel)

end Scheduler

end AlaniKernel
