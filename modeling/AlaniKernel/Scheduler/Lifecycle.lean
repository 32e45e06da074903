import AlaniKernel.Scheduler.Aging

/-!
# The lifecycle of a task

Only `transition` consults the lifecycle graph.  The other operations write
task states directly, and a yield writes one twice, but no operation takes a
task further than one edge of the graph.
-/

namespace AlaniKernel

open AlaniKernel.Foundation

namespace Scheduler

/-! ## Edges of the graph -/

def Moves (before after : TaskState) : Prop :=
  after = before ∨ validTransition before after = true

theorem Moves.refl (state : TaskState) : Moves state state := .inl rfl

theorem Moves.zombie {after : TaskState} (h : Moves .zombie after) : after = .zombie := by
  cases after <;> simp_all [Moves, validTransition]

theorem Moves.ending {before after : TaskState} (h : Moves before after)
    (hbefore : before = .exiting ∨ before = .zombie) :
    after = .exiting ∨ after = .zombie := by
  rcases hbefore with rfl | rfl
  · cases after <;> simp_all [Moves, validTransition]
  · exact .inr h.zombie

theorem Moves.ne_new {before after : TaskState} (h : Moves before after)
    (hbefore : before ≠ .new) : after ≠ .new := by
  rintro rfl
  cases before <;> simp_all [Moves, validTransition]

/-- The task waits for a wake-up, or has ended while it waited. -/
def Parked (state : TaskState) : Prop :=
  state = .blocked ∨ state = .sleeping ∨ state = .suspended ∨ state = .zombie

theorem Parked.not_runnable {self : Scheduler} {i : Fin maxTasks}
    (h : Parked (self.taskAt i).state) : ¬ self.Runnable i := by
  rintro (hready | hrunning)
  · simp [Parked, hready.2] at h
  · simp [Parked, hrunning.2] at h

theorem Parked.target {state target : TaskState} (h : Parked state)
    (hvalid : validTransition state target = true) :
    target = .ready ∨ target = .zombie := by
  rcases h with rfl | rfl | rfl | rfl <;> cases target <;>
    simp_all [validTransition]

/-! ## Writes of each operation -/

theorem state_chargeCurrent {self charged : Scheduler}
    (h : self.chargeCurrent = .ok charged) (i : Fin maxTasks) :
    (charged.taskAt i).state = (self.taskAt i).state ∨
      (self.taskAt i).state = .running ∧ (charged.taskAt i).state = .ready := by
  rcases self.chargeCurrent_cases with
    ⟨error, -, herror⟩ | ⟨-, hidle⟩ | ⟨current, j, remainingTicks, -, -, -, hpaid⟩
  · rw [herror] at h
    contradiction
  · rw [hidle] at h
    cases h
    exact .inl rfl
  · rw [hpaid] at h
    cases h
    rw [taskAt, slotAt_withTask]
    by_cases hij : i = j
    · rw [if_pos hij, hij]
      by_cases hrunning : (self.taskAt j).state = .running
      · exact .inr ⟨hrunning, if_pos hrunning⟩
      · exact .inl (if_neg hrunning)
    · rw [if_neg hij]
      exact .inl rfl

theorem state_scheduleNext {self : Scheduler} (hself : self.Reachable)
    {i : Fin maxTasks} (hi : self.Occupied i) :
    (self.scheduleNext.2.taskAt i).state = (self.taskAt i).state ∨
      (self.taskAt i).state = .ready ∧
        (self.scheduleNext.2.taskAt i).state = .running ∨
      (self.taskAt i).state = .running ∧
        (self.scheduleNext.2.taskAt i).state = .ready := by
  rcases hself.switches.scheduleNext_cases with
    ⟨-, h⟩ | ⟨tick, -, -, h⟩ | ⟨k, next, hselects, h⟩
  · rw [h]
    exact .inl rfl
  · rw [h]
    exact .inl rfl
  · rw [h]
    change ((next.slotAt i).task).state = _ ∨ _ ∧ ((next.slotAt i).task).state = _ ∨
      _ ∧ ((next.slotAt i).task).state = _
    rw [hselects.slotAt]
    by_cases hid : (self.taskAt i).id = (self.taskAt k).id
    · have hik := hself.wellFormed.id_unique i k hi hselects.occupied hid
      obtain ⟨contextSwitches, -, hslot⟩ := rotated_of_selected hi hid
      rw [hslot]
      rcases hselects.runnable with hready | hrunning
      · exact .inr (.inl ⟨hik ▸ hready.2, rfl⟩)
      · exact .inl (hik ▸ hrunning.2).symm
    · rw [rotated_of_other hi hid]
      dsimp only
      split_ifs with hrunning hready
      · exact .inr (.inr ⟨hrunning, rfl⟩)
      · exact .inl rfl
      · exact .inl rfl

theorem moves_of_charged {before charged after : TaskState}
    (hcharged : charged = before ∨ before = .running ∧ charged = .ready)
    (hafter : after = charged ∨ charged = .ready ∧ after = .running ∨
      charged = .running ∧ after = .ready) : Moves before after := by
  rcases hcharged with rfl | ⟨rfl, rfl⟩
  · rcases hafter with rfl | ⟨rfl, rfl⟩ | ⟨rfl, rfl⟩
    · exact .refl _
    · exact .inr rfl
    · exact .inr rfl
  · rcases hafter with rfl | ⟨-, rfl⟩ | ⟨hrunning, -⟩
    · exact .inr rfl
    · exact .refl _
    · contradiction

theorem state_withTask (self : Scheduler) (i j : Fin maxTasks) (state : TaskState)
    (currentTask : Option TaskId) :
    (({ self.withTask i { self.taskAt i with state } with currentTask } :
      Scheduler).taskAt j).state = if j = i then state else (self.taskAt j).state := by
  have hslot := slotAt_withTask self i j { self.taskAt i with state }
  change ((self.withTask i { self.taskAt i with state }).slotAt j).task.state = _
  rw [hslot]
  split_ifs <;> rfl

theorem moves_step {self : Scheduler} (hself : self.Reachable) (op : SchedulerOp)
    {i : Fin maxTasks} (hi : self.Occupied i) :
    Moves (self.taskAt i).state ((self.step op).2.taskAt i).state := by
  cases op with
  | spawn parentId schedulerClass priority capabilities budget =>
      have hspawned := self.spawns_spawn parentId schedulerClass priority capabilities budget
      change Moves _ ((self.spawn _ _ _ _ _).2.slotAt i).task.state
      rw [hspawned.slotAt hi]
      exact .refl _
  | transition taskId target =>
      rcases self.transition_cases taskId target with
        ⟨error, -, h, -⟩ | ⟨j, -, hvalid, h⟩
      · simp only [step, h]
        exact .refl _
      · simp only [step, h]
        rw [state_withTask]
        split_ifs with hij
        · exact .inr (hij ▸ hvalid)
        · exact .refl _
  | cancel taskId =>
      rcases self.cancel_cases taskId with ⟨error, -, h⟩ | ⟨j, -, -, h⟩
      · simp only [step, h]
        exact .refl _
      · simp only [step, h]
        rw [state_withTask]
        split_ifs
        · exact .inr (by cases (self.taskAt i).state <;> rfl)
        · exact .refl _
  | scheduleNext => exact moves_of_charged (.inl rfl) (state_scheduleNext hself hi)
  | yieldCurrent =>
      cases hcharge : self.chargeCurrent with
      | error error =>
          simp only [step, yieldCurrent, hcharge]
          exact .refl _
      | ok charged =>
          have hcharged := restated_chargeCurrent hcharge
          simp only [step, yieldCurrent, hcharge]
          exact moves_of_charged (state_chargeCurrent hcharge i)
            (state_scheduleNext (hself.of_restated hcharged)
              ((hcharged.sameTasks.occupied i).mpr hi))

/-! ## Runs -/

theorem closed_run (closed : TaskState → Prop)
    (hclosed : ∀ before after, Moves before after → closed before → closed after)
    {self : Scheduler} (hself : self.Reachable) {i : Fin maxTasks}
    (hi : self.Occupied i) (h : closed (self.taskAt i).state) (ops : List SchedulerOp) :
    closed ((run step self ops).taskAt i).state := by
  have hrun : (run step self ops).Reachable ∧ (run step self ops).Occupied i ∧
      closed ((run step self ops).taskAt i).state := by
    refine run_invariant (I := fun (sched : Scheduler) => sched.Reachable ∧
      sched.Occupied i ∧ closed (sched.taskAt i).state)
      (fun sched op hsched => ?_) ⟨hself, hi, h⟩ ops
    obtain ⟨hreachable, hoccupied, hstate⟩ := hsched
    exact ⟨hreachable.step op, (sched.kept_step op hoccupied).1,
      hclosed _ _ (moves_step hreachable op hoccupied) hstate⟩
  exact hrun.2.2

theorem ne_new_runNew (ops : List SchedulerOp) (i : Fin maxTasks)
    (hi : (runNew ops).Occupied i) : ((runNew ops).taskAt i).state ≠ .new := by
  have hrun : (runNew ops).Reachable ∧
      ∀ i, (runNew ops).Occupied i → ((runNew ops).taskAt i).state ≠ .new := by
    refine run_invariant (I := fun (sched : Scheduler) => sched.Reachable ∧
      ∀ i, sched.Occupied i → (sched.taskAt i).state ≠ .new) ?_
      ⟨reachable_runNew [], fun i hi => absurd hi (not_occupied_new i)⟩ ops
    rintro sched op ⟨hsched, hstates⟩
    refine ⟨hsched.step op, fun i hi => ?_⟩
    by_cases hold : sched.Occupied i
    · exact (moves_step hsched op hold).ne_new (hstates i hold)
    · rcases sched.step_cases op with
        ⟨-, -, hspawned⟩ | ⟨-, hwritten⟩ | ⟨charged, -, hcharged, hstep⟩
      · rcases hspawned.slotAt_cases i with hkept | ⟨-, _, _, _, _, _, hnew⟩
        · rw [Occupied, hkept] at hi
          exact absurd hi hold
        · rw [taskAt, hnew]
          simp [TaskControlBlock.new]
      · exact absurd ((hwritten.sameTasks.occupied i).mp hi) hold
      · rw [hstep] at hi
        have hsame := hcharged.sameTasks.trans (sameTasks_scheduleNext charged)
        exact absurd ((hsame.occupied i).mp hi) hold
  exact hrun.2 i hi

/-! ## Waking up -/

def StartedBy (event : SchedulerEvent) (taskId : TaskId) : Prop :=
  event.2 = .ok (.selected (some taskId)) ∨
    ∃ record, event = (.transition taskId .running, .ok (.moved record))

def WokenBy (event : SchedulerEvent) (taskId : TaskId) : Prop :=
  ∃ record, event = (.transition taskId .ready, .ok (.moved record))

theorem parked_scheduleNext {self : Scheduler} (hself : self.Reachable)
    {i : Fin maxTasks} (hi : self.Occupied i) (h : Parked (self.taskAt i).state) :
    Parked (self.scheduleNext.2.taskAt i).state ∧
      self.scheduleNext.1 ≠ .ok (some (self.taskAt i).id) := by
  constructor
  · rcases state_scheduleNext hself hi with hkept | ⟨hready, -⟩ | ⟨hrunning, -⟩
    · rwa [hkept]
    · exact absurd (.inl ⟨hi, hready⟩) h.not_runnable
    · exact absurd (.inr ⟨hi, hrunning⟩) h.not_runnable
  · rcases hself.switches.scheduleNext_cases with
      ⟨-, hnext⟩ | ⟨tick, -, -, hnext⟩ | ⟨k, next, hselects, hnext⟩
    · simp [hnext]
    · simp [hnext]
    · rw [hnext]
      intro hsame
      simp only [Except.ok.injEq, Option.some.injEq] at hsame
      have hki := hself.wellFormed.id_unique k i hselects.occupied hi hsame
      exact h.not_runnable (hki ▸ hselects.runnable)

theorem parked_transition {self : Scheduler} (hself : self.Reachable) (taskId : TaskId)
    (target : TaskState) {i : Fin maxTasks} (hi : self.Occupied i)
    (h : Parked (self.taskAt i).state) :
    let op : SchedulerOp := .transition taskId target
    (Parked ((self.step op).2.taskAt i).state ∧
        ¬ StartedBy (op, (self.step op).1) (self.taskAt i).id) ∨
      WokenBy (op, (self.step op).1) (self.taskAt i).id := by
  intro op
  rcases self.transition_cases taskId target with
    ⟨error, -, hs, -⟩ | ⟨j, hfound, hvalid, hs⟩
  · refine .inl ⟨?_, ?_⟩
    · simpa only [op, step, hs] using h
    · simp [StartedBy, op, step, hs, Except.map]
  · obtain ⟨hj, hid⟩ := getMut_some hfound
    by_cases hij : i = j
    · subst hij
      rcases h.target hvalid with rfl | rfl
      · exact .inr ⟨_, by simp only [op, step, hs, hid]; rfl⟩
      · refine .inl ⟨?_, ?_⟩
        · simp only [op, step, hs]
          rw [state_withTask, if_pos rfl]
          exact .inr (.inr (.inr rfl))
        · simp [StartedBy, op, step, hs, Except.map]
    · refine .inl ⟨?_, ?_⟩
      · simp only [op, step, hs]
        rwa [state_withTask, if_neg hij]
      · have hother : taskId ≠ (self.taskAt i).id := fun hsame =>
          hij (hself.wellFormed.id_unique i j hi hj (hsame.symm.trans hid.symm))
        simp [StartedBy, op, step, hs, Except.map, hother]

theorem parked_step {self : Scheduler} (hself : self.Reachable) (op : SchedulerOp)
    {i : Fin maxTasks} (hi : self.Occupied i) (h : Parked (self.taskAt i).state) :
    (Parked ((self.step op).2.taskAt i).state ∧
        ¬ StartedBy (op, (self.step op).1) (self.taskAt i).id) ∨
      WokenBy (op, (self.step op).1) (self.taskAt i).id := by
  cases op with
  | spawn parentId schedulerClass priority capabilities budget =>
      have hspawned := self.spawns_spawn parentId schedulerClass priority capabilities budget
      refine .inl ⟨?_, ?_⟩
      · change Parked ((self.spawn _ _ _ _ _).2.slotAt i).task.state
        rwa [hspawned.slotAt hi]
      · cases hspawn :
          (self.spawn parentId schedulerClass priority capabilities budget).1 <;>
          simp [StartedBy, step, hspawn, Except.map]
  | transition taskId target => exact parked_transition hself taskId target hi h
  | cancel taskId =>
      rcases self.cancel_cases taskId with ⟨error, -, hs⟩ | ⟨j, -, -, hs⟩
      · refine .inl ⟨?_, ?_⟩
        · simpa only [step, hs] using h
        · simp [StartedBy, step, hs, Except.map]
      · refine .inl ⟨?_, ?_⟩
        · simp only [step, hs]
          rw [state_withTask]
          split_ifs
          · exact .inr (.inr (.inr rfl))
          · exact h
        · simp [StartedBy, step, hs, Except.map]
  | scheduleNext =>
      obtain ⟨hparked, hother⟩ := parked_scheduleNext hself hi h
      refine .inl ⟨hparked, ?_⟩
      cases hs : self.scheduleNext.1 <;>
        simp_all [StartedBy, step, Except.map]
  | yieldCurrent =>
      cases hcharge : self.chargeCurrent with
      | error error =>
          refine .inl ⟨?_, ?_⟩
          · simpa only [step, yieldCurrent, hcharge] using h
          · simp [StartedBy, step, yieldCurrent, hcharge, Except.map]
      | ok charged =>
          have hcharged := restated_chargeCurrent hcharge
          have hkept : (charged.taskAt i).state = (self.taskAt i).state := by
            rcases state_chargeCurrent hcharge i with hkept | ⟨hrunning, -⟩
            · exact hkept
            · exact absurd (.inr ⟨hi, hrunning⟩) h.not_runnable
          obtain ⟨hparked, hother⟩ := parked_scheduleNext (hself.of_restated hcharged)
            ((hcharged.sameTasks.occupied i).mpr hi) (hkept.symm ▸ h)
          rw [hcharged.sameTasks.id] at hother
          refine .inl ⟨?_, ?_⟩
          · simpa only [step, yieldCurrent, hcharge] using hparked
          · cases hs : charged.scheduleNext.1 <;>
              simp_all [StartedBy, step, yieldCurrent, Except.map]

theorem woken_before_started {self : Scheduler} (hself : self.Reachable)
    {i : Fin maxTasks} (hi : self.Occupied i) (h : Parked (self.taskAt i).state)
    {ops : List SchedulerOp} {before after : List SchedulerEvent} {event : SchedulerEvent}
    (hhistory : history step self ops = before ++ event :: after)
    (hstarted : StartedBy event (self.taskAt i).id) :
    ∃ earlier ∈ before, WokenBy earlier (self.taskAt i).id := by
  induction ops generalizing self before with
  | nil => simp [history] at hhistory
  | cons op ops ih =>
      have hstep := parked_step hself op hi h
      obtain ⟨hi', hid⟩ := self.kept_step op hi
      cases before with
      | nil =>
          obtain ⟨rfl, -⟩ := List.cons_eq_cons.mp hhistory
          rcases hstep with ⟨-, hnot⟩ | ⟨record, hwoken⟩
          · exact absurd hstarted hnot
          · rw [hwoken] at hstarted
            simp [StartedBy] at hstarted
      | cons first before =>
          obtain ⟨rfl, hrest⟩ := List.cons_eq_cons.mp hhistory
          rcases hstep with ⟨hparked, -⟩ | hwoken
          · rw [← hid] at hstarted ⊢
            obtain ⟨earlier, hearlier, hwoken⟩ :=
              ih (hself.step op) hi' hparked hrest hstarted
            exact ⟨earlier, List.mem_cons_of_mem _ hearlier, hwoken⟩
          · exact ⟨_, List.mem_cons_self, hwoken⟩

/--
No operation takes a task further than one edge of the lifecycle graph.  So a
zombie stays a zombie, an exiting task can only become one, a task that waits
is not started before a transition wakes it, and no task is ever new.
-/
theorem lifecycle_respected (ops : List SchedulerOp) (i : Fin maxTasks)
    (hi : (runNew ops).Occupied i) :
    (∀ op, ((runNew ops).step op).2.Occupied i ∧
        (((runNew ops).step op).2.taskAt i).id = ((runNew ops).taskAt i).id ∧
        Moves ((runNew ops).taskAt i).state (((runNew ops).step op).2.taskAt i).state) ∧
      (((runNew ops).taskAt i).state = .zombie → ∀ later,
        ((run step (runNew ops) later).taskAt i).state = .zombie) ∧
      (((runNew ops).taskAt i).state = .exiting → ∀ later,
        ((run step (runNew ops) later).taskAt i).state = .exiting ∨
          ((run step (runNew ops) later).taskAt i).state = .zombie) ∧
      (((runNew ops).taskAt i).state = .blocked ∨
          ((runNew ops).taskAt i).state = .sleeping ∨
          ((runNew ops).taskAt i).state = .suspended →
        ∀ later before event after,
          history step (runNew ops) later = before ++ event :: after →
          StartedBy event ((runNew ops).taskAt i).id →
          ∃ earlier ∈ before, WokenBy earlier ((runNew ops).taskAt i).id) ∧
      ((runNew ops).taskAt i).state ≠ .new := by
  have hself := reachable_runNew ops
  refine ⟨fun op => ?_, fun hzombie later => ?_, fun hexiting later => ?_,
    fun hparked later before event after hhistory hstarted => ?_, ne_new_runNew ops i hi⟩
  · obtain ⟨hi', hid⟩ := (runNew ops).kept_step op hi
    exact ⟨hi', hid, moves_step hself op hi⟩
  · refine closed_run (fun state => state = .zombie) ?_ hself hi hzombie later
    rintro before after hmoves rfl
    exact hmoves.zombie
  · exact closed_run (fun state => state = .exiting ∨ state = .zombie)
      (fun before after hmoves => hmoves.ending) hself hi (.inl hexiting) later
  · refine woken_before_started hself hi ?_ hhistory hstarted
    rcases hparked with h | h | h
    · exact .inl h
    · exact .inr (.inl h)
    · exact .inr (.inr (.inl h))

def blockedOnce : List SchedulerOp :=
  [.spawn 0 .runtime 8 .empty .unlimited, .spawn 0 .runtime 8 .empty .unlimited,
    .scheduleNext, .transition 1 .blocked, .scheduleNext]

def wakeEvents : List SchedulerEvent :=
  [(.transition 1 .ready, .ok (.moved { taskId := 1, source := .blocked, target := .ready })),
    (.cancel 2, .ok (.moved { taskId := 2, source := .running, target := .zombie }))]

theorem lifecycle_respected_blockedOnce : ∃ earlier ∈ wakeEvents, WokenBy earlier 1 := by
  have hfacts : (runNew blockedOnce).Occupied 0 ∧
      ((runNew blockedOnce).taskAt 0).id = 1 ∧
      ((runNew blockedOnce).taskAt 0).state = .blocked ∧
      history step (runNew blockedOnce) [.transition 1 .ready, .cancel 2, .scheduleNext] =
        wakeEvents ++ [(.scheduleNext, .ok (.selected (some 1)))] := by
    decide +kernel
  obtain ⟨hoccupied, hid, hblocked, hhistory⟩ := hfacts
  obtain ⟨-, -, -, hparked, -⟩ := lifecycle_respected blockedOnce 0 hoccupied
  rw [← hid]
  refine hparked (.inl hblocked) [.transition 1 .ready, .cancel 2, .scheduleNext]
    wakeEvents (.scheduleNext, .ok (.selected (some 1))) [] hhistory (.inl ?_)
  rw [hid]

end Scheduler

end AlaniKernel
