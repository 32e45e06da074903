import AlaniKernel.Scheduler.Aging

/-!
# No starvation

While a task waits, a competitor that is preferred to it has waited almost as
long, and falls 480 rounds behind it by being selected.  Each of the 64 slots
can fall behind only once.
-/

namespace AlaniKernel

open AlaniKernel.Foundation

namespace Scheduler

def executesSelection (self : Scheduler) (op : SchedulerOp) : Bool :=
  (self.selectionState op).isSome

/-- A selection of the operation succeeds, finds the task ready, and passes over it. -/
def PassesOver (taskId : TaskId) (self : Scheduler) (op : SchedulerOp) : Prop :=
  ∀ charged ∈ self.selectionState op,
    (∃ i, charged.ReadyAt i ∧ (charged.taskAt i).id = taskId) ∧
      charged.scheduleNext.1.isOk = true ∧
      charged.scheduleNext.1 ≠ .ok (some taskId)

instance (taskId : TaskId) (self : Scheduler) (op : SchedulerOp) :
    Decidable (self.PassesOver taskId op) :=
  inferInstanceAs (Decidable (∀ charged ∈ self.selectionState op, _))

def behind (self : Scheduler) (i : Fin maxTasks) : Finset (Fin maxTasks) :=
  Finset.univ.filter fun j =>
    self.Occupied j ∧
      (self.taskAt j).age.toNat + 480 ≤ (self.taskAt i).age.toNat

theorem mem_behind {self : Scheduler} {i j : Fin maxTasks} :
    j ∈ self.behind i ↔ self.Occupied j ∧
      (self.taskAt j).age.toNat + 480 ≤ (self.taskAt i).age.toNat := by
  simp [behind]

/-- How far the task in slot `i` has come: its age, then the slots behind it. -/
def progress (self : Scheduler) (i : Fin maxTasks) : Nat :=
  min 480 (self.taskAt i).age.toNat + (self.behind i).card

def waited (taskId : TaskId) (self : Scheduler) : Nat :=
  (self.runQueue.getMut taskId).elim 0 self.progress

theorem progress_le (self : Scheduler) (i : Fin maxTasks) :
    self.progress i ≤ 544 := by
  have hcard : (self.behind i).card ≤ 64 :=
    (Finset.card_le_univ (self.behind i)).trans_eq (Fintype.card_fin maxTasks)
  rw [progress]
  omega

theorem waited_of_none {self : Scheduler} {taskId : TaskId}
    (h : self.runQueue.getMut taskId = none) : self.waited taskId = 0 := by
  rw [waited, h, Option.elim_none]

theorem waited_of_some {self : Scheduler} {taskId : TaskId} {i : Fin maxTasks}
    (h : self.runQueue.getMut taskId = some i) :
    self.waited taskId = self.progress i := by
  rw [waited, h, Option.elim_some]

theorem waited_le (taskId : TaskId) (self : Scheduler) :
    self.waited taskId ≤ 544 := by
  cases hfound : self.runQueue.getMut taskId with
  | none =>
      rw [waited_of_none hfound]
      exact Nat.zero_le _
  | some i =>
      rw [waited_of_some hfound]
      exact progress_le self i

theorem waited_mono {before after : Scheduler} (hafter : after.WellFormed)
    (hkept : ∀ i, before.Occupied i → after.Occupied i ∧
      (after.taskAt i).id = (before.taskAt i).id ∧
      (after.taskAt i).age = (before.taskAt i).age)
    (taskId : TaskId) : before.waited taskId ≤ after.waited taskId := by
  cases hfound : before.runQueue.getMut taskId with
  | none =>
      rw [waited_of_none hfound]
      exact Nat.zero_le _
  | some i =>
      obtain ⟨hi, rfl⟩ := getMut_some hfound
      obtain ⟨hi', hid, hage⟩ := hkept i hi
      have hsubset : before.behind i ⊆ after.behind i := by
        intro j hj
        obtain ⟨hj, hbehind⟩ := mem_behind.mp hj
        obtain ⟨hj', -, hage'⟩ := hkept j hj
        rw [mem_behind, hage, hage']
        exact ⟨hj', hbehind⟩
      have hcard := Finset.card_le_card hsubset
      rw [waited_of_some hfound, ← hid, waited_of_some (hafter.getMut_taskAt hi'),
        progress, progress, hage]
      exact Nat.add_le_add_left hcard _

theorem age_of_restated {before after : Scheduler} (h : Restated before after)
    (i : Fin maxTasks) : (after.taskAt i).age = (before.taskAt i).age := by
  obtain ⟨state, remainingTicks, hslot⟩ := h.slotAt i
  rw [taskAt, hslot]

theorem waited_of_restated {before after : Scheduler} (hself : before.WellFormed)
    (h : Restated before after) (taskId : TaskId) :
    before.waited taskId ≤ after.waited taskId :=
  waited_mono (hself.of_sameTasks h.sameTasks)
    (fun i hi => ⟨(h.sameTasks.occupied i).mpr hi, h.sameTasks.id i,
      age_of_restated h i⟩) taskId

theorem age_rotated {selectedId : TaskId} {slot : TaskSlot}
    (h : slot.occupied = true) (hid : slot.task.id ≠ selectedId)
    (hage : slot.task.age.toNat < 1023) :
    (rotated selectedId slot).task.age.toNat ≤ slot.task.age.toNat + 1 ∧
      (slot.task.state = .ready →
        (rotated selectedId slot).task.age.toNat = slot.task.age.toNat + 1) := by
  have hnext := age_agedTask hage
  rw [rotated_of_other h hid]
  dsimp only
  split_ifs with hrunning hready
  · refine ⟨Nat.le_succ _, fun hready => ?_⟩
    rw [hrunning] at hready
    contradiction
  · exact ⟨hnext.le, fun _ => hnext⟩
  · exact ⟨Nat.le_succ _, fun hready' => absurd hready' hready⟩

theorem age_le_of_selects {self next : Scheduler} {k i : Fin maxTasks}
    (hself : self.Reachable) (hselects : self.Selects k next)
    (hi : self.ReadyAt i) :
    (self.taskAt i).age.toNat + 1 ≤ 480 + (self.taskAt k).age.toNat := by
  have hloser := score_lt_of_paced { self with tick := next.tick }
    (hself.ages.paced i hi.1)
  have hwinner := score_le_of_paced { self with tick := next.tick }
    (hself.ages.paced k hselects.occupied)
  have hbest := UInt32.le_iff_toNat_le.mp (hselects.best i (.inl hi)).1
  omega

theorem waited_selects {self next : Scheduler} {k i : Fin maxTasks}
    (hself : self.Reachable) (hselects : self.Selects k next)
    (hnext : next.WellFormed) (hsame : SameTasks self next) (hi : self.ReadyAt i)
    (hpassed : (self.taskAt k).id ≠ (self.taskAt i).id) :
    1 + self.waited (self.taskAt i).id ≤ next.waited (self.taskAt i).id := by
  have hk := hselects.occupied
  have hloser : ∀ j, self.Occupied j → j ≠ k →
      (next.taskAt j).age.toNat ≤ (self.taskAt j).age.toNat + 1 ∧
        ((self.taskAt j).state = .ready →
          (next.taskAt j).age.toNat = (self.taskAt j).age.toNat + 1) := by
    intro j hj hne
    have hid : (self.taskAt j).id ≠ (self.taskAt k).id :=
      fun hid => hne (hself.wellFormed.id_unique j k hj hk hid)
    have hage := hself.ages.age_lt hj
    rw [taskAt, hselects.slotAt]
    exact age_rotated hj hid (by
      change (self.taskAt j).age.toNat < 1023
      omega)
  have hwinner : (next.taskAt k).age.toNat = 0 := by
    obtain ⟨contextSwitches, -, hstarted⟩ := rotated_of_selected hk rfl
    rw [taskAt, hselects.slotAt]
    exact congrArg (·.task.age.toNat) hstarted
  have hage : (next.taskAt i).age.toNat = (self.taskAt i).age.toNat + 1 := by
    refine (hloser i hi.1 ?_).2 hi.2
    rintro rfl
    exact hpassed rfl
  have hsubset : self.behind i ⊆ next.behind i := by
    intro j hj
    obtain ⟨hj, hbehind⟩ := mem_behind.mp hj
    refine mem_behind.mpr ⟨(hsame.occupied j).mpr hj, ?_⟩
    by_cases hne : j = k
    · rw [hne, hwinner]
      omega
    · have := (hloser j hj hne).1
      omega
  have hnear := age_le_of_selects hself hselects hi
  have hafter := hnext.getMut_taskAt ((hsame.occupied i).mpr hi.1)
  rw [hsame.id i] at hafter
  rw [waited_of_some (hself.wellFormed.getMut_taskAt hi.1), waited_of_some hafter,
    progress, progress, hage]
  by_cases hold : (self.taskAt i).age.toNat < 480
  · have hcard := Finset.card_le_card hsubset
    omega
  · have hfresh : k ∉ self.behind i := by
      rw [mem_behind, not_and]
      intro _
      omega
    have hfallen : k ∈ next.behind i := by
      rw [mem_behind, hwinner, hage]
      exact ⟨(hsame.occupied k).mpr hk, by omega⟩
    have hcard := Finset.card_le_card (Finset.insert_subset hfallen hsubset)
    rw [Finset.card_insert_of_notMem hfresh] at hcard
    omega

theorem waited_step {self : Scheduler} (hself : self.Reachable)
    {op : SchedulerOp} {taskId : TaskId} (h : self.PassesOver taskId op) :
    (if self.executesSelection op then 1 else 0) + self.waited taskId ≤
      (self.step op).2.waited taskId := by
  rcases self.step_cases op with
    ⟨-, hselection, hspawned⟩ | ⟨hselection, hwritten⟩ |
      ⟨charged, hselection, hcharged, hstep⟩
  · have hkept : self.waited taskId ≤ (self.step op).2.waited taskId := by
      refine waited_mono (hself.wellFormed.step op) (fun i hi => ?_) taskId
      rw [Occupied, taskAt, hspawned.slotAt hi]
      exact ⟨hi, rfl, rfl⟩
    simpa [executesSelection, hselection] using hkept
  · have hkept := waited_of_restated hself.wellFormed hwritten taskId
    simpa [executesSelection, hselection] using hkept
  · obtain ⟨⟨i, hi, rfl⟩, hok, hpassed⟩ := h charged hselection
    have hreachable := hself.of_restated hcharged
    have hcharge := waited_of_restated hself.wellFormed hcharged (charged.taskAt i).id
    have hsame := sameTasks_scheduleNext charged
    have hnext := hreachable.wellFormed.of_sameTasks hsame
    rw [executesSelection, hselection, hstep]
    rcases hreachable.switches.scheduleNext_cases with
      ⟨-, hlast⟩ | ⟨tick, -, hidle, -⟩ | ⟨k, next, hselects, hchosen⟩
    · rw [hlast] at hok
      contradiction
    · exact absurd (.inl hi) (hidle i)
    · rw [hchosen] at hpassed hsame hnext ⊢
      have hround := waited_selects hreachable hselects hnext hsame hi
        (fun hid => hpassed (by rw [hid]))
      simp only [Option.isSome_some, if_true]
      omega

/--
No window of a run passes over a ready task in 640 selections, whatever the
other operations in the window are.
-/
theorem no_starvation (before window : List SchedulerOp) (taskId : TaskId)
    (h : Along step (PassesOver taskId) (runNew before) window) :
    countAlong step executesSelection (runNew before) window < 640 := by
  have hcount : countAlong step executesSelection (runNew before) window +
      waited taskId (runNew before) ≤
        waited taskId (run step (runNew before) window) :=
    countAlong_le_potential (waited taskId) (fun _ op hself => hself.step op)
      (fun _ _ hself h => waited_step hself h) (reachable_runNew before) h
  have hbound := waited_le taskId (run step (runNew before) window)
  omega

theorem no_starvation_preferred :
    countAlong step executesSelection
      (runNew [.spawn 0 .background 8 .empty .unlimited,
        .spawn 0 .audit 8 .empty .unlimited])
      [.scheduleNext, .yieldCurrent] < 640 :=
  no_starvation _ _ 1 (by decide +kernel)

end Scheduler

end AlaniKernel
