import AlaniKernel.Kernel.Tasks

/-!
# How long a task waits, and how the yields are shared

A task that is passed over gains on its rivals, and a task that is returned
loses at most what it had gained.  Over any window a rival is therefore returned
in proportion to the returns of the task itself, and the others together at most
as often as their head starts allow while it waits.
-/

namespace AlaniKernel

open AlaniKernel.Foundation

namespace Scheduler

section Rival

variable {self : Scheduler} {i : Fin maxTasks} {taskId rivalId : TaskId}

theorem selectsRival_eq_selectsTask (self : Scheduler) (op : SchedulerOp)
    (rivalId : TaskId) :
    self.selectsRival (fun id => id == rivalId) op =
      selectsTask rivalId (op, (self.step op).1) := by
  rw [selectsRival, selectsTask]
  cases hreply : (self.step op).1 with
  | error error => simp
  | ok reply =>
      cases reply with
      | spawned | moved => simp
      | selected selected =>
          cases selected with
          | none => simp
          | some selectedId => simp [Bool.beq_eq_decide_eq]

theorem conceded_le_headStart (hself : self.WellFormed)
    {waiting : TaskControlBlock} (hwaiting : self.runQueue.get taskId = some waiting)
    {bound : Nat} (hbound : ∀ rival, self.runQueue.get rivalId = some rival →
      rival.headStart waiting ≤ bound) :
    self.conceded (fun id => id == rivalId) taskId ≤ 1 + bound := by
  apply (conceded_le_patience hwaiting).trans
  cases hrival : self.runQueue.get rivalId with
  | none =>
      have hnone : self.rivalSlots (fun id => id == rivalId) = ∅ := by
        apply Finset.eq_empty_of_forall_notMem
        intro j hj
        obtain ⟨hj, hid⟩ := mem_rivalSlots.mp hj
        have hget := hself.get_taskAt hj
        rw [beq_iff_eq.mp hid, hrival] at hget
        contradiction
      rw [patience, hnone, Finset.sum_empty]
      exact Nat.zero_le _
  | some rival =>
      rw [patience_single hself hrival]
      exact Nat.add_le_add_left (hbound rival hrival) 1

/-- A return of the rival uses up its head start, which a return of the task restores. -/
theorem Holds.conceded_rival (h : self.Holds i taskId) (hlive : self.LiveAt i)
    {op : SchedulerOp} (hop : Served op) (hne : rivalId ≠ taskId) {bound : Nat}
    (hbound : ∀ rival, self.runQueue.get rivalId = some rival →
      rival.headStart (self.taskAt i) ≤ bound) :
    (if selectsTask rivalId (op, (self.step op).1) then 1 else 0) +
        self.conceded (fun id => id == rivalId) taskId ≤
      (self.step op).2.conceded (fun id => id == rivalId) taskId +
        if selectsTask taskId (op, (self.step op).1) then 1 + bound else 0 := by
  cases hselected : selectsTask taskId (op, (self.step op).1) with
  | true =>
      have hreply : (self.step op).1 = .ok (.selected (some taskId)) := by
        simpa [selectsTask] using hselected
      have hother : selectsTask rivalId (op, (self.step op).1) = false := by
        rw [selectsTask_eq_false_iff, hreply]
        simpa using hne.symm
      have hconceded := conceded_le_headStart h.calm.reachable.wellFormed h.get hbound
      rw [hother, if_neg Bool.false_ne_true, if_pos rfl]
      omega
  | false =>
      have hround := h.calm.conceded_rivals hop ⟨i, hlive, h.id⟩ hselected
        (fun id => id == rivalId)
      rw [selectsRival_eq_selectsTask] at hround
      rw [if_neg Bool.false_ne_true]
      exact hround

theorem Holds.bound_before (h : self.Holds i taskId) {op : SchedulerOp} {bound : Nat}
    (hbound : ∀ rival, (self.step op).2.runQueue.get rivalId = some rival →
      rival.headStart ((self.step op).2.taskAt i) ≤ bound)
    {rival : TaskControlBlock} (hrival : self.runQueue.get rivalId = some rival) :
    rival.headStart (self.taskAt i) ≤ bound := by
  obtain ⟨j, hfound, rfl⟩ := Option.map_eq_some_iff.mp hrival
  obtain ⟨hj, rfl⟩ := getMut_some hfound
  obtain ⟨hj', hid⟩ := self.kept_step op hj
  have hget := (h.calm.reachable.step op).wellFormed.get_taskAt hj'
  rw [hid] at hget
  have hafter := hbound _ hget
  rwa [TaskControlBlock.headStart_congr (keeps_step self op hj).spawned
    (keeps_step self op h.occupied).spawned] at hafter

end Rival

end Scheduler

namespace Kernel

def advantage (rival task : TaskControlBlock) : Nat :=
  rival.basePriority.toNat - task.basePriority.toNat

theorem conceded_call {self : Kernel} {i : Fin maxTasks} {taskId : TaskId}
    (h : self.scheduler.Holds i taskId) (hlive : self.scheduler.LiveAt i)
    {call : SyscallCall} (hpassed : yieldedTo taskId (call, (self.step call).1) = false) :
    (if yielded (call, (self.step call).1) then 1 else 0) +
        self.scheduler.conceded (fun id => id != taskId) taskId ≤
      (self.step call).2.scheduler.conceded (fun id => id != taskId) taskId := by
  obtain ⟨hyielded, hyieldedTo⟩ := self.yielded_step call
  rw [hyieldedTo taskId h.ne_zero] at hpassed
  rw [hyielded, (self.effect_step call).scheduler]
  cases hop : self.schedulerOp call with
  | none => exact (Nat.zero_add _).le
  | some op =>
      rw [hop, Option.elim_some] at hpassed
      exact h.calm.conceded_step (served_schedulerOp hop) ⟨i, hlive, h.id⟩ hpassed

section Rival

variable {self : Kernel} {i : Fin maxTasks} {taskId rivalId : TaskId} {bound : Nat}

/-- The task in slot `i` has not ended, and the rival has at most the head start. -/
def Rivalled (rivalId : TaskId) (i : Fin maxTasks) (bound : Nat) (self : Kernel) : Prop :=
  self.scheduler.LiveAt i ∧ ∀ rival, self.scheduler.runQueue.get rivalId = some rival →
    rival.headStart (self.scheduler.taskAt i) ≤ bound

theorem rivalled_before (h : self.scheduler.Holds i taskId) {call : SyscallCall}
    (hafter : (self.step call).2.Rivalled rivalId i bound) :
    self.Rivalled rivalId i bound := by
  refine ⟨live_before h hafter.1, fun rival hrival => ?_⟩
  have hbound := hafter.2
  rw [(self.effect_step call).scheduler] at hbound
  cases hop : self.schedulerOp call with
  | none =>
      rw [hop, Option.elim_none] at hbound
      exact hbound rival hrival
  | some op =>
      rw [hop, Option.elim_some] at hbound
      exact h.bound_before hbound hrival

theorem conceded_rival_call (h : self.scheduler.Holds i taskId)
    (hrivalled : self.Rivalled rivalId i bound) (hne : rivalId ≠ taskId)
    (hrival : rivalId ≠ 0) (call : SyscallCall) :
    (if yieldedTo rivalId (call, (self.step call).1) then 1 else 0) +
        self.scheduler.conceded (fun id => id == rivalId) taskId ≤
      (self.step call).2.scheduler.conceded (fun id => id == rivalId) taskId +
        if yieldedTo taskId (call, (self.step call).1) then 1 + bound else 0 := by
  obtain ⟨-, hyieldedTo⟩ := self.yielded_step call
  rw [hyieldedTo rivalId hrival, hyieldedTo taskId h.ne_zero,
    (self.effect_step call).scheduler]
  cases hop : self.schedulerOp call with
  | none => exact (Nat.zero_add _).le
  | some op => exact h.conceded_rival hrivalled.1 (served_schedulerOp hop) hne hrivalled.2

end Rival

section Window

variable {start : Kernel} (hstart : start.Fresh) (before window : List SyscallCall)
  {taskId rivalId : TaskId} {task rival : TaskControlBlock}
  (hissued : ((run step start before).scheduler.runQueue.get taskId).isSome = true)
  (hget : (run step start (before ++ window)).scheduler.runQueue.get taskId = some task)

include hstart hissued hget

theorem Fresh.holds_window :
    ∃ i, (run step start before).scheduler.Holds i taskId ∧
      (run step start (before ++ window)).scheduler.Holds i taskId ∧
      (run step start (before ++ window)).scheduler.taskAt i = task := by
  obtain ⟨i, hfound⟩ := Option.isSome_iff_exists.mp (Option.isSome_map ▸ hissued)
  obtain ⟨hi, hid⟩ := Scheduler.getMut_some hfound
  have hself : (run step start before).scheduler.Holds i taskId :=
    ⟨hstart.calm_run before, hi, hid⟩
  rw [run_append] at hget ⊢
  have hholds := run_invariant (I := fun (kernel : Kernel) => kernel.scheduler.Holds i taskId)
    (fun _ call h => holds_step h call) hself window
  refine ⟨i, hself, hholds, ?_⟩
  rw [hholds.get, Option.some.injEq] at hget
  exact hget

theorem Fresh.returns_of_others (hlives : task.state ≠ .zombie)
    (hpassed : ∀ event ∈ history step (run step start before) window,
      yieldedTo taskId event = false) :
    (history step (run step start before) window).countP yielded ≤
      ∑ j ∈ Scheduler.rivalSlots (fun id => id != taskId)
          (run step start (before ++ window)).scheduler,
        (1 + advantage ((run step start (before ++ window)).scheduler.taskAt j) task) := by
  obtain ⟨i, hself, hholds, htask⟩ := hstart.holds_window before window hissued hget
  have hlast := hholds.calm
  rw [run_append] at hget hholds htask hlast ⊢
  generalize run step start before = self at hget hpassed hself hholds htask hlast ⊢
  have hend : (run step self window).scheduler.LiveAt i :=
    ⟨hholds.occupied, by rwa [htask]⟩
  have hlive := along_of_last
    (I := fun (kernel : Kernel) => kernel.scheduler.LiveAt i)
    (J := fun (kernel : Kernel) => kernel.scheduler.Holds i taskId)
    (fun _ call h => holds_step h call) (fun _ call h => live_before h) hself hend
  have hcount : countAlong step (fun kernel call => yielded (call, (kernel.step call).1))
      self window + self.scheduler.conceded (fun id => id != taskId) taskId ≤
        (run step self window).scheduler.conceded (fun id => id != taskId) taskId :=
    countAlong_le_potential
      (fun kernel => kernel.scheduler.conceded (fun id => id != taskId) taskId)
      (J := fun (kernel : Kernel) => kernel.scheduler.Holds i taskId)
      (fun _ call h => holds_step h call)
      (fun _ call h hmet => conceded_call h hmet.1 hmet.2) hself
      (hlive.2.and (along_of_history hpassed))
  have hbound : (run step self window).scheduler.conceded (fun id => id != taskId) taskId ≤
      (run step self window).scheduler.patience (fun id => id != taskId) task :=
    Scheduler.conceded_le_patience hget
  have hpatience : (run step self window).scheduler.patience (fun id => id != taskId) task =
      ∑ j ∈ Scheduler.rivalSlots (fun id => id != taskId) (run step self window).scheduler,
        (1 + advantage ((run step self window).scheduler.taskAt j) task) := by
    apply Finset.sum_congr rfl
    intro j hj
    have hrival := hlast.plain j (Scheduler.mem_rivalSlots.mp hj).1
    have hwaiting := hlast.plain i hholds.occupied
    rw [htask] at hwaiting
    rw [hrival.headStart hwaiting, advantage]
  rw [← countAlong_eq_countP_history (fun call result => yielded (call, result)), ← hpatience]
  omega

theorem Fresh.returns_of_rival (hlives : task.state ≠ .zombie) (hne : rivalId ≠ taskId)
    (hrival : (run step start (before ++ window)).scheduler.runQueue.get rivalId =
      some rival) :
    (history step (run step start before) window).countP (yieldedTo rivalId) ≤
      (1 + advantage rival task) *
        ((history step (run step start before) window).countP (yieldedTo taskId) + 1) := by
  obtain ⟨i, hself, hholds, htask⟩ := hstart.holds_window before window hissued hget
  have hlast := hholds.calm
  rw [run_append] at hget hholds htask hlast hrival
  generalize run step start before = self at hget hrival hself hholds htask hlast ⊢
  obtain ⟨j, hfound, hslot⟩ := Option.map_eq_some_iff.mp hrival
  obtain ⟨hj, hid⟩ := Scheduler.getMut_some hfound
  have hzero : rivalId ≠ 0 := by
    rw [← hid]
    exact hlast.reachable.wellFormed.id_ne_zero hj
  have hheadStart : rival.headStart task = advantage rival task := by
    have hplain : rival.Plain := hslot ▸ hlast.plain j hj
    exact hplain.headStart (htask ▸ hlast.plain i hholds.occupied)
  have hlargest : ∀ other, (run step self window).scheduler.runQueue.get rivalId =
      some other → other.headStart task ≤ advantage rival task := by
    intro other hother
    rw [hrival, Option.some.injEq] at hother
    rw [← hother, hheadStart]
  have hend : (run step self window).Rivalled rivalId i (advantage rival task) :=
    ⟨⟨hholds.occupied, by rwa [htask]⟩, by rwa [htask]⟩
  have halong := along_of_last
    (I := Rivalled rivalId i (advantage rival task))
    (J := fun (kernel : Kernel) => kernel.scheduler.Holds i taskId)
    (fun _ call h => holds_step h call) (fun _ call h => rivalled_before h) hself hend
  have hcount : countAlong step (fun kernel call =>
        yieldedTo rivalId (call, (kernel.step call).1)) self window +
      self.scheduler.conceded (fun id => id == rivalId) taskId ≤
        (run step self window).scheduler.conceded (fun id => id == rivalId) taskId +
          (1 + advantage rival task) * countAlong step (fun kernel call =>
            yieldedTo taskId (call, (kernel.step call).1)) self window :=
    countAlong_le_refills
      (fun kernel => kernel.scheduler.conceded (fun id => id == rivalId) taskId)
      (1 + advantage rival task)
      (J := fun (kernel : Kernel) => kernel.scheduler.Holds i taskId)
      (fun _ call h => holds_step h call)
      (fun _ call h hmet => conceded_rival_call h hmet hne hzero call) hself halong.2
  have hbound : (run step self window).scheduler.conceded (fun id => id == rivalId) taskId ≤
      1 + advantage rival task :=
    Scheduler.conceded_le_headStart hlast.reachable.wellFormed hget hlargest
  rw [← countAlong_eq_countP_history (fun call result => yieldedTo rivalId (call, result)),
    ← countAlong_eq_countP_history (fun call result => yieldedTo taskId (call, result)),
    Nat.mul_add, Nat.mul_one]
  omega

end Window

/--
As long as no yield returns a task that has not ended, the yields that complete
are at most one for each other task of the table and one more for each step of
its base priority over that of the task, and no other task is returned by more
of them than its own share.
-/
theorem yields_le_advantages (start : Kernel) (hstart : start.Fresh)
    (before window : List SyscallCall) (taskId : TaskId) (task : TaskControlBlock)
    (hissued : ((run step start before).scheduler.runQueue.get taskId).isSome = true)
    (hget : (run step start (before ++ window)).scheduler.runQueue.get taskId = some task)
    (hlives : task.state ≠ .zombie)
    (hpassed : ∀ event ∈ history step (run step start before) window,
      yieldedTo taskId event = false) :
    (history step (run step start before) window).countP yielded ≤
        ∑ j ∈ Scheduler.rivalSlots (fun id => id != taskId)
            (run step start (before ++ window)).scheduler,
          (1 + advantage ((run step start (before ++ window)).scheduler.taskAt j) task) ∧
      ∀ rivalId rival,
        (run step start (before ++ window)).scheduler.runQueue.get rivalId = some rival →
        (history step (run step start before) window).countP (yieldedTo rivalId) ≤
          1 + advantage rival task := by
  refine ⟨hstart.returns_of_others before window hissued hget hlives hpassed,
    fun rivalId rival hrival => ?_⟩
  have hmissed : (history step (run step start before) window).countP
      (yieldedTo taskId) = 0 := by
    rw [List.countP_eq_zero]
    intro event hevent
    rw [hpassed event hevent]
    exact Bool.false_ne_true
  by_cases hne : rivalId = taskId
  · rw [hne, hmissed]
    exact Nat.zero_le _
  · have hshare := hstart.returns_of_rival before window hissued hget hlives hne hrival
    rwa [hmissed, Nat.zero_add, Nat.mul_one] at hshare

theorem yields_le_advantages_peers :
    (history step (run step new [spawnPeer, spawnPeer]) [yieldPeer]).countP (yieldedTo 1) ≤
      1 + advantage
        { TaskControlBlock.new 1 1 .runtime 32 .empty .unlimited with
          state := .running, contextSwitches := 1 }
        { TaskControlBlock.new 2 1 .runtime 32 .empty .unlimited with age := 1 } :=
  (yields_le_advantages new (.inl rfl) [spawnPeer, spawnPeer] [yieldPeer] 2
    { TaskControlBlock.new 2 1 .runtime 32 .empty .unlimited with age := 1 }
    (by decide +kernel) (by decide +kernel) (by decide) (by decide +kernel)).2 1
    { TaskControlBlock.new 1 1 .runtime 32 .empty .unlimited with
      state := .running, contextSwitches := 1 } (by decide +kernel)

/--
While a task has not ended, a rival is returned by at most one yield, and one
more for each step of its base priority over that of the task, for each yield
that returns the task, and by as many once more.
-/
theorem yields_shared (start : Kernel) (hstart : start.Fresh)
    (before window : List SyscallCall) (taskId rivalId : TaskId)
    (task rival : TaskControlBlock)
    (hissued : ((run step start before).scheduler.runQueue.get taskId).isSome = true)
    (hget : (run step start (before ++ window)).scheduler.runQueue.get taskId = some task)
    (hlives : task.state ≠ .zombie)
    (hrival : (run step start (before ++ window)).scheduler.runQueue.get rivalId =
      some rival) :
    (history step (run step start before) window).countP (yieldedTo rivalId) ≤
      (1 + advantage rival task) *
        ((history step (run step start before) window).countP (yieldedTo taskId) + 1) := by
  by_cases hne : rivalId = taskId
  · rw [hne]
    exact (Nat.le_succ _).trans (Nat.le_mul_of_pos_left _ (by omega))
  · exact hstart.returns_of_rival before window hissued hget hlives hne hrival

theorem yields_shared_peers :
    (history step (run step new [spawnPeer, spawnPeer])
        (.replicate 3 yieldPeer)).countP (yieldedTo 1) ≤
      (1 + 0) * ((history step (run step new [spawnPeer, spawnPeer])
        (.replicate 3 yieldPeer)).countP (yieldedTo 2) + 1) :=
  yields_shared new (.inl rfl) [spawnPeer, spawnPeer] (.replicate 3 yieldPeer) 2 1
    { TaskControlBlock.new 2 1 .runtime 32 .empty .unlimited with
      age := 1, contextSwitches := 1 }
    { TaskControlBlock.new 1 1 .runtime 32 .empty .unlimited with
      state := .running, contextSwitches := 2 }
    (by decide +kernel) (by decide +kernel) (by decide) (by decide +kernel)

end Kernel

end AlaniKernel
