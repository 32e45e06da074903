import AlaniKernel.Kernel.Accounting
import AlaniKernel.Kernel.Capacity
import AlaniKernel.Kernel.Charging
import AlaniKernel.Kernel.Confinement
import AlaniKernel.Kernel.Isolation
import AlaniKernel.Scheduler.Served

/-!
# Tasks as their syscalls see them

What the results of the task calls say about the tasks: whom a yield returns,
what the counters report, and what an end means.
-/

namespace AlaniKernel

open AlaniKernel.Foundation

namespace Kernel

theorem served_schedulerOp {self : Kernel} {call : SyscallCall} {op : SchedulerOp}
    (h : self.schedulerOp call = some op) : Scheduler.Served op := by
  rcases (schedulerOp_cases h).2 with
    rfl | ⟨-, rfl⟩ | ⟨-, -, -, -, priority, rfl⟩ | ⟨-, -, rfl⟩
  · trivial
  · trivial
  · exact ⟨rfl, rfl⟩
  · trivial

theorem calm_step {self : Kernel} (h : self.scheduler.Calm) (call : SyscallCall) :
    (self.step call).2.scheduler.Calm := by
  rw [(self.effect_step call).scheduler]
  cases hop : self.schedulerOp call with
  | none => exact h
  | some op => exact h.step (served_schedulerOp hop)

theorem Fresh.calm {start : Kernel} (h : start.Fresh) : start.scheduler.Calm := by
  rcases h with rfl | rfl
  · exact Scheduler.calm_new
  · rw [scheduler_initializeHost]
    exact Scheduler.calm_new.step ⟨rfl, rfl⟩

theorem Fresh.calm_run {start : Kernel} (h : start.Fresh) (calls : List SyscallCall) :
    (run step start calls).scheduler.Calm :=
  run_invariant (I := fun (kernel : Kernel) => kernel.scheduler.Calm) (fun _ call h => calm_step h call)
    h.calm calls

theorem Fresh.tick {start : Kernel} (h : start.Fresh) : start.scheduler.tick = 0 := by
  rcases h with rfl | rfl
  · rfl
  · rw [scheduler_initializeHost]
    exact (Scheduler.spawns_spawn _ _ _ _ _ _).tick

/-! ## Whom a yield returns -/

def Lives (self : Kernel) (taskId : TaskId) : Prop :=
  ∃ task, self.scheduler.runQueue.get taskId = some task ∧ task.state ≠ .zombie

theorem lives_iff {self : Kernel} (h : self.scheduler.WellFormed) (taskId : TaskId) :
    self.Lives taskId ↔
      ∃ i, self.scheduler.LiveAt i ∧ (self.scheduler.taskAt i).id = taskId := by
  constructor
  · rintro ⟨task, hget, hstate⟩
    obtain ⟨i, hfound, rfl⟩ := Option.map_eq_some_iff.mp hget
    obtain ⟨hi, hid⟩ := Scheduler.getMut_some hfound
    exact ⟨i, ⟨hi, hstate⟩, hid⟩
  · rintro ⟨i, ⟨hi, hstate⟩, rfl⟩
    exact ⟨self.scheduler.taskAt i, h.get_taskAt hi, hstate⟩

def yieldResult : KernelResult (Option TaskId) → SyscallResult
  | .ok (some taskId) => .ok taskId 0
  | .ok none => .ok 0 0
  | .error error => .error error

theorem result_yield {self : Kernel} {call : SyscallCall}
    (h : call.accepted = some .sysYield) :
    (self.step call).1 = yieldResult self.scheduler.yieldCurrent.1 := by
  have hresult : (self.step call).1 = self.sysYield.1 := (result_of_accepted h).1
  rw [hresult, sysYield]
  rcases self.scheduler.yieldCurrent with ⟨_ | _ | _, scheduler⟩ <;> rfl

theorem scheduler_yield {self : Kernel} {call : SyscallCall}
    (h : call.accepted = some .sysYield) :
    (self.step call).2.scheduler = self.scheduler.yieldCurrent.2 := by
  have hop : self.schedulerOp call = some .yieldCurrent := by
    rw [schedulerOp, h]
    rfl
  rw [(self.effect_step call).scheduler, hop]
  rfl

/--
A yield always completes.  It returns 0 exactly when every task has ended, and
otherwise a task that has not, which then runs as the current one.
-/
theorem yield_returns_live (start : Kernel) (hstart : start.Fresh) (calls : List SyscallCall)
    (hcalls : calls.length + 1 < 2 ^ 64) (call : SyscallCall)
    (hcall : call.accepted = some .sysYield) :
    ∃ value, ((run step start calls).step call).1 = .ok value 0 ∧
      (value = 0 ↔ ∀ taskId, ¬ (run step start calls).Lives taskId) ∧
      (value ≠ 0 →
        (run step start calls).Lives value ∧
          ((run step start calls).step call).2.scheduler.currentTask = some value ∧
          ∃ task, ((run step start calls).step call).2.scheduler.runQueue.get value =
            some task ∧ task.state = .running) := by
  have hcalm := hstart.calm_run calls
  have htick := tick_run start calls
  rw [hstart.tick] at htick
  generalize run step start calls = self at hcalm htick ⊢
  have hself := hcalm.reachable.wellFormed
  have hafter := calm_step hcalm call
  rw [result_yield hcall, scheduler_yield hcall]
  rw [scheduler_yield hcall] at hafter
  have hbound : self.scheduler.tick.toNat + 1 < 2 ^ 64 := by
    change _ ≤ 0 + calls.length at htick
    omega
  rcases hcalm.yield_cases hbound with ⟨hidle, hreply⟩ | ⟨i, hi, hreply, hcurrent, hruns, hid⟩
  · refine ⟨0, ?_, iff_of_true rfl fun taskId hlives => ?_, fun hvalue => absurd rfl hvalue⟩
    · rw [hreply]
      rfl
    · obtain ⟨i, hi, -⟩ := (lives_iff hself taskId).mp hlives
      exact hidle i hi
  · have hlives := (lives_iff hself _).mpr ⟨i, hi, rfl⟩
    refine ⟨(self.scheduler.taskAt i).id, ?_, ?_, fun _ => ⟨hlives, hcurrent, ?_⟩⟩
    · rw [hreply]
      rfl
    · apply iff_of_false
      · exact hself.id_ne_zero hi.1
      · exact fun hnone => hnone _ hlives
    · have hget := hafter.reachable.wellFormed.get_taskAt hruns.1
      rw [hid] at hget
      exact ⟨_, hget, hruns.2⟩

theorem yield_returns_live_boot :
    ∃ value, ((run step new.initializeHost.2 []).step
      ⟨.new .sysYield #v[0, 0, 0, 0, 0, 0], .task 1 .empty⟩).1 = .ok value 0 := by
  obtain ⟨value, hresult, -⟩ := yield_returns_live new.initializeHost.2 (.inr rfl) []
    (by decide) ⟨.new .sysYield #v[0, 0, 0, 0, 0, 0], .task 1 .empty⟩ (by decide)
  exact ⟨value, hresult⟩

/-! ## What the counters report -/

def yielded (event : SyscallEvent) : Bool :=
  decide (event.1.frame.number = SyscallNumber.sysYield.toUInt64) && event.2.status.isOk

def yieldedTo (taskId : TaskId) (event : SyscallEvent) : Bool :=
  yielded event && decide (event.2.value = taskId)

theorem yielded_of_not_accepted {self : Kernel} {call : SyscallCall}
    (h : call.accepted ≠ some .sysYield) : yielded (call, (self.step call).1) = false := by
  rw [yielded, Bool.and_eq_false_iff]
  by_cases hnumber : call.frame.number = SyscallNumber.sysYield.toUInt64
  · right
    cases hok : (self.step call).1.status.isOk with
    | false => rfl
    | true =>
        have hstatus := KernelStatus.isOk_iff.mp hok
        cases haccepted : call.accepted with
        | none => exact absurd hstatus (status_of_not_accepted haccepted)
        | some number =>
            obtain rfl := SyscallDispatcher.accepted_of_number hnumber haccepted
            exact absurd haccepted h
  · exact .inl (decide_eq_false hnumber)

theorem selectionState_of_not_yield {self : Kernel} {call : SyscallCall} {op : SchedulerOp}
    (h : call.accepted ≠ some .sysYield) (hop : self.schedulerOp call = some op) :
    self.scheduler.selectionState op = none := by
  have hserved := served_schedulerOp hop
  cases op with
  | scheduleNext => exact hserved.elim
  | spawn | transition | cancel => rfl
  | yieldCurrent =>
      have hnumber := (schedulerOp_yield_iff self call).mp hop
      exact absurd ((accepted_yield_iff call).mpr hnumber) h

theorem yielded_step (self : Kernel) (call : SyscallCall) :
    yielded (call, (self.step call).1) =
        ((self.schedulerOp call).elim false fun op =>
          Scheduler.completesSelection (op, (self.scheduler.step op).1)) ∧
      ∀ taskId, taskId ≠ 0 → yieldedTo taskId (call, (self.step call).1) =
        ((self.schedulerOp call).elim false fun op =>
          Scheduler.selectsTask taskId (op, (self.scheduler.step op).1)) := by
  by_cases hcall : call.accepted = some .sysYield
  · have hop : self.schedulerOp call = some .yieldCurrent := by
      rw [schedulerOp, hcall]
      rfl
    have hnumber := ((accepted_yield_iff call).mp hcall).1
    rw [hop, Option.elim_some, result_yield hcall]
    simp only [yieldedTo, yielded, hnumber, decide_true, Bool.true_and, Scheduler.step,
      Option.elim_some]
    cases self.scheduler.yieldCurrent.1 with
    | error error =>
        have hfailed : (SyscallResult.error error).status.isOk = false := by
          rw [← Bool.not_eq_true, KernelStatus.isOk_iff]
          exact error.status_ne_ok
        simp only [yieldResult, hfailed, Bool.false_and]
        exact ⟨rfl, fun taskId _ => rfl⟩
    | ok selected =>
        cases selected with
        | none =>
            refine ⟨rfl, fun taskId hvalue => ?_⟩
            exact decide_eq_false fun hzero => hvalue hzero.symm
        | some selectedId =>
            refine ⟨rfl, fun taskId _ => ?_⟩
            change decide (selectedId = taskId) = _
            apply decide_eq_decide.mpr
            simp [Except.map]
  · have hnone : yielded (call, (self.step call).1) = false := yielded_of_not_accepted hcall
    simp only [yieldedTo, hnone, Bool.false_and]
    cases hop : self.schedulerOp call with
    | none => exact ⟨rfl, fun taskId _ => rfl⟩
    | some op =>
        have hselection := selectionState_of_not_yield hcall hop
        exact ⟨(Scheduler.completesSelection_of_no_selection hselection).symm,
          fun taskId _ => (Scheduler.selectsTask_of_no_selection hselection taskId).symm⟩

/-- The scheduler of a run is that of a run over its operations, with the same counts. -/
theorem scheduler_component (self : Kernel) (calls : List SyscallCall) :
    (run step self calls).scheduler =
        run Scheduler.step self.scheduler (calls.filterMap self.schedulerOp) ∧
      ∀ (p : SyscallEvent → Bool) (q : SchedulerEvent → Bool),
        (∀ (kernel : Kernel) call, p (call, (kernel.step call).1) =
          (kernel.schedulerOp call).elim false fun op =>
            q (op, (kernel.scheduler.step op).1)) →
        (history step self calls).countP p =
          (history Scheduler.step self.scheduler
            (calls.filterMap self.schedulerOp)).countP q := by
  have hops : ∀ kernel : Kernel, kernel.memory.settings = self.memory.settings →
      kernel.schedulerOp = self.schedulerOp :=
    fun kernel h => funext (schedulerOp_congr h)
  have hkept : ∀ (kernel : Kernel) call, kernel.memory.settings = self.memory.settings →
      (kernel.step call).2.memory.settings = self.memory.settings :=
    fun kernel call h => (settings_syscall kernel call).trans h
  have hview : ∀ (kernel : Kernel) call, kernel.memory.settings = self.memory.settings →
      (kernel.step call).2.scheduler = (self.schedulerOp call).elim kernel.scheduler
        fun op => (kernel.scheduler.step op).2 := by
    intro kernel call h
    rw [(kernel.effect_step call).scheduler, hops kernel h]
  refine ⟨run_component Kernel.scheduler self.schedulerOp hkept hview rfl calls,
    fun p q hp => ?_⟩
  rw [← countAlong_eq_countP_history (fun call result => p (call, result)),
    ← countAlong_eq_countP_history (fun op reply => q (op, reply))]
  apply countAlong_component Kernel.scheduler self.schedulerOp hkept hview ?_ rfl
  intro kernel call h
  rw [hp, hops kernel h]

theorem Fresh.boot {start : Kernel} (h : start.Fresh) :
    ∃ boot, start.scheduler = Scheduler.runNew boot ∧
      (Scheduler.historyNew boot).countP Scheduler.completesSelection = 0 ∧
      ∀ taskId, Scheduler.selections taskId (Scheduler.historyNew boot) = 0 := by
  rcases h with rfl | rfl
  · exact ⟨[], rfl, rfl, fun taskId => rfl⟩
  · refine ⟨_, scheduler_initializeHost, ?_, fun taskId => ?_⟩
    · apply List.countP_eq_zero.mpr
      intro event hevent
      rw [List.mem_singleton.mp hevent, Scheduler.completesSelection_of_no_selection rfl]
      exact Bool.false_ne_true
    · apply List.countP_eq_zero.mpr
      intro event hevent
      rw [List.mem_singleton.mp hevent, Scheduler.selectsTask_of_no_selection rfl]
      exact Bool.false_ne_true

theorem Fresh.counted {start : Kernel} (h : start.Fresh) (calls : List SyscallCall) :
    (run step start calls).scheduler.tick.toNat =
        (history step start calls).countP yielded ∧
      ∀ i, (run step start calls).scheduler.Occupied i →
        ((run step start calls).scheduler.taskAt i).contextSwitches.toNat =
          (history step start calls).countP
            (yieldedTo ((run step start calls).scheduler.taskAt i).id) := by
  have hself := (h.calm_run calls).reachable.wellFormed
  obtain ⟨hrun, hcount⟩ := scheduler_component start calls
  obtain ⟨boot, hboot, hclock, hselections⟩ := h.boot
  have hcounted := Scheduler.counted_run (boot ++ calls.filterMap start.schedulerOp)
  rw [Scheduler.runNew, run_append, ← Scheduler.runNew, ← hboot, ← hrun, Scheduler.historyNew,
    history_append, ← Scheduler.runNew, ← hboot] at hcounted
  refine ⟨?_, fun i hi => ?_⟩
  · rw [hcounted.tick, List.countP_append, hclock, Nat.zero_add]
    exact (hcount _ _ fun kernel call => (yielded_step kernel call).1).symm
  · have hid := hself.id_ne_zero hi
    rw [hcounted.switches i hi, Scheduler.selections, List.countP_append]
    have hnone := hselections ((run step start calls).scheduler.taskAt i).id
    rw [Scheduler.selections] at hnone
    rw [hnone, Nat.zero_add]
    exact (hcount _ _ fun kernel call => (yielded_step kernel call).2 _ hid).symm

/--
`sys_time` reports how many yields have completed, and `sys_task_status` how
many of them returned the task.
-/
theorem counters_report_yields (start : Kernel) (hstart : start.Fresh)
    (calls : List SyscallCall) (call : SyscallCall) :
    (call.accepted = some .sysTime →
        ((run step start calls).step call).1.value.toNat =
          (history step start calls).countP yielded) ∧
      (call.accepted = some .sysTaskStatus →
        ((run step start calls).step call).1.status = .ok →
        ((run step start calls).step call).1.detail.toNat =
          (history step start calls).countP (yieldedTo call.frame.arg0)) := by
  obtain ⟨hclock, hswitches⟩ := hstart.counted calls
  refine ⟨fun hcall => ?_, fun hcall hok => ?_⟩
  · have hresult : ((run step start calls).step call).1 =
        .ok (run step start calls).scheduler.tick 0 := (result_of_accepted hcall).1
    rw [hresult]
    exact hclock
  · have hresult : ((run step start calls).step call).1 =
        (run step start calls).sysTaskStatus call.frame := (result_of_accepted hcall).1
    rw [hresult] at hok ⊢
    cases hget : (run step start calls).scheduler.runQueue.get call.frame.arg0 with
    | none =>
        simp only [sysTaskStatus, hget] at hok
        exact absurd hok (KernelError.status_ne_ok .notFound)
    | some task =>
        obtain ⟨i, hfound, rfl⟩ := Option.map_eq_some_iff.mp hget
        obtain ⟨hi, hid⟩ := Scheduler.getMut_some hfound
        rw [← hid, ← hswitches i hi]
        simp only [sysTaskStatus, hget]
        rfl

theorem counters_report_yields_boot :
    ((run step new.initializeHost.2
        [⟨.new .sysYield #v[0, 0, 0, 0, 0, 0], .task 1 .empty⟩]).step
      ⟨.new .sysTime #v[0, 0, 0, 0, 0, 0], .task 1 .empty⟩).1.value.toNat =
        (history step new.initializeHost.2
          [⟨.new .sysYield #v[0, 0, 0, 0, 0, 0], .task 1 .empty⟩]).countP yielded :=
  (counters_report_yields new.initializeHost.2 (.inr rfl) _ _).1 (by decide)

def spawnPeer : SyscallCall :=
  ⟨.new .sysTaskSpawn (.replicate 6 0), .task 1 (.single .taskSpawn)⟩

def yieldPeer : SyscallCall := ⟨.new .sysYield (.replicate 6 0), .task 1 .empty⟩

/-! ## The slot of a task -/

section Holds

variable {self : Kernel} {i : Fin maxTasks} {taskId : TaskId}

theorem holds_step (h : self.scheduler.Holds i taskId) (call : SyscallCall) :
    (self.step call).2.scheduler.Holds i taskId := by
  rw [(self.effect_step call).scheduler]
  cases hop : self.schedulerOp call with
  | none => exact h
  | some op => exact h.step (served_schedulerOp hop)

theorem live_before (h : self.scheduler.Holds i taskId) {call : SyscallCall}
    (hlive : (self.step call).2.scheduler.LiveAt i) : self.scheduler.LiveAt i := by
  rw [(self.effect_step call).scheduler] at hlive
  cases hop : self.schedulerOp call with
  | none =>
      rw [hop, Option.elim_none] at hlive
      exact hlive
  | some op =>
      rw [hop, Option.elim_some] at hlive
      exact h.live_before hlive

end Holds

/-! ## The end of a task -/

/-- The task that an accepted call asks to end. -/
def endTarget (call : SyscallCall) : Option TaskId :=
  match call.accepted with
  | some .sysExit => some call.context.taskId
  | some .sysTaskCancel => some call.frame.arg0
  | _ => none

theorem schedulerOp_of_target {call : SyscallCall} {taskId : TaskId}
    (h : endTarget call = some taskId) (self : Kernel) :
    self.schedulerOp call = some (.cancel taskId) ∧
      (self.step call).1 = (self.sysExit taskId).1 := by
  rw [endTarget] at h
  split at h
  · rename_i haccepted
    cases h
    refine ⟨?_, (result_of_accepted haccepted).1⟩
    rw [schedulerOp, haccepted]
    rfl
  · rename_i haccepted
    cases h
    refine ⟨?_, (result_of_accepted haccepted).1⟩
    rw [schedulerOp, haccepted]
    rfl
  · contradiction

structure TreatsAsEnded (taskId : TaskId) (event : SyscallEvent) : Prop where
  not_returned : yieldedTo taskId event = false
  status : event.1.accepted = some .sysTaskStatus → event.1.frame.arg0 = taskId →
    event.2.status = .ok ∧ event.2.value = TaskState.zombie.toUInt64
  not_ended_again : endTarget event.1 = some taskId → event.2 = .error .invalidState

theorem treatsAsEnded {self : Kernel} {i : Fin maxTasks} {taskId : TaskId}
    (h : self.scheduler.Holds i taskId) (hended : ¬ self.scheduler.LiveAt i)
    (call : SyscallCall) : TreatsAsEnded taskId (call, (self.step call).1) := by
  refine ⟨?_, fun hcall hnamed => ?_, fun htarget => ?_⟩
  · cases hreturned : yieldedTo taskId (call, (self.step call).1) with
    | false => rfl
    | true =>
        rw [(self.yielded_step call).2 taskId h.ne_zero] at hreturned
        cases hop : self.schedulerOp call with
        | none =>
            rw [hop] at hreturned
            contradiction
        | some op =>
            rw [hop, Option.elim_some] at hreturned
            exact absurd (h.live_of_selected (served_schedulerOp hop) hreturned) hended
  · have hresult : (self.step call).1 = self.sysTaskStatus call.frame :=
      (result_of_accepted hcall).1
    have hzombie : (self.scheduler.taskAt i).state = .zombie := by
      by_contra hlive
      exact hended ⟨h.occupied, hlive⟩
    have hget : self.scheduler.runQueue.get call.frame.arg0 = _ := hnamed ▸ h.get
    change (self.step call).1.status = .ok ∧ (self.step call).1.value = _
    rw [hresult]
    simp only [sysTaskStatus, hget, hzombie]
    exact ⟨rfl, rfl⟩
  · change (self.step call).1 = _
    rw [(schedulerOp_of_target htarget self).2, sysExit, h.cancel_of_ended hended]

/--
Once a task has ended, by its exit or a cancel that completed, no yield returns
it, its status stays that of a zombie, and it cannot be ended again.
-/
theorem ended_for_good (start : Kernel) (hstart : start.Fresh) (before : List SyscallCall)
    (call : SyscallCall) (window : List SyscallCall) (taskId : TaskId)
    (htarget : endTarget call = some taskId)
    (hok : ((run step start before).step call).1.status = .ok) :
    ∀ event ∈ history step (run step start (before ++ [call])) window,
      TreatsAsEnded taskId event := by
  have hcalm := hstart.calm_run before
  rw [run_snoc]
  generalize run step start before = self at hok hcalm ⊢
  obtain ⟨hop, -⟩ := schedulerOp_of_target htarget self
  have hcancelled := ((self.effect_step call).scheduler_ok _ hop).mp hok
  obtain ⟨i, hholds, hended⟩ := Scheduler.ended_of_cancel hcalm hcancelled
  have hscheduler : (self.step call).2.scheduler =
      (self.scheduler.step (.cancel taskId)).2 := by
    rw [(self.effect_step call).scheduler, hop, Option.elim_some]
  rw [← hscheduler] at hholds hended
  intro event hevent
  obtain ⟨earlier, later, -, hreply⟩ := mem_history hevent
  have hkept := run_invariant
    (I := fun (kernel : Kernel) =>
      kernel.scheduler.Holds i taskId ∧ ¬ kernel.scheduler.LiveAt i)
    (fun _ other h => ⟨holds_step h.1 other, fun hlive => h.2 (live_before h.1 hlive)⟩)
    ⟨hholds, hended⟩ earlier
  have htreated := treatsAsEnded hkept.1 hkept.2 event.1
  rw [← hreply] at htreated
  exact htreated

theorem ended_for_good_exit :
    TreatsAsEnded 1
      (⟨.new .sysTaskStatus #v[1, 0, 0, 0, 0, 0], .task 2 (.single .taskManage)⟩,
        ((run step new.initializeHost.2
          ([] ++ [⟨.new .sysExit #v[0, 0, 0, 0, 0, 0], .task 1 .empty⟩])).step
            ⟨.new .sysTaskStatus #v[1, 0, 0, 0, 0, 0], .task 2 (.single .taskManage)⟩).1) :=
  ended_for_good new.initializeHost.2 (.inr rfl) []
    ⟨.new .sysExit #v[0, 0, 0, 0, 0, 0], .task 1 .empty⟩
    [⟨.new .sysTaskStatus #v[1, 0, 0, 0, 0, 0], .task 2 (.single .taskManage)⟩] 1
    (by decide) (by decide +kernel) _ List.mem_cons_self

end Kernel

end AlaniKernel
