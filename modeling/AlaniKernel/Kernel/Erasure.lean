import AlaniKernel.Foundation.Noninterference
import AlaniKernel.Kernel.Atomicity
import AlaniKernel.Kernel.Tasks

/-!
# Failed calls can be left out

A failed call changes nothing that a later call reads, but for the identifier
that a spawn draws before a full table refuses it.  The table stays full, so no
later spawn shows the difference.
-/

namespace AlaniKernel

open AlaniKernel.Foundation

namespace Scheduler

/-! ## The next identifier is read by spawns alone -/

section Redrawn

variable (self : Scheduler) (nextTaskId : TaskId)

theorem chargeCurrent_redrawn :
    ({ self with nextTaskId } : Scheduler).chargeCurrent =
      self.chargeCurrent.map fun charged => { charged with nextTaskId } := by
  obtain ⟨runQueue, currentTask, drawn, tick⟩ := self
  simp only [chargeCurrent]
  cases currentTask with
  | none => rfl
  | some current =>
      dsimp only
      cases runQueue.getMut current with
      | none => rfl
      | some index =>
          dsimp only
          cases (runQueue.slots.get index).task.budget.consumeTick with
          | error error => rfl
          | ok budget => rfl

theorem scheduleNext_redrawn :
    ({ self with nextTaskId } : Scheduler).scheduleNext =
      (self.scheduleNext.1, { self.scheduleNext.2 with nextTaskId }) := by
  simp only [scheduleNext]
  cases checkedAdd64 self.tick 1 with
  | none => rfl
  | some tick =>
      have hbest : ({ self with nextTaskId, tick } : Scheduler).bestIndex =
          ({ self with tick } : Scheduler).bestIndex := rfl
      simp only [hbest]
      cases ({ self with tick } : Scheduler).bestIndex with
      | none => rfl
      | some selectedIndex =>
          dsimp only
          generalize forEach (rotateSlot (self.runQueue.slots.get selectedIndex).task.id)
            self.runQueue.slots = outcome
          rcases outcome with ⟨_ | _, slots⟩
          · rfl
          · rfl

theorem yieldCurrent_redrawn :
    ({ self with nextTaskId } : Scheduler).yieldCurrent =
      (self.yieldCurrent.1, { self.yieldCurrent.2 with nextTaskId }) := by
  rw [yieldCurrent, yieldCurrent, chargeCurrent_redrawn]
  cases self.chargeCurrent with
  | error error => rfl
  | ok charged => exact charged.scheduleNext_redrawn nextTaskId

theorem cancel_redrawn (taskId : TaskId) :
    ({ self with nextTaskId } : Scheduler).cancel taskId =
      ((self.cancel taskId).1, { (self.cancel taskId).2 with nextTaskId }) := by
  simp only [cancel]
  cases self.runQueue.getMut taskId with
  | none => rfl
  | some index =>
      dsimp only
      split_ifs <;> rfl

end Redrawn

theorem spawn_of_full {self : Scheduler} (hfull : ∀ i, self.Occupied i)
    (parentId : TaskId) (schedulerClass : SchedulerClass) (priority : UInt8)
    (capabilities : CapabilitySet) (budget : BudgetAccount) :
    ∃ error nextTaskId, self.spawn parentId schedulerClass priority capabilities budget =
      (.error error, { self with nextTaskId }) := by
  rcases self.spawn_cases parentId schedulerClass priority capabilities budget with
    ⟨-, hs⟩ | ⟨nextTaskId, -, ⟨error, -, hs⟩ | ⟨slot, hfree, -⟩⟩
  · exact ⟨_, self.nextTaskId, hs⟩
  · exact ⟨error, nextTaskId, hs⟩
  · exact absurd (hfull slot) hfree

/-- The same scheduler, or the same full one with another next identifier. -/
def Redraws (self other : Scheduler) : Prop :=
  other = self ∨ (∀ i, self.Occupied i) ∧ ∃ nextTaskId, other = { self with nextTaskId }

theorem Redraws.step {self other : Scheduler} (h : self.Redraws other) {op : SchedulerOp}
    (hop : Served op) : (self.step op).2.Redraws (other.step op).2 := by
  rcases h with rfl | ⟨hfull, nextTaskId, rfl⟩
  · exact .inl rfl
  · have hstill : ∀ i, (self.step op).2.Occupied i := fun i =>
      (self.kept_step op (hfull i)).1
    refine .inr ⟨hstill, ?_⟩
    cases op with
    | transition taskId target => exact hop.elim
    | scheduleNext => exact hop.elim
    | yieldCurrent =>
        simp only [Scheduler.step, yieldCurrent_redrawn]
        exact ⟨nextTaskId, rfl⟩
    | cancel taskId =>
        simp only [Scheduler.step, cancel_redrawn]
        exact ⟨nextTaskId, rfl⟩
    | spawn parentId schedulerClass priority capabilities budget =>
        have hfull' : ∀ i, ({ self with nextTaskId } : Scheduler).Occupied i := hfull
        obtain ⟨error, drawn, hs⟩ :=
          spawn_of_full hfull parentId schedulerClass priority capabilities budget
        obtain ⟨error', drawn', hs'⟩ :=
          spawn_of_full hfull' parentId schedulerClass priority capabilities budget
        simp only [Scheduler.step, hs, hs']
        exact ⟨drawn', rfl⟩

theorem redraws_of_error {self : Scheduler} (hself : self.Reachable)
    (htick : self.tick.toNat + 1 < 2 ^ 64) {op : SchedulerOp} (hop : Served op)
    (h : (self.step op).1.isOk ≠ true) {other : Scheduler} (hother : self.Redraws other) :
    (self.step op).2.Redraws other := by
  cases op with
  | transition taskId target => exact hop.elim
  | scheduleNext => exact hop.elim
  | yieldCurrent => rwa [yieldCurrent_error hself.switches htick h]
  | cancel taskId => rwa [cancel_error h]
  | spawn parentId schedulerClass priority capabilities budget =>
      rcases spawn_error hself.wellFormed h with hkept | ⟨hfull, -⟩
      · rwa [hkept]
      · obtain ⟨error, drawn, hs⟩ :=
          spawn_of_full hfull parentId schedulerClass priority capabilities budget
        simp only [Scheduler.step, hs]
        refine .inr ⟨hfull, ?_⟩
        rcases hother with rfl | ⟨-, nextTaskId, rfl⟩
        · exact ⟨other.nextTaskId, rfl⟩
        · exact ⟨nextTaskId, rfl⟩

end Scheduler

namespace Kernel

/-- Equal but for the diagnostics, and for identifiers drawn from a full table. -/
structure Resembles (kernel other : Kernel) : Prop where
  config : other.config = kernel.config
  boot : other.boot = kernel.boot
  memory : other.memory = kernel.memory
  devices : other.devices = kernel.devices
  scheduler : kernel.scheduler.Redraws other.scheduler

theorem Resembles.refl (self : Kernel) : self.Resembles self :=
  ⟨rfl, rfl, rfl, rfl, .inl rfl⟩

theorem Resembles.step {self other : Kernel} (h : self.Resembles other)
    (call : SyscallCall) : (self.step call).2.Resembles (other.step call).2 := by
  have hself := self.effect_step call
  have hother := other.effect_step call
  have hops : other.schedulerOp call = self.schedulerOp call :=
    schedulerOp_congr (congrArg MemoryManager.settings h.memory) call
  constructor
  · rw [hself.config, hother.config, h.config]
  · rw [hself.boot, hother.boot, h.boot]
  · rw [hself.memory, hother.memory, h.memory]
  · rw [hself.devices, hother.devices, h.devices]
  · rw [hself.scheduler, hother.scheduler, hops]
    cases hop : self.schedulerOp call with
    | none => exact h.scheduler
    | some op => exact h.scheduler.step (served_schedulerOp hop)

theorem Resembles.failed {self other : Kernel} (h : self.Resembles other)
    (hself : self.Sound) (htick : self.scheduler.tick.toNat + 1 < 2 ^ 64)
    {call : SyscallCall} (hfailed : (self.step call).1.status ≠ .ok) :
    (self.step call).2.Resembles other := by
  have heffect := self.effect_step call
  constructor
  · rw [heffect.config, h.config]
  · rw [heffect.boot, h.boot]
  · rw [memory_of_failed hfailed, h.memory]
  · rw [heffect.devices, h.devices]
  · rw [heffect.scheduler]
    cases hop : self.schedulerOp call with
    | none => exact h.scheduler
    | some op =>
        have herror := mt (heffect.scheduler_ok op hop).mpr hfailed
        exact Scheduler.redraws_of_error hself.scheduler htick (served_schedulerOp hop)
          herror h.scheduler

/-! ## Answers -/

theorem sysTaskSpawn_of_full {self : Kernel} (hfull : ∀ i, self.scheduler.Occupied i)
    (frame : SyscallFrame) (context : DispatchContext) :
    (self.sysTaskSpawn frame context).1.status ≠ .ok := by
  rw [sysTaskSpawn]
  cases self.validateManifest frame with
  | error error => exact error.status_ne_ok
  | ok =>
      dsimp only
      split_ifs
      · obtain ⟨error, nextTaskId, hs⟩ := Scheduler.spawn_of_full hfull context.taskId
          .runtime defaultPriority .empty .unlimited
        simp only [hs]
        exact error.status_ne_ok
      · obtain ⟨error, nextTaskId, hs⟩ := Scheduler.spawn_of_full hfull context.taskId
          .runtime frame.arg3.toUInt8 .empty .unlimited
        simp only [hs]
        exact error.status_ne_ok
      · exact KernelError.invalidArgument.status_ne_ok

theorem dispatchValidated_redrawn {self other : Kernel} {nextTaskId : TaskId}
    (hfull : ∀ i, self.scheduler.Occupied i)
    (hother : other.scheduler = { self.scheduler with nextTaskId })
    {number : SyscallNumber} (hnumber : number.subsystem = .tasks) {frame : SyscallFrame}
    {context : DispatchContext}
    (hok : (self.dispatchValidated number frame context).1.status = .ok) :
    (other.dispatchValidated number frame context).1 =
      (self.dispatchValidated number frame context).1 := by
  have hcancel : ∀ taskId, (other.sysExit taskId).1 = (self.sysExit taskId).1 := by
    intro taskId
    simp only [sysExit, hother, Scheduler.cancel_redrawn]
    rcases self.scheduler.cancel taskId with ⟨_ | _, scheduler⟩ <;> rfl
  cases number with
  | sysTaskSpawn => exact absurd hok (sysTaskSpawn_of_full hfull frame context)
  | sysYield =>
      simp only [dispatchValidated, sysYield, hother, Scheduler.yieldCurrent_redrawn]
      rcases self.scheduler.yieldCurrent with ⟨_ | _ | _, scheduler⟩ <;> rfl
  | sysExit => exact hcancel context.taskId
  | sysTaskCancel => exact hcancel frame.arg0
  | sysTime | sysTaskStatus =>
      simp only [dispatchValidated, sysTaskStatus, hother]
  | _ => contradiction

/-- The same call with the same result, or an audit call that completes in both runs. -/
structure Alike (event other : SyscallEvent) : Prop where
  call : other.1 = event.1
  status : other.2.status = event.2.status
  result : subsystem event.1 ≠ .audit → other.2 = event.2

theorem Resembles.dispatchValidated {self other : Kernel} (h : self.Resembles other)
    {number : SyscallNumber} (hnumber : number.subsystem ≠ .audit) {frame : SyscallFrame}
    {context : DispatchContext}
    (hok : (self.dispatchValidated number frame context).1.status = .ok) :
    (other.dispatchValidated number frame context).1 =
      (self.dispatchValidated number frame context).1 := by
  have hagree : ∀ d, number.subsystem = d → other.AgreeOn self d →
      (other.dispatchValidated number frame context).1 =
        (self.dispatchValidated number frame context).1 := by
    rintro d rfl hagree
    exact dispatchValidated_congr hagree frame context
  cases hd : number.subsystem with
  | audit => exact absurd hd hnumber
  | memory => exact hagree _ hd h.memory
  | devices => exact hagree _ hd h.devices
  | stateless => exact hagree _ hd trivial
  | tasks =>
      rcases h.scheduler with hsame | ⟨hfull, nextTaskId, hother⟩
      · exact hagree _ hd ⟨hsame, congrArg MemoryManager.settings h.memory⟩
      · exact dispatchValidated_redrawn hfull hother hd hok

theorem status_of_audit {number : SyscallNumber} (h : number.subsystem = .audit)
    (self : Kernel) (frame : SyscallFrame) (context : DispatchContext) :
    (self.dispatchValidated number frame context).1.status = .ok := by
  cases number with
  | sysAuditAppend | sysAuditQuery | sysAuditVerify => rfl
  | _ => contradiction

theorem Resembles.alike {self other : Kernel} (h : self.Resembles other)
    {call : SyscallCall} (hok : (self.step call).1.status = .ok) :
    Alike (call, (self.step call).1) (call, (other.step call).1) := by
  cases hvalid : SyscallDispatcher.validate call.frame call.context with
  | error error =>
      rw [Kernel.step, handleSyscall_of_rejected hvalid] at hok
      exact absurd hok error.status_ne_ok
  | ok descriptor =>
      have haccepted : call.accepted = some descriptor.number :=
        SyscallDispatcher.accepted_of_ok hvalid
      have hresult : ∀ kernel : Kernel, (kernel.step call).1 =
          (kernel.dispatchValidated descriptor.number call.frame call.context).1 :=
        fun kernel => (result_of_accepted haccepted).1
      have hsubsystem : subsystem call = descriptor.number.subsystem := by
        rw [subsystem, haccepted, Option.elim_some]
      rw [hresult] at hok
      rw [hresult self, hresult other]
      by_cases haudit : descriptor.number.subsystem = .audit
      · refine ⟨rfl, ?_, fun hother => absurd (hsubsystem.trans haudit) hother⟩
        exact (status_of_audit haudit other _ _).trans (status_of_audit haudit self _ _).symm
      · have hsame := h.dispatchValidated haudit hok
        exact ⟨rfl, congrArg SyscallResult.status hsame, fun _ => hsame⟩

/-! ## Runs -/

theorem along_tick {self : Kernel} {calls : List SyscallCall}
    (h : self.scheduler.tick.toNat + calls.length < 2 ^ 64) :
    Along step (fun kernel _ => kernel.scheduler.tick.toNat + 1 < 2 ^ 64) self calls := by
  induction calls generalizing self with
  | nil => trivial
  | cons call calls ih =>
      rw [List.length_cons] at h
      have hnext := tick_run self [call]
      rw [List.length_singleton] at hnext
      refine ⟨by omega, ih ?_⟩
      change (self.step call).2.scheduler.tick.toNat ≤ _ at hnext
      omega

def completed (event : SyscallEvent) : Bool := event.2.status.isOk

/--
The calls of a run that complete do so in a run of their own, with the same
results but for the audit calls, and leave the same kernel but for its
diagnostics and for identifiers drawn from a full table.
-/
theorem failed_calls_erased (start : Kernel) (hstart : start.Fresh)
    (calls : List SyscallCall) (hcalls : calls.length < 2 ^ 64) :
    (run step start calls).Resembles
        (run step start (doneOps completed (history step start calls))) ∧
      List.Forall₂ Alike ((history step start calls).filter completed)
        (history step start (doneOps completed (history step start calls))) := by
  have htick : start.scheduler.tick.toNat + calls.length < 2 ^ 64 := by
    rw [hstart.tick]
    exact (Nat.zero_add _).trans_lt hcalls
  refine run_doneOps completed (J := Sound)
    (P := fun kernel _ => kernel.scheduler.tick.toNat + 1 < 2 ^ 64)
    (fun _ call hself => hself.step call) ?_ ?_ hstart.sound (.refl start) (along_tick htick)
  · intro kernel other call hself hclock h hfailed
    apply h.failed hself hclock
    rwa [completed, ← Bool.not_eq_true, KernelStatus.isOk_iff] at hfailed
  · intro kernel other call hself hclock h hdone
    exact ⟨h.alike (KernelStatus.isOk_iff.mp hdone), h.step call⟩

theorem failed_calls_erased_exit :
    List.Forall₂ Alike
      ((history step new [spawnCall, strayExit, spawnCall]).filter completed)
      (history step new
        (doneOps completed (history step new [spawnCall, strayExit, spawnCall]))) :=
  (failed_calls_erased new (.inl rfl) [spawnCall, strayExit, spawnCall] (by decide)).2

end Kernel

end AlaniKernel
