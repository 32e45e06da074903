import AlaniKernel.Kernel.Api
import AlaniKernel.Scheduler.Failure

/-!
# Whom a syscall charges

`sys_yield` takes a tick from the task that the scheduler holds to be current,
whoever made the call.  No other syscall takes a tick from anyone.
-/

namespace AlaniKernel

open AlaniKernel.Foundation

namespace Scheduler

/-- A yield takes a tick from the task in slot `i`. -/
def Charges (self : Scheduler) (i : Fin maxTasks) : Prop :=
  ∃ current, self.currentTask = some current ∧
    self.runQueue.getMut current = some i ∧
    (self.taskAt i).budget.maxTicks ≠ 0 ∧ (self.taskAt i).budget.remainingTicks ≠ 0

def remainingAt (self : Scheduler) (i : Fin maxTasks) : UInt64 :=
  (self.taskAt i).budget.remainingTicks

theorem remainingAt_withTask (self : Scheduler) (i j : Fin maxTasks)
    (state : TaskState) (currentTask : Option TaskId) :
    ({ self.withTask j { self.taskAt j with state } with
        currentTask } : Scheduler).remainingAt i = self.remainingAt i := by
  have hslot := slotAt_withTask self j i { self.taskAt j with state }
  change ((self.withTask j _).slotAt i).task.budget.remainingTicks = _
  rw [hslot]
  split_ifs with hij
  · rw [hij]
    rfl
  · rfl

theorem remaining_consumeTick_iff {budget charged : BudgetAccount}
    (h : budget.consumeTick = .ok charged) :
    charged.remainingTicks ≠ budget.remainingTicks ↔
      budget.maxTicks ≠ 0 ∧ budget.remainingTicks ≠ 0 := by
  by_cases hunlimited : budget.maxTicks = 0
  · have hsame := (BudgetAccount.consumeTick_eq_self_iff h).mpr hunlimited
    simp [hsame, hunlimited]
  · have hpaid := consumeTick_bounded hunlimited h
    apply iff_of_true
    · intro hsame
      rw [hsame] at hpaid
      omega
    · refine ⟨hunlimited, fun hspent => ?_⟩
      have hzero : budget.remainingTicks.toNat = 0 := by rw [hspent]; rfl
      omega

theorem remaining_chargeCurrent_iff {self charged : Scheduler}
    (h : self.chargeCurrent = .ok charged) (i : Fin maxTasks) :
    charged.remainingAt i ≠ self.remainingAt i ↔ self.Charges i := by
  cases hcurrent : self.currentTask with
  | none =>
      rw [chargeCurrent, hcurrent] at h
      cases h
      simp [Charges, hcurrent]
  | some current =>
      obtain ⟨j, hfound, hpay⟩ :=
        (self.chargeCurrent_ok_iff.mp ⟨charged, h⟩) current hcurrent
      obtain ⟨budget, hcharge⟩ := BudgetAccount.consumeTick_ok hpay
      rw [chargeCurrent_found hcurrent hfound hcharge] at h
      cases h
      rw [remainingAt, remainingAt, taskAt, slotAt_withTask]
      by_cases hij : i = j
      · subst hij
        rw [if_pos rfl]
        simp only [Charges, hcurrent, Option.some.injEq, exists_eq_left', hfound, true_and]
        exact remaining_consumeTick_iff hcharge
      · have hother : j ≠ i := fun heq => hij heq.symm
        rw [if_neg hij]
        simp [Charges, hcurrent, hfound, hother, taskAt]

theorem charges_canCharge {self : Scheduler} {i : Fin maxTasks} (h : self.Charges i) :
    self.CanCharge := by
  obtain ⟨current, hcurrent, hfound, -, hleft⟩ := h
  intro other hother
  rw [hcurrent, Option.some.injEq] at hother
  exact ⟨i, hother ▸ hfound, .inr hleft⟩

theorem remaining_yield_iff (self : Scheduler) (i : Fin maxTasks) :
    self.yieldCurrent.2.remainingAt i ≠ self.remainingAt i ↔ self.Charges i := by
  cases hcharge : self.chargeCurrent with
  | error error =>
      simp only [yieldCurrent, hcharge, ne_eq, not_true_eq_false, false_iff]
      intro hcharges
      obtain ⟨charged, hok⟩ := self.chargeCurrent_ok_iff.mpr (charges_canCharge hcharges)
      rw [hcharge] at hok
      contradiction
  | ok charged =>
      have hbudget := budget_scheduleNext charged i
      rw [← remaining_chargeCurrent_iff hcharge i]
      simp only [yieldCurrent, hcharge, remainingAt, hbudget]

theorem remaining_step_iff (self : Scheduler) (op : SchedulerOp) {i : Fin maxTasks}
    (hi : self.Occupied i) :
    (self.step op).2.remainingAt i ≠ self.remainingAt i ↔
      op = .yieldCurrent ∧ self.Charges i := by
  cases op with
  | yieldCurrent =>
      rw [← remaining_yield_iff]
      simp [Scheduler.step]
  | scheduleNext =>
      simp [Scheduler.step, remainingAt, budget_scheduleNext]
  | spawn parentId schedulerClass priority capabilities budget =>
      have hspawned := self.spawns_spawn parentId schedulerClass priority capabilities budget
      simp [Scheduler.step, remainingAt, taskAt, hspawned.slotAt hi]
  | transition taskId target =>
      rcases self.transition_cases taskId target with ⟨error, -, h, -⟩ | ⟨j, -, -, h⟩
      · simp [Scheduler.step, h]
      · simp [Scheduler.step, h, remainingAt_withTask]
  | cancel taskId =>
      rcases self.cancel_cases taskId with ⟨error, -, h⟩ | ⟨j, -, -, h⟩
      · simp [Scheduler.step, h]
      · simp [Scheduler.step, h, remainingAt_withTask]

end Scheduler

namespace Kernel

def ChargesOnlyCaller (self : Kernel) (call : SyscallCall) : Prop :=
  ∀ i, self.scheduler.Occupied i → (self.scheduler.taskAt i).id ≠ call.context.taskId →
    (self.step call).2.scheduler.remainingAt i = self.scheduler.remainingAt i

/-- A yield of a caller that is not the current task, which has ticks to pay. -/
def YieldsForOther (self : Kernel) (call : SyscallCall) : Prop :=
  call.frame.number = SyscallNumber.sysYield.toUInt64 ∧
    call.context.execution = .task ∧
    ∃ current task, self.scheduler.currentTask = some current ∧
      current ≠ call.context.taskId ∧
      self.scheduler.runQueue.get current = some task ∧
      task.budget.maxTicks ≠ 0 ∧ task.budget.remainingTicks ≠ 0

theorem accepted_yield_iff (call : SyscallCall) :
    call.accepted = some .sysYield ↔
      call.frame.number = SyscallNumber.sysYield.toUInt64 ∧
        call.context.execution = .task := by
  obtain ⟨descriptor, hrow, hnumber⟩ := SyscallDispatcher.lookup_toUInt64 .sysYield
  have hchecks : descriptor.requiredCapability = none ∧
      descriptor.earlyBootSafe = false ∧ descriptor.interruptSafe = false := by
    cases hrow
    exact ⟨rfl, rfl, rfl⟩
  rw [← hnumber] at hrow ⊢
  rw [SyscallCall.accepted, SyscallDispatcher.accepted_iff hrow, hchecks.1]
  cases call.context.execution <;> simp [SyscallDescriptor.allowsContext, hchecks]

theorem schedulerOp_yield_iff (self : Kernel) (call : SyscallCall) :
    self.schedulerOp call = some .yieldCurrent ↔
      call.frame.number = SyscallNumber.sysYield.toUInt64 ∧
        call.context.execution = .task := by
  rw [← accepted_yield_iff, schedulerOp]
  cases call.accepted with
  | none => simp
  | some number =>
      cases number with
      | sysTaskSpawn =>
          simp only [Option.bind_some, schedulerCall]
          split <;> simp
      | sysInfo | sysYield | sysExit | sysTime | sysTraceContext | sysTaskJoin
      | sysTaskCancel | sysTaskStatus | sysMemMap | sysMemUnmap | sysMemQuery
      | sysMemShare | sysMemSeal | sysDeviceList | sysDeviceOpen | sysDeviceCall
      | sysDeviceClose | sysModelList | sysModelOpen | sysInfer | sysMemoryQuery
      | sysMemoryPut | sysCapDerive | sysCapRevoke | sysAttest | sysRandom
      | sysAuditAppend | sysAuditQuery | sysAuditVerify => simp [schedulerCall]

theorem yieldsForOther_iff (self : Kernel) (call : SyscallCall) :
    self.YieldsForOther call ↔
      self.schedulerOp call = some .yieldCurrent ∧
        ∃ i, self.scheduler.Charges i ∧
          (self.scheduler.taskAt i).id ≠ call.context.taskId := by
  rw [schedulerOp_yield_iff, and_assoc]
  apply and_congr_right
  intro _
  apply and_congr_right
  intro _
  constructor
  · rintro ⟨current, task, hcurrent, hother, hget, hpays⟩
    obtain ⟨i, hfound, rfl⟩ := Option.map_eq_some_iff.mp hget
    refine ⟨i, ⟨current, hcurrent, hfound, hpays⟩, ?_⟩
    rw [(Scheduler.getMut_some hfound).2]
    exact hother
  · rintro ⟨i, ⟨current, hcurrent, hfound, hpays⟩, hother⟩
    rw [(Scheduler.getMut_some hfound).2] at hother
    refine ⟨current, self.scheduler.taskAt i, hcurrent, hother, ?_, hpays⟩
    rw [RunQueue.get, hfound]
    rfl

theorem remaining_step_kernel_iff (self : Kernel) (call : SyscallCall) {i : Fin maxTasks}
    (hi : self.scheduler.Occupied i) :
    (self.step call).2.scheduler.remainingAt i ≠ self.scheduler.remainingAt i ↔
      self.schedulerOp call = some .yieldCurrent ∧ self.scheduler.Charges i := by
  rw [(effect_step self call).scheduler]
  cases self.schedulerOp call with
  | none => simp
  | some op => simp [Scheduler.remaining_step_iff _ op hi]

/--
A call takes ticks from nobody but its caller exactly when it is no yield made
while another task is current, with a bounded budget that is not used up.
-/
theorem charges_only_caller_iff (self : Kernel) (call : SyscallCall) :
    self.ChargesOnlyCaller call ↔ ¬ self.YieldsForOther call := by
  rw [yieldsForOther_iff]
  constructor
  · rintro h ⟨hop, i, hcharges, hother⟩
    have hcharged := hcharges
    obtain ⟨current, -, hfound, -⟩ := hcharged
    have hi := (Scheduler.getMut_some hfound).1
    exact (self.remaining_step_kernel_iff call hi).mpr ⟨hop, hcharges⟩ (h i hi hother)
  · intro h i hi hother
    by_contra hchanged
    obtain ⟨hop, hcharges⟩ := (self.remaining_step_kernel_iff call hi).mp hchanged
    exact h ⟨hop, i, hcharges, hother⟩

def boundedCurrent : List KernelOp :=
  [.scheduler (.spawn 0 .runtime 8 .empty
      { maxTicks := 5, remainingTicks := 5, deadlineTick := 0 }),
    .scheduler (.spawn 0 .runtime 8 .empty .unlimited),
    .scheduler (.transition 1 .running)]

def yieldOfOther : SyscallCall :=
  { frame := .new .sysYield (.replicate 6 0), context := .task 2 .empty }

theorem not_charges_only_caller_boundedCurrent :
    ¬ (run apply new boundedCurrent).ChargesOnlyCaller yieldOfOther := by
  intro h
  have hother := h 0 (by decide +kernel) (by decide +kernel)
  have hpaid : ((run apply new boundedCurrent).step yieldOfOther).2.scheduler.remainingAt 0 ≠
      (run apply new boundedCurrent).scheduler.remainingAt 0 := by decide +kernel
  exact hpaid hother

end Kernel

end AlaniKernel
