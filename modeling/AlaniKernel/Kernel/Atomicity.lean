import AlaniKernel.Kernel.Reachable

/-!
# Failed syscalls

Which failed calls leave the kernel as it was: all but a spawn into a full run
queue, which has consumed a task identifier by the time the queue refuses.
-/

namespace AlaniKernel

open AlaniKernel.Foundation

namespace MemoryManager

theorem step_error {self : MemoryManager} {op : MemoryOp}
    (h : (self.step op).1.isOk ≠ true) : (self.step op).2 = self := by
  rcases self.step_cases op with ⟨error, herror⟩ | ⟨hok, -⟩
  · rw [herror]
  · exact absurd hok h

end MemoryManager

namespace Scheduler

theorem cancel_error {self : Scheduler} {taskId : TaskId}
    (h : (self.step (.cancel taskId)).1.isOk ≠ true) :
    (self.step (.cancel taskId)).2 = self := by
  rcases self.cancel_cases taskId with ⟨error, -, hcase⟩ | ⟨i, -, -, hcase⟩
  · simp only [step, hcase]
  · simp only [step, hcase] at h
    exact absurd rfl h

theorem yieldCurrent_error {self : Scheduler} (hself : self.SwitchesBounded)
    (htick : self.tick.toNat + 1 < 2 ^ 64)
    (h : (self.step .yieldCurrent).1.isOk ≠ true) :
    (self.step .yieldCurrent).2 = self := by
  cases hcharge : self.chargeCurrent with
  | error error => simp [step, yieldCurrent, hcharge]
  | ok charged =>
      have hcharged := restated_chargeCurrent hcharge
      have hbounded := hself.of_restated hcharged
      rcases hbounded.scheduleNext_cases with
        ⟨hlast, -⟩ | ⟨tick, -, -, hnext⟩ | ⟨k, next, -, hnext⟩
      · rw [hcharged.tick] at hlast
        omega
      · simp only [step, yieldCurrent, hcharge, hnext] at h
        exact absurd rfl h
      · simp only [step, yieldCurrent, hcharge, hnext] at h
        exact absurd rfl h

theorem spawn_error {self : Scheduler} (hself : self.WellFormed)
    {parentId : TaskId} {schedulerClass : SchedulerClass} {priority : UInt8}
    {capabilities : CapabilitySet} {budget : BudgetAccount}
    (h : (self.step (.spawn parentId schedulerClass priority capabilities
      budget)).1.isOk ≠ true) :
    (self.step (.spawn parentId schedulerClass priority capabilities budget)).2 = self ∨
      (∀ i, self.Occupied i) ∧ self.nextTaskId.toNat + 1 < 2 ^ 64 := by
  rcases self.spawn_cases parentId schedulerClass priority capabilities budget with
    ⟨-, hcase⟩ | ⟨nextTaskId, hnext, ⟨error, hrefused, -⟩ | ⟨slot, -, -, -, hcase⟩⟩
  · exact .inl (by simp only [step, hcase])
  · have hlt := nextTaskId.toNat_lt
    exact .inr ⟨(hself.spawn_refused hrefused).2, by omega⟩
  · simp only [step, hcase] at h
    exact absurd rfl h

def occupied (self : Scheduler) : Finset (Fin maxTasks) :=
  Finset.univ.filter self.Occupied

theorem mem_occupied {self : Scheduler} {i : Fin maxTasks} :
    i ∈ self.occupied ↔ self.Occupied i := by
  simp [occupied]

theorem card_occupied_of_full {self : Scheduler} (h : ∀ i, self.Occupied i) :
    self.occupied.card = 64 := by
  have huniv : self.occupied = Finset.univ :=
    Finset.eq_univ_of_forall fun i => mem_occupied.mpr (h i)
  rw [huniv, Finset.card_univ, Fintype.card_fin]

theorem card_occupied_withSpawned {self : Scheduler} {slot : Fin maxTasks}
    (hfree : ¬ self.Occupied slot) (nextTaskId : TaskId) (task : TaskControlBlock) :
    (self.withSpawned slot nextTaskId task).occupied.card = self.occupied.card + 1 := by
  have hinsert : (self.withSpawned slot nextTaskId task).occupied =
      insert slot self.occupied := by
    ext i
    rw [Finset.mem_insert, mem_occupied, mem_occupied, Occupied, slotAt_withSpawned]
    by_cases hi : i = slot
    · simp [hi]
    · simp [hi, Occupied]
  rw [hinsert, Finset.card_insert_of_notMem (mt mem_occupied.mp hfree)]

theorem spawn_room {self : Scheduler} (hself : self.WellFormed)
    (hroom : self.occupied.card < 64) (hids : self.nextTaskId.toNat + 1 < 2 ^ 64)
    (parentId : TaskId) (schedulerClass : SchedulerClass) (priority : UInt8)
    (capabilities : CapabilitySet) (budget : BudgetAccount) :
    ∃ slot nextTaskId, ¬ self.Occupied slot ∧
      nextTaskId.toNat = self.nextTaskId.toNat + 1 ∧
      self.spawn parentId schedulerClass priority capabilities budget =
        (.ok self.nextTaskId,
          self.withSpawned slot nextTaskId
            (.new self.nextTaskId parentId schedulerClass priority capabilities
              budget)) := by
  rcases self.spawn_cases parentId schedulerClass priority capabilities budget with
    ⟨hlast, -⟩ | ⟨nextTaskId, hnext, ⟨error, hrefused, -⟩ | ⟨slot, hfree, -, -, h⟩⟩
  · omega
  · rw [card_occupied_of_full (hself.spawn_refused hrefused).2] at hroom
    exact absurd hroom (lt_irrefl 64)
  · exact ⟨slot, nextTaskId, hfree, hnext, h⟩

/-- A spawn into a full queue keeps the identifier it has drawn. -/
theorem spawn_full {self : Scheduler} (hfull : ∀ i, self.Occupied i)
    (hnext : self.nextTaskId.toNat + 1 < 2 ^ 64) (parentId : TaskId)
    (schedulerClass : SchedulerClass) (priority : UInt8)
    (capabilities : CapabilitySet) (budget : BudgetAccount) :
    (self.step (.spawn parentId schedulerClass priority capabilities
        budget)).1.isOk = false ∧
      (self.step (.spawn parentId schedulerClass priority capabilities
        budget)).2.nextTaskId ≠ self.nextTaskId := by
  rcases self.spawn_cases parentId schedulerClass priority capabilities budget with
    ⟨hlast, -⟩ | ⟨nextTaskId, hdrawn, ⟨error, -, hcase⟩ | ⟨slot, hfree, -, -, -⟩⟩
  · omega
  · simp only [step, hcase]
    refine ⟨rfl, fun heq => ?_⟩
    rw [heq] at hdrawn
    omega
  · exact absurd (hfull slot) hfree

end Scheduler

namespace Kernel

/-- A call that fails leaves everything but the audit log and the fault ring. -/
def Atomic (self : Kernel) (call : SyscallCall) : Prop :=
  (self.step call).1.status ≠ .ok →
    (self.step call).2.config = self.config ∧
      (self.step call).2.boot = self.boot ∧
      (self.step call).2.memory = self.memory ∧
      (self.step call).2.scheduler = self.scheduler ∧
      (self.step call).2.devices = self.devices

/-- A permitted, well-formed spawn that meets a full run queue. -/
def SpendsTaskId (self : Kernel) (call : SyscallCall) : Prop :=
  call.frame.number = SyscallNumber.sysTaskSpawn.toUInt64 ∧
    call.Wields .taskSpawn ∧
    (self.validateManifest call.frame).isOk = true ∧
    call.frame.arg3 ≤ 255 ∧
    (∀ i, self.scheduler.Occupied i) ∧
    self.scheduler.nextTaskId.toNat + 1 < 2 ^ 64

theorem schedulerOp_spawn (self : Kernel) (call : SyscallCall)
    (hnumber : call.frame.number = SyscallNumber.sysTaskSpawn.toUInt64)
    (hwields : call.Wields .taskSpawn)
    (hmanifest : (self.validateManifest call.frame).isOk = true)
    (hpriority : call.frame.arg3 ≤ 255) :
    ∃ priority, self.schedulerOp call =
      some (.spawn call.context.taskId .runtime priority .empty .unlimited) := by
  have haccepted : call.accepted = some .sysTaskSpawn :=
    SyscallDispatcher.guarded_taskSpawn.accepted_iff.mpr ⟨hnumber, hwields⟩
  rw [schedulerOp, haccepted, Option.bind_some, schedulerCall,
    if_pos ⟨hmanifest, hpriority⟩]
  exact ⟨_, rfl⟩

theorem memory_of_failed {self : Kernel} {call : SyscallCall}
    (hfailed : (self.step call).1.status ≠ .ok) :
    (self.step call).2.memory = self.memory := by
  have heffect := effect_step self call
  rw [heffect.memory]
  cases hop : memoryOp call with
  | none => rfl
  | some op =>
      have hok := heffect.memory_ok op hop
      exact MemoryManager.step_error (mt hok.mpr hfailed)

theorem atomic_of_not_spends {self : Kernel} (hself : self.Sound)
    (htick : self.scheduler.tick.toNat + 1 < 2 ^ 64) {call : SyscallCall}
    (h : ¬ self.SpendsTaskId call) : self.Atomic call := by
  intro hfailed
  have heffect := effect_step self call
  refine ⟨heffect.config, heffect.boot, memory_of_failed hfailed, ?_, heffect.devices⟩
  · rw [heffect.scheduler]
    cases hop : self.schedulerOp call with
    | none => rfl
    | some op =>
        have herror := mt (heffect.scheduler_ok op hop).mpr hfailed
        rw [Option.elim_some]
        rcases (schedulerOp_cases hop).2 with
          rfl | ⟨-, rfl⟩ | ⟨hnumber, hwields, hmanifest, hpriority, priority, rfl⟩ |
            ⟨-, -, rfl⟩
        · exact Scheduler.yieldCurrent_error hself.scheduler.switches htick herror
        · exact Scheduler.cancel_error herror
        · rcases Scheduler.spawn_error hself.scheduler.wellFormed herror with
            hkept | ⟨hfull, hnext⟩
          · exact hkept
          · exact absurd ⟨hnumber, hwields, hmanifest, hpriority, hfull, hnext⟩ h
        · exact Scheduler.cancel_error herror

theorem not_atomic_of_spends {self : Kernel} {call : SyscallCall}
    (h : self.SpendsTaskId call) : ¬ self.Atomic call := by
  obtain ⟨hnumber, hwields, hmanifest, hpriority, hfull, hnext⟩ := h
  obtain ⟨priority, hop⟩ := schedulerOp_spawn self call hnumber hwields
    hmanifest hpriority
  have heffect := effect_step self call
  obtain ⟨herror, hspent⟩ := Scheduler.spawn_full hfull hnext call.context.taskId
    .runtime priority .empty .unlimited
  intro hatomic
  have hfailed : (self.step call).1.status ≠ .ok := by
    rw [ne_eq, heffect.scheduler_ok _ hop, herror]
    exact Bool.false_ne_true
  have hkept := (hatomic hfailed).2.2.2.1
  rw [heffect.scheduler, hop, Option.elim_some] at hkept
  rw [hkept] at hspent
  contradiction

/--
In a host-initialized kernel after fewer than `2 ^ 64 - 1` syscalls, a call is
atomic exactly when it is not a permitted spawn that meets a full run queue.
-/
theorem atomic_iff (calls : List SyscallCall) (hcalls : calls.length < 2 ^ 64 - 1)
    (call : SyscallCall) :
    (run step new.initializeHost.2 calls).Atomic call ↔
      ¬ (run step new.initializeHost.2 calls).SpendsTaskId call := by
  have hsound := sound_initializeHost.run calls
  have htick := tick_run new.initializeHost.2 calls
  have hstart : new.initializeHost.2.scheduler.tick = 0 := by
    rw [scheduler_initializeHost]
    decide +kernel
  rw [hstart, UInt64.toNat_zero] at htick
  refine ⟨fun hatomic hspends => not_atomic_of_spends hspends hatomic, fun h => ?_⟩
  exact atomic_of_not_spends hsound (by omega) h

def spawnCall : SyscallCall :=
  { frame := .new .sysTaskSpawn #v[0, 0, 0, 0, 0, 0]
    context := .task 1 (.single .taskSpawn) }

def strayExit : SyscallCall :=
  { frame := .new .sysExit #v[0, 0, 0, 0, 0, 0]
    context := .task 9 .empty }

theorem atomic_strayExit :
    (run step new.initializeHost.2 [spawnCall]).Atomic strayExit :=
  (atomic_iff [spawnCall] (by decide) strayExit).mpr fun h => absurd h.1 (by decide)

theorem occupied_spawnCalls {self : Kernel} (hself : self.Sound) (n : Nat)
    (hroom : self.scheduler.occupied.card + n ≤ 64)
    (hids : self.scheduler.nextTaskId.toNat + n < 2 ^ 64) :
    (run step self (List.replicate n spawnCall)).scheduler.occupied.card =
        self.scheduler.occupied.card + n ∧
      (run step self (List.replicate n spawnCall)).scheduler.nextTaskId.toNat =
        self.scheduler.nextTaskId.toNat + n := by
  induction n generalizing self with
  | zero => exact ⟨rfl, rfl⟩
  | succ n ih =>
      obtain ⟨priority, hop⟩ := schedulerOp_spawn self spawnCall rfl
        ⟨rfl, by decide⟩ rfl (by decide)
      have hscheduler := (effect_step self spawnCall).scheduler
      rw [hop, Option.elim_some] at hscheduler
      obtain ⟨slot, nextTaskId, hfree, hnext, hspawn⟩ :=
        Scheduler.spawn_room hself.scheduler.wellFormed (by omega) (by omega)
          spawnCall.context.taskId .runtime priority .empty .unlimited
      simp only [Scheduler.step, hspawn] at hscheduler
      have hcard : (self.step spawnCall).2.scheduler.occupied.card =
          self.scheduler.occupied.card + 1 := by
        rw [hscheduler]
        exact Scheduler.card_occupied_withSpawned hfree nextTaskId _
      have hids' : (self.step spawnCall).2.scheduler.nextTaskId.toNat =
          self.scheduler.nextTaskId.toNat + 1 := by
        rw [hscheduler]
        exact hnext
      have hrest := ih (hself.step spawnCall) (by omega) (by omega)
      rw [List.replicate_succ, run_cons]
      omega

theorem not_atomic_spawnCall :
    ¬ (run step new.initializeHost.2 (List.replicate 63 spawnCall)).Atomic spawnCall := by
  have hstart : new.initializeHost.2.scheduler.occupied.card = 1 ∧
      new.initializeHost.2.scheduler.nextTaskId.toNat = 2 := by
    decide +kernel
  obtain ⟨hcard, hnext⟩ :=
    occupied_spawnCalls sound_initializeHost 63 (by omega) (by omega)
  refine not_atomic_of_spends
    ⟨rfl, ⟨rfl, by decide⟩, rfl, by decide, fun i => ?_, by omega⟩
  have hfull := (Finset.card_eq_iff_eq_univ _).mp (hcard.trans (by rw [hstart.1]; rfl))
  exact Scheduler.mem_occupied.mp (hfull ▸ Finset.mem_univ i)

end Kernel

end AlaniKernel
