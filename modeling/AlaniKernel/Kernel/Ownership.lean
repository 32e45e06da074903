import AlaniKernel.Kernel.Reachable

/-!
# Who seals a shared region

The handle that `sys_mem_seal` rebuilds carries the caller as its owner, but
the lookup compares identifiers alone: a caller seals whatever region it names.
-/

namespace AlaniKernel

open AlaniKernel.Foundation

namespace Kernel

/-- A seal that completes, or changes a shared region, has sealed one of its caller's. -/
def SealsOwn (self : Kernel) (call : SyscallCall) : Prop :=
  call.frame.number = SyscallNumber.sysMemSeal.toUInt64 →
    call.Wields .memoryShare →
    ((self.step call).1.status = .ok ∨
      ∃ i, (self.step call).2.memory.regionAt i ≠ self.memory.regionAt i) →
    ∃ i, self.memory.Live i ∧
      (self.memory.regionAt i).handle.id = call.frame.arg0 ∧
      (self.memory.regionAt i).handle.ownerTask = call.context.taskId ∧
      (self.step call).2.memory.regionAt i =
        MemoryManager.sealRegion (self.memory.regionAt i) ∧
      ∀ j, j ≠ i →
        (self.step call).2.memory.regionAt j = self.memory.regionAt j

/-- The live region that a seal names, if there is one, belongs to the caller. -/
def NamesOwn (self : Kernel) (call : SyscallCall) : Prop :=
  call.frame.number = SyscallNumber.sysMemSeal.toUInt64 →
    call.Wields .memoryShare →
    ∀ i, self.memory.Live i →
      (self.memory.regionAt i).handle.id = call.frame.arg0 →
      (self.memory.regionAt i).handle.ownerTask = call.context.taskId

theorem memoryOp_seal {call : SyscallCall}
    (hnumber : call.frame.number = SyscallNumber.sysMemSeal.toUInt64)
    (hwields : call.Wields .memoryShare) :
    memoryOp call = some (.sealSharedRegion (sealHandle call.frame call.context)) := by
  have haccepted : call.accepted = some .sysMemSeal :=
    SyscallDispatcher.guarded_memSeal.accepted_iff.mpr ⟨hnumber, hwields⟩
  rw [memoryOp, haccepted, Option.bind_some, memoryCall]

theorem memSeal_cases (self : Kernel) {call : SyscallCall}
    (hnumber : call.frame.number = SyscallNumber.sysMemSeal.toUInt64)
    (hwields : call.Wields .memoryShare) :
    ((self.step call).1.status ≠ .ok ∧ (self.step call).2.memory = self.memory ∧
        ∀ i, self.memory.Live i →
          (self.memory.regionAt i).handle.id ≠ call.frame.arg0) ∨
      (self.step call).1.status = .ok ∧
        ∃ slot, self.memory.Live slot ∧
          (self.memory.regionAt slot).handle.id = call.frame.arg0 ∧
          (self.step call).2.memory = self.memory.withSealed slot := by
  have hop := memoryOp_seal hnumber hwields
  have heffect := effect_step self call
  have hmemory := heffect.memory
  have hok := heffect.memory_ok _ hop
  rw [hop, Option.elim_some] at hmemory
  rcases self.memory.sealSharedRegion_cases (sealHandle call.frame call.context) with
    ⟨hcase, hnone⟩ | ⟨slot, hlive, hid, hcase⟩
  · left
    simp only [MemoryManager.step, hcase] at hmemory hok
    refine ⟨?_, hmemory, hnone⟩
    rw [ne_eq, hok]
    exact Bool.false_ne_true
  · right
    simp only [MemoryManager.step, hcase] at hmemory hok
    exact ⟨hok.mpr rfl, slot, hlive, hid, hmemory⟩

theorem sealsOwn_iff {self : Kernel} (hself : self.Sound) (call : SyscallCall) :
    self.SealsOwn call ↔ self.NamesOwn call := by
  constructor
  · intro hseals hnumber hwields i hi hid
    rcases memSeal_cases self hnumber hwields with
      ⟨-, -, hnone⟩ | ⟨hok, -⟩
    · exact absurd hid (hnone i hi)
    · obtain ⟨j, hj, hjid, howner, -⟩ := hseals hnumber hwields (.inl hok)
      have hij := hself.memory.id_unique i j hi hj (hid.trans hjid.symm)
      rw [hij]
      exact howner
  · intro hnames hnumber hwields hsealed
    rcases memSeal_cases self hnumber hwields with
      ⟨hfailed, hkept, -⟩ | ⟨-, slot, hlive, hid, hmemory⟩
    · rcases hsealed with hok | ⟨i, hchanged⟩
      · exact absurd hok hfailed
      · exact absurd (by rw [hkept]) hchanged
    · refine ⟨slot, hlive, hid, hnames hnumber hwields slot hlive hid, ?_, fun j hj => ?_⟩
      · rw [hmemory, MemoryManager.regionAt_withSealed_self]
      · rw [hmemory, MemoryManager.regionAt_withSealed_of_ne _ hj]

theorem regionAt_step {self : Kernel} {call : SyscallCall} (hnames : self.NamesOwn call)
    {i : Fin maxSharedRegions} (hi : self.memory.Live i)
    (hforeign : call.context.taskId ≠ (self.memory.regionAt i).handle.ownerTask) :
    (self.step call).2.memory.regionAt i = self.memory.regionAt i := by
  have hmemory := (effect_step self call).memory
  cases hop : memoryOp call with
  | none =>
      rw [hmemory, hop]
      rfl
  | some op =>
      obtain ⟨hwields, ⟨permissions, rfl⟩ | ⟨haccepted, -⟩⟩ := memoryOp_cases hop
      · rw [hmemory, hop, Option.elim_some]
        rcases self.memory.shareRegion_cases call.context.taskId call.frame.arg0
          call.frame.arg1 permissions with
          ⟨error, hcase⟩ | ⟨slot, nextSharedId, hfree, -, hcase⟩
        · simp only [MemoryManager.step, hcase]
        · have hne : i ≠ slot := fun heq => hfree (heq ▸ hi)
          simp only [MemoryManager.step, hcase]
          rw [MemoryManager.regionAt_withShared_of_ne _ hne]
      · have hnumber := SyscallDispatcher.accepted_number haccepted
        rcases memSeal_cases self hnumber hwields with
          ⟨-, hkept, -⟩ | ⟨-, slot, hlive, hid, hsealed⟩
        · rw [hkept]
        · have hne : i ≠ slot := by
            rintro rfl
            exact hforeign (hnames hnumber hwields i hlive hid).symm
          rw [hsealed, MemoryManager.regionAt_withSealed_of_ne _ hne]

theorem regionAt_run {self : Kernel} {window : List SyscallCall}
    (hnames : Along step NamesOwn self window) {i : Fin maxSharedRegions}
    (hi : self.memory.Live i)
    (hforeign : ∀ call ∈ window,
      call.context.taskId ≠ (self.memory.regionAt i).handle.ownerTask) :
    (run step self window).memory.regionAt i = self.memory.regionAt i := by
  induction window generalizing self with
  | nil => rfl
  | cons call window ih =>
      have hkept := regionAt_step hnames.1 hi (hforeign call List.mem_cons_self)
      have hlive : (self.step call).2.memory.Live i := by
        rwa [MemoryManager.Live, hkept]
      have hrest := ih hnames.2 hlive fun later hlater => by
        rw [hkept]
        exact hforeign later (List.mem_cons_of_mem call hlater)
      rw [run_cons, hrest, hkept]

/--
After any run of syscalls a seal keeps to its caller's regions exactly when the
live region it names is the caller's, and a run by other tasks whose seals all
do so leaves a task's shared regions as they are.
-/
theorem seal_keeps_to_owner_iff {start : Kernel} (hstart : start.Fresh)
    (before : List SyscallCall) :
    (∀ call, (run step start before).SealsOwn call ↔
        (run step start before).NamesOwn call) ∧
      ∀ (owner : TaskId) (window : List SyscallCall),
        (∀ call ∈ window, call.context.taskId ≠ owner) →
        Along step NamesOwn (run step start before) window →
        ∀ i, (run step start before).memory.Live i →
          ((run step start before).memory.regionAt i).handle.ownerTask = owner →
          (run step start (before ++ window)).memory.regionAt i =
            (run step start before).memory.regionAt i := by
  refine ⟨sealsOwn_iff (hstart.sound.run before), ?_⟩
  rintro owner window hforeign hnames i hi rfl
  rw [run_append]
  exact regionAt_run hnames hi hforeign

def sharePage : SyscallCall :=
  { frame := .new .sysMemShare #v[0x1000, 4096, 3, 0, 0, 0]
    context := .task 7 (.single .memoryShare) }

def sealFirst (taskId : TaskId) : SyscallCall :=
  { frame := .new .sysMemSeal #v[1, 0, 0, 0, 0, 0]
    context := .task taskId (.single .memoryShare) }

theorem seal_keeps_to_owner_page : (run step new [sharePage]).SealsOwn (sealFirst 7) := by
  refine ((seal_keeps_to_owner_iff (.inl rfl) [sharePage]).1 (sealFirst 7)).mpr ?_
  intro _ _
  decide +kernel

theorem not_sealsOwn_sealFirst : ¬ (run step new [sharePage]).SealsOwn (sealFirst 8) := by
  intro h
  have hok : ((run step new [sharePage]).step (sealFirst 8)).1.status = .ok := by
    decide +kernel
  obtain ⟨i, hlive, -, howner, -⟩ := h rfl ⟨rfl, by decide⟩ (.inl hok)
  have hnone : ∀ i, (run step new [sharePage]).memory.Live i →
      ((run step new [sharePage]).memory.regionAt i).handle.ownerTask ≠ 8 := by
    decide +kernel
  exact hnone i hlive howner

end Kernel

end AlaniKernel
