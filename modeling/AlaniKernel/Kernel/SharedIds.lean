import AlaniKernel.Kernel.SharedRegions
import AlaniKernel.Memory.Numbering

/-!
# What the calls on shared regions answer

Which shares and seals complete follows from the shares that completed before:
these return 1, 2, 3 and so on while the table has room, and a seal completes
exactly for an identifier that one of them returned.
-/

namespace AlaniKernel

open AlaniKernel.Foundation

namespace Kernel

open MemoryManager

def sharedId (event : SyscallCall × SyscallResult) : Option UInt64 :=
  if event.1.accepted = some .sysMemShare ∧ event.2.status = .ok then some event.2.value
  else none

def sharedIds (events : List (SyscallCall × SyscallResult)) : List UInt64 :=
  events.filterMap sharedId

/-- The flags and the range of a share that the settings of a manager admit. -/
structure Shareable (memory : MemoryManager) (call : SyscallCall) : Prop where
  known : MemoryFlag.Only call.frame.arg2.toUInt32
  unsealed : .sealed ∉ MemoryFlag.inWord call.frame.arg2.toUInt32
  range : memory.AcceptedRange call.frame.arg0 call.frame.arg1

theorem Shareable.congr {before after : MemoryManager} {call : SyscallCall}
    (h : Shareable before call) (hsettings : before.settings = after.settings) :
    Shareable after call :=
  ⟨h.known, h.unsealed, (acceptedRange_congr hsettings _ _).mp h.range⟩

section Calls

variable {self : Kernel} {regions : List SharedRegion} {call : SyscallCall}

theorem memShare_answer (h : self.memory.Lists regions)
    (haccepted : call.accepted = some .sysMemShare) :
    ((self.step call).1.status ≠ .ok ∧ (self.step call).2.memory = self.memory ∧
        ¬ (Shareable self.memory call ∧ regions.length < maxSharedRegions)) ∨
      ∃ region, (self.step call).1.status = .ok ∧
        (self.step call).1.value = region.handle.id ∧
        (self.step call).2.memory.Lists (regions ++ [region]) ∧
        Shareable self.memory call ∧ regions.length < maxSharedRegions := by
  obtain ⟨hresult, hmemory⟩ := @result_of_accepted self _ _ _ haccepted
  rw [step, hresult, hmemory]
  simp only [dispatchValidated, sysMemShare]
  cases hbits : MemoryPermissions.fromBits call.frame.arg2.toUInt32 with
  | error error =>
      refine .inl ⟨error.status_ne_ok, rfl, ?_⟩
      rintro ⟨hshareable, -⟩
      have hok : MemoryPermissions.fromBits call.frame.arg2.toUInt32 = .ok ⟨_⟩ :=
        MemoryPermissions.fromBits_ok_iff.mpr ⟨rfl, hshareable.known⟩
      rw [hbits] at hok
      contradiction
  | ok permissions =>
      obtain ⟨hword, hknown⟩ := MemoryPermissions.fromBits_ok_iff.mp hbits
      have hflags : permissions.flags = MemoryFlag.inWord call.frame.arg2.toUInt32 :=
        congrArg MemoryFlag.inWord hword
      rcases h.shareRegion_cases call.context.taskId call.frame.arg0 call.frame.arg1
        permissions with
        ⟨error, hshare, hrefused⟩ | ⟨after, hshare, ⟨hrange, hunsealed, hroom⟩, -, hafter⟩
      · simp only [hshare]
        refine .inl ⟨error.status_ne_ok, trivial, ?_⟩
        rintro ⟨hshareable, hroom⟩
        rw [hflags] at hrefused
        exact hrefused ⟨hshareable.range, hshareable.unsealed, hroom⟩
      · simp only [hshare]
        rw [hflags] at hunsealed
        exact .inr ⟨_, rfl, rfl, hafter, ⟨hknown, hunsealed, hrange⟩, hroom⟩

theorem memSeal_answer (h : self.memory.Lists regions)
    (haccepted : call.accepted = some .sysMemSeal) :
    ((self.step call).1.status = .ok ↔ call.frame.arg0 ∈ idsOf regions) ∧
      ∃ after, (self.step call).2.memory.Lists after ∧ idsOf after = idsOf regions := by
  obtain ⟨hresult, hmemory⟩ := @result_of_accepted self _ _ _ haccepted
  rw [step, hresult, hmemory]
  simp only [dispatchValidated, sysMemSeal]
  rcases h.sealSharedRegion_cases
    { id := call.frame.arg0, ownerTask := call.context.taskId, permissions := 0 } with
    ⟨hseal, hunknown⟩ | ⟨after, sealedRegions, hseal, hknown, -, hafter, hids⟩
  · simp only [hseal]
    exact ⟨iff_of_false KernelError.notFound.status_ne_ok hunknown, regions, h, rfl⟩
  · simp only [hseal]
    exact ⟨iff_of_true rfl hknown, sealedRegions, hafter, hids⟩

theorem memory_of_other_call (hshare : call.accepted ≠ some .sysMemShare)
    (hseal : call.accepted ≠ some .sysMemSeal) : (self.step call).2.memory = self.memory := by
  rw [(self.effect_step call).memory]
  cases hop : memoryOp call with
  | none => rfl
  | some op =>
      rcases (memoryOp_cases hop).2 with ⟨permissions, rfl⟩ | ⟨haccepted, -⟩
      · exact absurd (memoryOp_eq_share hop).1 hshare
      · exact absurd haccepted hseal

end Calls

def Answers (first : MemoryManager) (kernel : Kernel)
    (events : List (SyscallCall × SyscallResult)) : Prop :=
  kernel.memory.settings = first.settings ∧
    ∃ regions, kernel.memory.Lists regions ∧ idsOf regions = sharedIds events

theorem Answers.step {first : MemoryManager} {self : Kernel}
    {events : List (SyscallCall × SyscallResult)} (h : Answers first self events)
    (call : SyscallCall) :
    Answers first (self.step call).2 (events ++ [(call, (self.step call).1)]) := by
  obtain ⟨hsettings, regions, hlists, hids⟩ := h
  refine ⟨(settings_syscall self call).trans hsettings, ?_⟩
  have hquiet : ∀ after, idsOf after = idsOf regions →
      sharedId (call, (self.step call).1) = none →
      idsOf after = sharedIds (events ++ [(call, (self.step call).1)]) := by
    intro after hafter hnone
    rw [hafter, hids, sharedIds, sharedIds, filterMap_snoc, hnone, Option.toList_none,
      List.append_nil]
  by_cases hshare : call.accepted = some .sysMemShare
  · rcases memShare_answer hlists hshare with
      ⟨hfailed, hmemory, -⟩ | ⟨region, hok, hvalue, hafter, -, -⟩
    · rw [hmemory]
      refine ⟨regions, hlists, hquiet regions rfl ?_⟩
      simp [sharedId, hfailed]
    · refine ⟨regions ++ [region], hafter, ?_⟩
      have hid : sharedId (call, (self.step call).1) = some region.handle.id := by
        simp [sharedId, hshare, hok, hvalue]
      rw [sharedIds, filterMap_snoc, hid, Option.toList_some, ← sharedIds, ← hids, idsOf,
        List.map_append]
      rfl
  · have hnone : sharedId (call, (self.step call).1) = none := by
      simp [sharedId, hshare]
    by_cases hseal : call.accepted = some .sysMemSeal
    · obtain ⟨-, after, hafter, hsame⟩ := memSeal_answer hlists hseal
      exact ⟨after, hafter, hquiet after hsame hnone⟩
    · rw [memory_of_other_call hshare hseal]
      exact ⟨regions, hlists, hquiet regions rfl hnone⟩

theorem Fresh.lists {self : Kernel} (h : self.Fresh) : self.memory.Lists [] := by
  rcases h with rfl | rfl
  · exact ⟨filledWith_replicate _, rfl, rfl⟩
  · rw [memory_initializeHost]
    exact ⟨filledWith_replicate _, rfl, rfl⟩

/--
After any run the completed shares have returned 1, 2, 3 and so on, one for each
region that the statistics count.  The next share completes exactly if its flags
are known, without the seal, its range lies in user memory, and fewer than 32
have completed; a seal completes exactly for an identifier that one of them has
returned.
-/
theorem memory_calls_answered (self : Kernel) (h : self.Fresh) (calls : List SyscallCall) :
    (sharedIds (history step self calls)).map UInt64.toNat =
        List.range' 1 (sharedIds (history step self calls)).length ∧
      (run step self calls).memory.stats.sharedRegionCount =
        (sharedIds (history step self calls)).length ∧
      (∀ call, call.accepted = some .sysMemShare →
        (((run step self calls).step call).1.status = .ok ↔
          Shareable new.memory call ∧
            (sharedIds (history step self calls)).length < 32)) ∧
      ∀ call, call.accepted = some .sysMemSeal →
        (((run step self calls).step call).1.status = .ok ↔
          call.frame.arg0 ∈ sharedIds (history step self calls)) := by
  have hstart : Answers new.memory self [] := ⟨h.memory.1, [], h.lists, rfl⟩
  obtain ⟨hsettings, regions, hlists, hids⟩ : Answers new.memory (run step self calls)
      (history step self calls) :=
    run_history_invariant (fun kernel events call h => h.step call) hstart calls
  have hlength : regions.length = (sharedIds (history step self calls)).length := by
    rw [← hids, idsOf, List.length_map]
  refine ⟨?_, ?_, fun call haccepted => ?_, fun call haccepted => ?_⟩
  · rw [← hlength, ← hids]
    exact hlists.numbered
  · rw [← hlength]
    exact hlists.count_eq
  · rw [← hlength]
    rcases memShare_answer hlists haccepted with
      ⟨hfailed, -, hrefused⟩ | ⟨region, hok, -, -, hshareable, hroom⟩
    · apply iff_of_false hfailed
      rintro ⟨hshareable, hroom⟩
      exact hrefused ⟨hshareable.congr hsettings.symm, hroom⟩
    · exact iff_of_true hok ⟨hshareable.congr hsettings, hroom⟩
  · rw [← hids]
    exact (memSeal_answer hlists haccepted).1

theorem memory_calls_answered_two :
    ((run step new.initializeHost.2
        [⟨.new .sysMemShare #v[0x1000, 64, 3, 0, 0, 0], .task 1 (.single .memoryShare)⟩,
          ⟨.new .sysMemShare #v[0, 64, 3, 0, 0, 0],
            .task 1 (.single .memoryShare)⟩]).step
        ⟨.new .sysMemSeal #v[1, 0, 0, 0, 0, 0],
          .task 2 (.single .memoryShare)⟩).1.status = .ok :=
  ((memory_calls_answered new.initializeHost.2 (.inr rfl) _).2.2.2
    ⟨.new .sysMemSeal #v[1, 0, 0, 0, 0, 0], .task 2 (.single .memoryShare)⟩ rfl).mpr
    (by decide +kernel)

end Kernel

end AlaniKernel
