import AlaniKernel.Boot
import AlaniKernel.Foundation.Sequence
import AlaniKernel.Memory.Sharing

/-!
# Boot and allocator phases under arbitrary attempts

Both trackers accept a phase only after the one before it.  Whatever is tried in
between, they have come as far as the attempts contain the normative order.
-/

namespace AlaniKernel

open AlaniKernel.Foundation

namespace BootProgress

theorem complete_upTo_eq (n : Nat) (phase : BootPhase) :
    ((upTo n).complete phase).2 = upTo (advance bootSequence.toList n phase) := by
  by_cases hnext : bootSequence[n]? = some phase
  · rw [complete_upTo hnext, advance_of_expected (by rwa [Vector.getElem?_toList])]
  · rw [complete_refused (by rwa [nextExpected_upTo]),
      advance_of_other (by rwa [Vector.getElem?_toList])]

theorem run_complete (n : Nat) (attempts : List BootPhase) :
    run complete (upTo n) attempts =
      upTo (attempts.foldl (advance bootSequence.toList) n) := by
  induction attempts generalizing n with
  | nil => rfl
  | cons phase attempts ih => rw [run_cons, complete_upTo_eq, ih, List.foldl_cons]

/--
After any attempts, the phases of an initial part of the boot sequence are
complete exactly when that part was attempted in order.
-/
theorem completed_iff_attempted (attempts : List BootPhase) :
    (∀ k ≤ bootPhaseCount, k ≤ (run complete new attempts).completedCount ↔
        (bootSequence.toList.take k).Sublist attempts) ∧
      ((run complete new attempts).isComplete = true ↔
        bootSequence.toList.Sublist attempts) ∧
      ∀ i : Fin bootPhaseCount, (run complete new attempts).completed.get i = true ↔
        i.val < (run complete new attempts).completedCount := by
  have hlength : bootSequence.toList.length = bootPhaseCount := Vector.length_toList
  have hrun := run_complete 0 attempts
  rw [upTo_zero] at hrun
  have hreached : ∀ k ≤ bootPhaseCount,
      k ≤ attempts.foldl (advance bootSequence.toList) 0 ↔
        (bootSequence.toList.take k).Sublist attempts :=
    fun k hk => le_foldl_advance_zero_iff (hk.trans_eq hlength.symm) attempts
  have hle : attempts.foldl (advance bootSequence.toList) 0 ≤ bootPhaseCount :=
    (foldl_advance_le (Nat.zero_le _) attempts).trans_eq hlength
  rw [hrun]
  refine ⟨hreached, ?_, fun i => ?_⟩
  · rw [isComplete_upTo, ← bootSequence.toList.take_length, hlength,
      ← hreached bootPhaseCount (Nat.le_refl _)]
    exact ⟨fun h => h.ge, fun h => Nat.le_antisymm hle h⟩
  · simp only [upTo, completedCount, Vector.get, Vector.toArray_ofFn, Array.getElem_ofFn,
      decide_eq_true_eq]
    rfl

theorem completed_iff_attempted_twice :
    1 ≤ (run complete new [.loaderHandoff, .loaderHandoff]).completedCount ↔
      (bootSequence.toList.take 1).Sublist [.loaderHandoff, .loaderHandoff] :=
  (completed_iff_attempted _).1 1 (by decide)

end BootProgress

namespace MemoryManager

def allocatorSequence : List AllocatorPhase := [.bootBump, .frame, .heap]

def phaseRank : AllocatorPhase → Nat
  | .uninitialized => 0
  | .bootBump => 1
  | .frame => 2
  | .heap => 3

def requestedPhase : MemoryOp → Option AllocatorPhase
  | .setAllocatorPhase phase => some phase
  | _ => none

theorem phaseRank_setAllocatorPhase (self : MemoryManager) (phase : AllocatorPhase) :
    phaseRank (self.setAllocatorPhase phase).2.allocatorPhase =
      advance allocatorSequence (phaseRank self.allocatorPhase) phase := by
  unfold setAllocatorPhase
  cases hcurrent : self.allocatorPhase <;> cases phase <;>
    simp [isNextPhase, phaseRank, advance, allocatorSequence, hcurrent]

theorem allocatorPhase_step (self : MemoryManager) (op : MemoryOp) :
    phaseRank (self.step op).2.allocatorPhase =
      (requestedPhase op).elim (phaseRank self.allocatorPhase)
        (advance allocatorSequence (phaseRank self.allocatorPhase)) := by
  cases op with
  | setAllocatorPhase phase => exact self.phaseRank_setAllocatorPhase phase
  | shareRegion ownerTask start len permissions =>
      rcases self.shareRegion_cases ownerTask start len permissions with
        ⟨error, h⟩ | ⟨slot, nextSharedId, -, -, h⟩
      · simp only [step, h]
        rfl
      · simp only [step, h]
        rfl
  | sealSharedRegion handle =>
      rcases self.sealSharedRegion_cases handle with ⟨h, -⟩ | ⟨slot, -, -, h⟩
      · simp only [step, h]
        rfl
      · simp only [step, h]
        rfl
  | setUserBounds lower upper =>
      simp only [step, setUserBounds]
      split_ifs <;> rfl
  | setMaxUserBufferLen maxLen =>
      simp only [step, setMaxUserBufferLen]
      split_ifs <;> rfl
  | setMinimumUserAlignment alignment =>
      simp only [step, setMinimumUserAlignment]
      split_ifs <;> rfl

theorem allocatorPhase_run (self : MemoryManager) (ops : List MemoryOp) :
    phaseRank (run step self ops).allocatorPhase =
      (ops.filterMap requestedPhase).foldl (advance allocatorSequence)
        (phaseRank self.allocatorPhase) := by
  induction ops generalizing self with
  | nil => rfl
  | cons op ops ih =>
      rw [run_cons, ih, allocatorPhase_step]
      cases hop : requestedPhase op with
      | none => rw [List.filterMap_cons_none hop, Option.elim_none]
      | some phase => rw [List.filterMap_cons_some hop, Option.elim_some, List.foldl_cons]

/--
In any run the allocator has entered its first phases exactly when they were
asked for in order, whatever else was asked for or shared in between.
-/
theorem allocator_phase_iff_requested (ops : List MemoryOp) :
    (∀ k ≤ 3, k ≤ phaseRank (runNew ops).allocatorPhase ↔
        (allocatorSequence.take k).Sublist (ops.filterMap requestedPhase)) ∧
      ((runNew ops).allocatorPhase = .heap ↔
        allocatorSequence.Sublist (ops.filterMap requestedPhase)) := by
  have hrun : phaseRank (runNew ops).allocatorPhase =
      (ops.filterMap requestedPhase).foldl (advance allocatorSequence) 0 :=
    allocatorPhase_run new ops
  have hreached : ∀ k ≤ 3, k ≤ phaseRank (runNew ops).allocatorPhase ↔
      (allocatorSequence.take k).Sublist (ops.filterMap requestedPhase) := by
    intro k hk
    rw [hrun]
    exact le_foldl_advance_zero_iff hk _
  have hheap : (runNew ops).allocatorPhase = .heap ↔
      3 ≤ phaseRank (runNew ops).allocatorPhase := by
    cases (runNew ops).allocatorPhase <;> simp [phaseRank]
  exact ⟨hreached, hheap.trans (hreached 3 (Nat.le_refl _))⟩

theorem allocator_phase_iff_requested_early :
    3 ≤ phaseRank (runNew [.setAllocatorPhase .heap, .setAllocatorPhase .bootBump]).allocatorPhase ↔
      (allocatorSequence.take 3).Sublist ([MemoryOp.setAllocatorPhase .heap,
        .setAllocatorPhase .bootBump].filterMap requestedPhase) :=
  (allocator_phase_iff_requested _).1 3 (Nat.le_refl _)

end MemoryManager

end AlaniKernel
