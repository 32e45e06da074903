import AlaniKernel.Error

/-!
# Deterministic initialization phases
-/

namespace AlaniKernel

inductive BootPhase where
  | loaderHandoff
  | earlyConsole
  | cpuFeatures
  | memoryMap
  | paging
  | interrupts
  | allocator
  | timer
  | scheduler
  | devices
  | security
  | audit
  | syscalls
  | runtimeSpawn
  deriving DecidableEq, Repr

abbrev bootPhaseCount : Nat := 14

def bootSequence : Vector BootPhase bootPhaseCount :=
  #v[.loaderHandoff, .earlyConsole, .cpuFeatures, .memoryMap, .paging,
    .interrupts, .allocator, .timer, .scheduler, .devices, .security, .audit,
    .syscalls, .runtimeSpawn]

structure BootProgress where
  completed : Vector Bool bootPhaseCount
  nextIndex : Nat
  deriving DecidableEq

namespace BootProgress

def new : BootProgress :=
  { completed := Vector.replicate bootPhaseCount false, nextIndex := 0 }

def nextExpected (self : BootProgress) : Option BootPhase :=
  bootSequence[self.nextIndex]?

def complete (self : BootProgress) (phase : BootPhase) :
    KernelResult Unit × BootProgress :=
  match self.nextExpected with
  | none => (.error .invalidState, self)
  | some expected =>
      if expected ≠ phase then (.error .invalidState, self)
      else
        (.ok (),
          { completed := self.completed.setIfInBounds self.nextIndex true
            nextIndex := self.nextIndex + 1 })

def isComplete (self : BootProgress) : Bool :=
  self.nextIndex == bootPhaseCount

def completedCount (self : BootProgress) : Nat := self.nextIndex

/-! ## Progress as a prefix of the boot sequence -/

def upTo (n : Nat) : BootProgress :=
  { completed := Vector.ofFn fun i => decide (i.val < n), nextIndex := n }

@[simp] theorem nextIndex_upTo (n : Nat) : (upTo n).nextIndex = n := rfl

@[simp] theorem nextExpected_upTo (n : Nat) : (upTo n).nextExpected = bootSequence[n]? := rfl

theorem upTo_zero : upTo 0 = new := by decide

theorem isComplete_upTo (n : Nat) : (upTo n).isComplete = true ↔ n = bootPhaseCount := by
  simp [isComplete]

theorem complete_upTo {n : Nat} {phase : BootPhase} (h : bootSequence[n]? = some phase) :
    (upTo n).complete phase = (.ok (), upTo (n + 1)) := by
  have hmarked : (upTo n).completed.setIfInBounds n true = (upTo (n + 1)).completed := by
    ext i hi
    by_cases hmark : n = i
    · simp [upTo, hmark]
    · have hsame : (i < n) ↔ i < n + 1 := by omega
      simp [upTo, hmark, hsame]
  simp only [complete, nextExpected_upTo, h]
  rw [if_neg fun hne => hne rfl, nextIndex_upTo, hmarked]
  rfl

theorem complete_refused {self : BootProgress} {phase : BootPhase}
    (h : self.nextExpected ≠ some phase) :
    self.complete phase = (.error .invalidState, self) := by
  unfold complete
  split
  · rfl
  · next expected hexpected =>
      rw [if_pos]
      rintro rfl
      exact h hexpected

/-- The progress is a prefix of the boot sequence. -/
def InOrder (self : BootProgress) : Prop := ∃ n, self = upTo n

theorem inOrder_new : new.InOrder := ⟨0, upTo_zero.symm⟩

theorem InOrder.complete {self : BootProgress} (h : self.InOrder) (phase : BootPhase) :
    (self.complete phase).2.InOrder := by
  by_cases hnext : self.nextExpected = some phase
  · obtain ⟨n, rfl⟩ := h
    rw [nextExpected_upTo] at hnext
    rw [complete_upTo hnext]
    exact ⟨n + 1, rfl⟩
  · rw [complete_refused hnext]
    exact h

theorem InOrder.expected_ne_first {self : BootProgress} (h : self.InOrder)
    (hstarted : self ≠ new) : self.nextExpected ≠ some .loaderHandoff := by
  have hfirst : ∀ i : Fin bootPhaseCount, bootSequence[i] = .loaderHandoff → i = 0 := by
    decide
  obtain ⟨n, rfl⟩ := h
  intro hnext
  obtain ⟨hn, hphase⟩ := Vector.getElem?_eq_some_iff.mp hnext
  have hzero : n = 0 := congrArg Fin.val (hfirst ⟨n, hn⟩ hphase)
  rw [hzero, upTo_zero] at hstarted
  exact hstarted rfl

/-- The phases are marked complete one after the other, each when it is expected. -/
def Completes : BootProgress → List BootPhase → BootProgress → Prop
  | self, [], last => self = last
  | self, phase :: phases, last =>
      ∃ next, self.complete phase = (.ok (), next) ∧ Completes next phases last

theorem expected_of_split {done phases : List BootPhase} {phase : BootPhase}
    (h : bootSequence.toList = done ++ phase :: phases) :
    bootSequence[done.length]? = some phase := by
  rw [← Vector.getElem?_toList, h, List.getElem?_append_right (Nat.le_refl _), Nat.sub_self]
  rfl

theorem completes_upTo {done phases rest : List BootPhase}
    (h : bootSequence.toList = done ++ phases ++ rest) :
    Completes (upTo done.length) phases (upTo (done ++ phases).length) := by
  induction phases generalizing done with
  | nil =>
      rw [List.append_nil]
      rfl
  | cons phase phases ih =>
      rw [List.append_assoc] at h
      refine ⟨upTo (done.length + 1), complete_upTo (expected_of_split h), ?_⟩
      rw [List.append_cons]
      rw [← List.append_assoc, List.append_cons] at h
      simpa using ih h

theorem completes_new {phases rest : List BootPhase}
    (h : bootSequence.toList = phases ++ rest) :
    Completes new phases (upTo phases.length) := by
  have hsplit : bootSequence.toList = [] ++ phases ++ rest := by
    rw [h, List.nil_append]
  have hdone := completes_upTo hsplit
  rwa [List.nil_append, List.length_nil, upTo_zero] at hdone

end BootProgress

end AlaniKernel
