import AlaniKernel.Kernel.Api
import AlaniKernel.Kernel.Atomicity

/-!
# What host initialization commits

Host initialization marks each phase as it ends and undoes nothing, so a
failure leaves the phases before the failing one complete.  From a boot that has
not started, only the allocator phase and the spawn of the runtime task can fail.
-/

namespace AlaniKernel

open AlaniKernel.Foundation

def phasesBefore (phase : BootPhase) : List BootPhase :=
  bootSequence.toList.takeWhile (· ≠ phase)

def latePhases : List BootPhase :=
  [.timer, .scheduler, .devices, .security, .audit, .syscalls]

def BootPhase.Idle (phase : BootPhase) : Prop := phase ≠ .allocator ∧ phase ≠ .runtimeSpawn

instance (phase : BootPhase) : Decidable phase.Idle := inferInstanceAs (Decidable (_ ∧ _))

theorem bootSequence_split : bootSequence.toList =
    phasesBefore .allocator ++ .allocator :: (latePhases ++ [.runtimeSpawn]) := by
  decide

theorem bootSequence_last : bootSequence.toList =
    phasesBefore .runtimeSpawn ++ .runtimeSpawn :: [] := by
  decide

def MemoryManager.PastBootBump (self : MemoryManager) : Prop :=
  self.allocatorPhase = .frame ∨ self.allocatorPhase = .heap

def Scheduler.NoRoom (self : Scheduler) : Prop :=
  (∀ i, self.Occupied i) ∨ 2 ^ 64 ≤ self.nextTaskId.toNat + 1

namespace Kernel

open BootProgress

/-- What a failed host initialization leaves behind. -/
inductive HostRefused (self : Kernel) : Kernel → Prop
  | started (hboot : self.boot ≠ .new) : HostRefused self self
  | allocator (boot : BootProgress) (hboot : self.boot = .new)
      (hphase : self.memory.PastBootBump)
      (hdone : Completes self.boot (phasesBefore .allocator) boot) :
      HostRefused self { self with boot }
  | spawn (boot : BootProgress) (nextTaskId : TaskId) (hboot : self.boot = .new)
      (hphase : ¬ self.memory.PastBootBump) (hroom : self.scheduler.NoRoom)
      (hdone : Completes self.boot (phasesBefore .runtimeSpawn) boot) :
      HostRefused self
        { self with
          boot
          memory := { self.memory with allocatorPhase := .heap }
          scheduler := { self.scheduler with nextTaskId } }

/-- What a successful host initialization has done. -/
structure HostInitialized (self next : Kernel) : Prop where
  fresh : self.boot = .new
  completes : Completes self.boot bootSequence.toList next.boot
  isComplete : next.boot.isComplete = true
  memory : next.memory = { self.memory with allocatorPhase := .heap }
  spawned : ∃ slot nextTaskId, ¬ self.scheduler.Occupied slot ∧
    next.scheduler = self.scheduler.withSpawned slot nextTaskId
      (.new self.scheduler.nextTaskId 0 .runtime defaultPriority .empty .unlimited)
  oneAdded : next.scheduler.occupied.card = self.scheduler.occupied.card + 1

/-! ## The phase bodies -/

theorem phaseBody_idle (self : Kernel) {phase : BootPhase} (h : phase.Idle) :
    self.phaseBody phase = (.ok (), self) := by
  cases phase with
  | allocator => exact absurd rfl h.1
  | runtimeSpawn => exact absurd rfl h.2
  | loaderHandoff | earlyConsole | cpuFeatures | memoryMap | paging | interrupts | timer
  | scheduler | devices | security | audit | syscalls => rfl

theorem completePhases_idle {self : Kernel} {phases : List BootPhase} {boot : BootProgress}
    (hidle : ∀ phase ∈ phases, phase.Idle) (h : Completes self.boot phases boot)
    (rest : List BootPhase) :
    self.completePhases (phases ++ rest) = { self with boot }.completePhases rest := by
  induction phases generalizing self with
  | nil =>
      have hsame : self.boot = boot := h
      rw [← hsame]
      rfl
  | cons phase phases ih =>
      obtain ⟨next, hnext, hrest⟩ := h
      have hbody := self.phaseBody_idle (hidle phase List.mem_cons_self)
      simp only [List.cons_append, completePhases, hbody, hnext]
      exact ih (fun later hlater => hidle later (List.mem_cons_of_mem phase hlater)) hrest

theorem phaseBody_allocator_past {self : Kernel} (h : self.memory.PastBootBump) :
    self.phaseBody .allocator = (.error .invalidState, self) := by
  rcases h with hphase | hphase <;>
    simp [phaseBody, advanceAllocator, MemoryManager.setAllocatorPhase,
      MemoryManager.isNextPhase, hphase]

theorem phaseBody_allocator {self : Kernel} (h : ¬ self.memory.PastBootBump) :
    self.phaseBody .allocator =
      (.ok (), { self with memory := { self.memory with allocatorPhase := .heap } }) := by
  cases hphase : self.memory.allocatorPhase with
  | uninitialized | bootBump =>
      simp [phaseBody, advanceAllocator, MemoryManager.setAllocatorPhase,
        MemoryManager.isNextPhase, hphase]
  | frame => exact absurd (.inl hphase) h
  | heap => exact absurd (.inr hphase) h

theorem phaseBody_runtimeSpawn {self : Kernel} (hself : self.scheduler.WellFormed) :
    (self.scheduler.NoRoom ∧ ∃ error nextTaskId, self.phaseBody .runtimeSpawn =
        (.error error, { self with scheduler := { self.scheduler with nextTaskId } })) ∨
      ∃ slot nextTaskId, ¬ self.scheduler.Occupied slot ∧ self.phaseBody .runtimeSpawn =
        (.ok (), { self with
          scheduler := self.scheduler.withSpawned slot nextTaskId
            (.new self.scheduler.nextTaskId 0 .runtime defaultPriority .empty
              .unlimited) }) := by
  rcases self.scheduler.spawn_cases 0 .runtime defaultPriority .empty .unlimited with
    ⟨hlast, hs⟩ | ⟨nextTaskId, -, ⟨error, hrefused, hs⟩ | ⟨slot, hfree, -, -, hs⟩⟩
  · left
    refine ⟨.inr hlast, .internal, self.scheduler.nextTaskId, ?_⟩
    simp only [phaseBody, hs]
  · left
    refine ⟨.inl (hself.spawn_refused hrefused).2, error, nextTaskId, ?_⟩
    simp only [phaseBody, hs]
  · right
    refine ⟨slot, nextTaskId, hfree, ?_⟩
    simp only [phaseBody, hs]

/-! ## The loop -/

theorem initializeHost_started {self : Kernel} (hself : self.boot.InOrder)
    (h : self.boot ≠ .new) : self.initializeHost = (.error .invalidState, self) := by
  have hfirst : bootSequence.toList = .loaderHandoff :: bootSequence.toList.tail := rfl
  have hbody := self.phaseBody_idle (show BootPhase.Idle .loaderHandoff by decide)
  have hrefused := complete_refused (hself.expected_ne_first h)
  rw [initializeHost, hfirst]
  simp only [completePhases, hbody, hrefused]

theorem initializeHost_new {self : Kernel} (h : self.boot = .new) :
    self.initializeHost =
      { self with boot := upTo (phasesBefore .allocator).length }.completePhases
        (.allocator :: (latePhases ++ [BootPhase.runtimeSpawn])) := by
  have hdone : Completes self.boot (phasesBefore .allocator)
      (upTo (phasesBefore .allocator).length) := by
    rw [h]
    exact completes_new bootSequence_split
  rw [initializeHost, bootSequence_split]
  exact completePhases_idle (by decide) hdone _

theorem initializeHost_past {self : Kernel} (h : self.boot = .new)
    (hpast : self.memory.PastBootBump) :
    self.initializeHost =
      (.error .invalidState,
        { self with boot := upTo (phasesBefore .allocator).length }) := by
  let started : Kernel := { self with boot := upTo (phasesBefore .allocator).length }
  have hbody : started.phaseBody .allocator = (.error .invalidState, started) :=
    phaseBody_allocator_past hpast
  rw [initializeHost_new h, completePhases, hbody]

theorem initializeHost_heap {self : Kernel} (h : self.boot = .new)
    (hpast : ¬ self.memory.PastBootBump) :
    self.initializeHost =
      { self with
        boot := upTo (phasesBefore .runtimeSpawn).length
        memory := { self.memory with allocatorPhase := .heap } }.completePhases
          [.runtimeSpawn] := by
  let started : Kernel := { self with boot := upTo (phasesBefore .allocator).length }
  let heaped : Kernel :=
    { started with memory := { self.memory with allocatorPhase := .heap } }
  have hbody : started.phaseBody .allocator = (.ok (), heaped) := phaseBody_allocator hpast
  have hnext : heaped.boot.complete .allocator =
      (.ok (), upTo ((phasesBefore .allocator).length + 1)) :=
    complete_upTo (expected_of_split bootSequence_split)
  have hsplit : bootSequence.toList =
      (phasesBefore .allocator ++ [.allocator]) ++ latePhases ++ [.runtimeSpawn] := by
    decide
  have hdone := completes_upTo hsplit
  rw [initializeHost_new h, completePhases, hbody]
  simp only [hnext]
  exact completePhases_idle (by decide) hdone _

theorem completePhases_runtimeSpawn (self : Kernel) (hself : self.scheduler.WellFormed)
    (hboot : self.boot = upTo (phasesBefore .runtimeSpawn).length) :
    (self.scheduler.NoRoom ∧ ∃ error nextTaskId, self.completePhases [.runtimeSpawn] =
        (.error error, { self with scheduler := { self.scheduler with nextTaskId } })) ∨
      ∃ slot nextTaskId, ¬ self.scheduler.Occupied slot ∧
        self.completePhases [.runtimeSpawn] =
          (.ok (), { self with
            boot := upTo bootPhaseCount
            scheduler := self.scheduler.withSpawned slot nextTaskId
              (.new self.scheduler.nextTaskId 0 .runtime defaultPriority .empty
                .unlimited) }) := by
  have hnext : self.boot.complete .runtimeSpawn = (.ok (), upTo bootPhaseCount) := by
    rw [hboot]
    exact complete_upTo (expected_of_split bootSequence_last)
  rcases phaseBody_runtimeSpawn hself with
    ⟨hroom, error, nextTaskId, hbody⟩ | ⟨slot, nextTaskId, hfree, hbody⟩
  · left
    refine ⟨hroom, error, nextTaskId, ?_⟩
    rw [completePhases, hbody]
  · right
    refine ⟨slot, nextTaskId, hfree, ?_⟩
    rw [completePhases, hbody]
    simp only [hnext, completePhases]

theorem initializeHost_outcome {self : Kernel} (hboot : self.boot.InOrder)
    (hself : self.scheduler.WellFormed) :
    (∃ error next, self.initializeHost = (.error error, next) ∧ self.HostRefused next) ∨
      ∃ next, self.initializeHost = (.ok (), next) ∧ self.HostInitialized next := by
  by_cases hnew : self.boot = .new
  · by_cases hpast : self.memory.PastBootBump
    · left
      have hdone : Completes self.boot (phasesBefore .allocator)
          (upTo (phasesBefore .allocator).length) := by
        rw [hnew]
        exact completes_new bootSequence_split
      exact ⟨_, _, initializeHost_past hnew hpast, .allocator _ hnew hpast hdone⟩
    · have hdone : Completes self.boot (phasesBefore .runtimeSpawn)
          (upTo (phasesBefore .runtimeSpawn).length) := by
        rw [hnew]
        exact completes_new bootSequence_last
      let heaped : Kernel :=
        { self with
          boot := upTo (phasesBefore .runtimeSpawn).length
          memory := { self.memory with allocatorPhase := .heap } }
      rw [initializeHost_heap hnew hpast]
      rcases completePhases_runtimeSpawn heaped hself rfl with
        ⟨hroom, error, nextTaskId, hs⟩ | ⟨slot, nextTaskId, hfree, hs⟩
      · left
        exact ⟨error, _, hs, .spawn _ nextTaskId hnew hpast hroom hdone⟩
      · right
        refine ⟨_, hs, ?_⟩
        exact
          { fresh := hnew
            completes := by
              rw [hnew]
              exact completes_new (List.append_nil _).symm
            isComplete := (isComplete_upTo _).mpr rfl
            memory := rfl
            spawned := ⟨slot, nextTaskId, hfree, rfl⟩
            oneAdded := Scheduler.card_occupied_withSpawned hfree nextTaskId _ }
  · left
    exact ⟨.invalidState, self, initializeHost_started hboot hnew, .started hnew⟩

/--
In every state that the public interface reaches, a failing host initialization
found a started boot and changed nothing, or leaves a fresh boot complete up to
the allocator or up to the runtime task; a successful one completes all phases
in their order from none and adds one task.
-/
theorem host_boot_commits_by_phase (ops : List KernelOp) :
    (∀ error, (run apply new ops).initializeHost.1 = .error error →
        (run apply new ops).HostRefused (run apply new ops).initializeHost.2) ∧
      ((run apply new ops).initializeHost.1 = .ok () →
        (run apply new ops).HostInitialized (run apply new ops).initializeHost.2) := by
  have hself : (run apply new ops).scheduler.WellFormed :=
    scheduler_run Scheduler.wellFormed_new (fun _ op h => h.step op) ops
  rcases initializeHost_outcome (boot_run ops) hself with
    ⟨reason, next, houtcome, hrefused⟩ | ⟨next, houtcome, hdone⟩
  · rw [houtcome]
    refine ⟨fun _ _ => hrefused, ?_⟩
    intro hok
    contradiction
  · rw [houtcome]
    refine ⟨?_, fun _ => hdone⟩
    intro error herror
    contradiction

def framedOps : List KernelOp :=
  [.memory (.setAllocatorPhase .bootBump), .memory (.setAllocatorPhase .frame),
    .scheduler (.spawn 0 .runtime 8 .empty .unlimited)]

theorem host_boot_commits_by_phase_framed :
    (run apply new framedOps).HostRefused (run apply new framedOps).initializeHost.2 ∧
      (run apply new []).HostInitialized (run apply new []).initializeHost.2 :=
  ⟨(host_boot_commits_by_phase framedOps).1 .invalidState (by decide +kernel),
    (host_boot_commits_by_phase []).2 (by decide +kernel)⟩

theorem not_host_boot_all_or_nothing :
    (run apply new framedOps).initializeHost.1 = .error .invalidState ∧
      (run apply new framedOps).initializeHost.2.boot ≠ (run apply new framedOps).boot := by
  decide +kernel

end Kernel

end AlaniKernel
