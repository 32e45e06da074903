import AlaniKernel.Foundation.Interval
import AlaniKernel.Kernel.Api
import AlaniKernel.Kernel.Registers

/-!
# The configured buffer limit

The configuration of a kernel names a maximum user buffer length, and the memory
manager checks ranges against a length of its own.  No operation carries one
over to the other, so the configured limit holds only as far as the settings of
the manager happen to keep within it.
-/

namespace AlaniKernel

open AlaniKernel.Foundation

namespace Kernel

/-! ## Calls that validate a range -/

def ValidatesRange (frame : SyscallFrame) : SyscallNumber → Prop
  | .sysInfo | .sysMemMap | .sysMemUnmap | .sysMemShare | .sysRandom => True
  | .sysTaskSpawn => frame.arg1 ≠ 0
  | _ => False

section Handlers

variable {self : Kernel} {frame : SyscallFrame}

theorem sysMemRange_ok_iff :
    (self.sysMemRange frame).status = .ok ↔
      self.memory.AcceptedRange frame.arg0 frame.arg1 := by
  rw [← self.memory.validateUserRange_iff, sysMemRange]
  cases self.memory.validateUserRange frame.arg0 frame.arg1 with
  | error error => simp [error.status_ne_ok]
  | ok => simp

theorem sysMemShare_ok {taskId : TaskId}
    (h : (self.sysMemShare frame taskId).1.status = .ok) :
    self.memory.AcceptedRange frame.arg0 frame.arg1 := by
  unfold sysMemShare at h
  cases hbits : MemoryPermissions.fromBits frame.arg2.toUInt32 with
  | error error =>
      simp only [hbits] at h
      exact absurd h error.status_ne_ok
  | ok permissions =>
      simp only [hbits] at h
      cases hshare : self.memory.shareRegion taskId frame.arg0 frame.arg1 permissions with
      | mk reply memory =>
          simp only [hshare] at h
          cases reply with
          | error error => exact absurd h error.status_ne_ok
          | ok handle =>
              exact MemoryManager.acceptedRange_of_shared (congrArg Prod.fst hshare)

theorem validateManifest_ok (hmanifest : frame.arg1 ≠ 0)
    (h : self.validateManifest frame = .ok ()) :
    self.memory.AcceptedRange frame.arg0 frame.arg1 := by
  rw [validateManifest, if_pos hmanifest] at h
  dsimp only at h
  cases hvalid : self.memory.validateUserBuffer
      (.new frame.arg0 frame.arg1 userBufferRead) .read with
  | error error => simp [hvalid] at h
  | ok validated => exact ((self.memory.validateUserBuffer_iff _ _ _).mp hvalid).2.2.2

theorem sysTaskSpawn_ok {context : DispatchContext} (hmanifest : frame.arg1 ≠ 0)
    (h : (self.sysTaskSpawn frame context).1.status = .ok) :
    self.memory.AcceptedRange frame.arg0 frame.arg1 := by
  apply validateManifest_ok hmanifest
  unfold sysTaskSpawn at h
  cases hvalid : self.validateManifest frame with
  | error error =>
      simp only [hvalid] at h
      exact absurd h error.status_ne_ok
  | ok => rfl

theorem acceptedRange_of_ok {number : SyscallNumber} {context : DispatchContext}
    (hnumber : frame.number = number.toUInt64) (hvalidates : ValidatesRange frame number)
    (hok : (self.handleSyscall frame context).1.status = .ok) :
    self.memory.AcceptedRange frame.arg0 frame.arg1 := by
  rw [result_of_ok hnumber hok] at hok
  cases number with
  | sysInfo =>
      by_contra hrange
      exact sysInfo_of_not_accepted (fun haccepted => hrange haccepted.2) hok
  | sysMemMap | sysMemUnmap => exact sysMemRange_ok_iff.mp hok
  | sysMemShare => exact sysMemShare_ok hok
  | sysRandom => exact (sysRandom_ok hok).1
  | sysTaskSpawn => exact sysTaskSpawn_ok hvalidates hok
  | _ => exact hvalidates.elim

end Handlers

/-! ## The settings that decide which ranges are accepted -/

/-- The configured limit beside the settings that the manager checks. -/
structure Limits extends MemoryManager.Settings where
  configured : UInt64
  deriving DecidableEq, Repr

def limits (self : Kernel) : Limits :=
  { self.memory.settings with configured := self.config.maxUserBufferLen }

/--
The manager accepts no longer buffers than the configuration, or none that is
longer fits between the first aligned address and the upper bound.
-/
def Limits.Agree (limits : Limits) : Prop :=
  limits.longest ≤ limits.configured ∨
    limits.upper.toNat ≤
      alignUp limits.alignment.toNat limits.lower.toNat + limits.configured.toNat

/-- No call that validates its range completes on a longer one than configured. -/
def LimitEnforced (self : Kernel) : Prop :=
  ∀ number frame context, frame.number = number.toUInt64 → ValidatesRange frame number →
    (self.handleSyscall frame context).1.status = .ok →
    frame.arg1 ≤ self.config.maxUserBufferLen

theorem guarded_memMap : SyscallDispatcher.Guarded .sysMemMap .memoryMap :=
  ⟨_, rfl, rfl, rfl, rfl, rfl⟩

theorem memMap_ok_of_accepted {self : Kernel} {ptr len : UInt64}
    (h : self.memory.AcceptedRange ptr len) :
    (self.handleSyscall (.new .sysMemMap #v[ptr, len, 0, 0, 0, 0])
      (.task 1 (.single .memoryMap))).1.status = .ok := by
  have haccepted : SyscallDispatcher.accepted (.new .sysMemMap #v[ptr, len, 0, 0, 0, 0])
      (.task 1 (.single .memoryMap)) = some .sysMemMap :=
    guarded_memMap.accepted_iff.mpr ⟨rfl, rfl, by decide⟩
  rw [(result_of_accepted haccepted).1]
  exact sysMemRange_ok_iff.mpr h

theorem accepted_of_disagree {self : Kernel} (h : self.memory.Configured)
    (hdisagree : ¬ self.limits.Agree) :
    ∃ ptr len, self.memory.AcceptedRange ptr len ∧ self.config.maxUserBufferLen < len := by
  simp only [Limits.Agree, limits, MemoryManager.settings, not_or, not_le] at hdisagree
  obtain ⟨hlonger, hroom⟩ := hdisagree
  rw [UInt64.le_iff_toNat_le, not_le] at hlonger
  have hpos := h.alignment_pos
  have hlongest := self.memory.maxUserBufferLen.toNat_lt
  have hupper := self.memory.userUpperBound.toNat_lt
  obtain ⟨ptr, hptr⟩ := exists_toNat_eq (n := alignUp
    self.memory.minimumUserAlignment.toNat self.memory.userLowerBound.toNat) (by omega)
  obtain ⟨len, hlen⟩ := exists_toNat_eq (n := self.config.maxUserBufferLen.toNat + 1)
    (by omega)
  refine ⟨ptr, len, (h.acceptedRange_iff ptr len).mpr ?_, ?_⟩
  · exact
      { nonempty := by omega
        short := by omega
        above := hptr ▸ le_alignUp hpos _
        below := by omega
        aligned := hptr ▸ dvd_alignUp _ _ }
  · rw [UInt64.lt_iff_toNat_lt]
    omega

theorem limitEnforced_iff {self : Kernel} (h : self.memory.Configured) :
    self.LimitEnforced ↔ self.limits.Agree := by
  constructor
  · intro henforced
    by_contra hdisagree
    obtain ⟨ptr, len, haccepted, hlonger⟩ := accepted_of_disagree h hdisagree
    have hle : len ≤ self.config.maxUserBufferLen :=
      henforced .sysMemMap _ _ rfl trivial (memMap_ok_of_accepted haccepted)
    exact absurd hlonger (UInt64.not_lt.mpr hle)
  · intro hagree number frame context hnumber hvalidates hok
    have hsafe := (h.acceptedRange_iff _ _).mp (acceptedRange_of_ok hnumber hvalidates hok)
    have hshort := hsafe.short
    have hbelow := hsafe.below
    have hstart := (alignUp_le_iff h.alignment_pos hsafe.aligned).mpr hsafe.above
    rw [UInt64.le_iff_toNat_le]
    rcases hagree with hle | hnarrow
    · exact hshort.trans (UInt64.le_iff_toNat_le.mp hle)
    · simp only [limits, MemoryManager.settings] at hnarrow
      omega

/-! ## Runs of the public interface -/

def setsLimits (self : Kernel) : KernelOp → Option Limits
  | .setConfig config => some { self.limits with configured := config.maxUserBufferLen }
  | .memory op => (self.memory.written op).map fun settings =>
      { settings with configured := self.limits.configured }
  | .renew .memory => some { new.limits with configured := self.limits.configured }
  | _ => none

theorem limits_memory (self : Kernel) (op : MemoryOp) :
    { self with memory := (self.memory.step op).2 }.limits =
      (self.setsLimits (.memory op)).getD self.limits := by
  have hsettings := (self.memory.settings_step op).2
  simp only [limits, hsettings, setsLimits]
  cases self.memory.written op <;> rfl

theorem limits_step (self : Kernel) (call : SyscallCall) :
    (self.step call).2.limits = self.limits := by
  have heffect := effect_step self call
  have hlimits : (self.step call).2.limits =
      { self with memory := (self.step call).2.memory }.limits := by
    simp only [limits, heffect.config]
  rw [hlimits, heffect.memory]
  cases hop : memoryOp call with
  | none => rfl
  | some op =>
      rw [Option.elim_some, limits_memory]
      rcases memoryOp_cases hop with ⟨-, ⟨permissions, rfl⟩ | ⟨-, rfl⟩⟩ <;> rfl

theorem limits_initializeHost (self : Kernel) :
    self.initializeHost.2.limits = self.limits := by
  have hboot : BootInvariant fun kernel => kernel.limits = self.limits :=
    { allocator := fun kernel phase h =>
        (kernel.limits_memory (.setAllocatorPhase phase)).trans h
      spawn := fun _ h => h
      complete := fun _ _ h => h }
  exact hboot.initializeHost rfl

theorem limits_apply (self : Kernel) (op : KernelOp) :
    (self.apply op).2.limits = (self.setsLimits op).getD self.limits := by
  cases op with
  | initializeHost => exact self.limits_initializeHost
  | handleSyscall call => exact self.limits_step call
  | memory op => exact self.limits_memory op
  | renew part => cases part <;> rfl
  | setConfig | completePhase | pushRegion | scheduler | registerDevice | appendEvent
  | recordFault => rfl

def KeepsLimit (self : Kernel) (op : KernelOp) : Prop :=
  ∀ limits, self.setsLimits op = some limits → limits.Agree

theorem keepsLimit_iff {self : Kernel} (h : self.limits.Agree) (op : KernelOp) :
    self.KeepsLimit op ↔ (self.apply op).2.limits.Agree := by
  rw [limits_apply, KeepsLimit]
  cases self.setsLimits op with
  | none => simpa using h
  | some limits => simp

theorem configured_reached (ops : List KernelOp) :
    (run apply new ops).memory.Configured :=
  memory_run MemoryManager.configured_new (fun _ op h => h.step op)
    (fun _ h => ⟨h.lower_pos, h.alignment⟩) (fun _ _ _ h => ⟨h.lower_pos, h.alignment⟩)

/--
The configured limit is enforced in a reachable kernel exactly when the settings
agree with it, and all along a run exactly when every operation that writes
settings leaves some that agree.
-/
theorem limit_enforced_iff (ops : List KernelOp) :
    ((run apply new ops).LimitEnforced ↔ (run apply new ops).limits.Agree) ∧
      (Along apply KeepsLimit new ops ↔
        ∀ taken, taken <+: ops → (run apply new taken).LimitEnforced) := by
  apply And.intro (limitEnforced_iff (configured_reached ops))
  have hnew : new.limits.Agree := .inl (UInt64.le_refl _)
  have hruns : Along apply KeepsLimit new ops ↔
      ∀ taken, taken <+: ops → (run apply new taken).limits.Agree :=
    along_iff_forall_prefix (I := fun kernel : Kernel => kernel.limits.Agree)
      (J := fun _ => True) (Q := fun _ _ => True) (fun _ _ _ => trivial)
      (fun _ op _ _ h => keepsLimit_iff h op) trivial hnew
      (along_of_forall (fun _ _ => trivial) _ _)
  rw [hruns]
  apply forall_congr'
  intro taken
  rw [limitEnforced_iff (configured_reached taken)]

def loweredLimit : List KernelOp := [.setConfig { maxUserBufferLen := 1 }]

theorem not_limit_enforced_loweredLimit : ¬ (run apply new loweredLimit).LimitEnforced := by
  intro h
  have hle := h .sysMemMap (.new .sysMemMap #v[0x1000, 16, 0, 0, 0, 0])
    (.task 1 (.single .memoryMap)) rfl trivial (by decide +kernel)
  revert hle
  decide +kernel

end Kernel

end AlaniKernel
