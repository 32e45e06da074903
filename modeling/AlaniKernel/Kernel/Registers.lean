import AlaniKernel.Kernel.Atomicity
import AlaniKernel.Kernel.Denials
import AlaniKernel.Memory.Validation

/-!
# Registers that a handler does not check in full

`sys_info` reports the size of a table whatever the length of the output
buffer, and the flag registers of `sys_info` and `sys_mem_share` are narrowed
before their reserved bits are checked.
-/

namespace AlaniKernel

open AlaniKernel.Foundation

theorem MemoryManager.shareRegion_invalid_iff (self : MemoryManager) (ownerTask : TaskId)
    (start len : UInt64) (permissions : MemoryPermissions) :
    (∃ error, (self.shareRegion ownerTask start len permissions).1 = .error error ∧
        error.status = .invalidArgument) ↔
      ¬ self.AcceptedRange start len ∨ permissions.contains .sealed = true := by
  unfold shareRegion
  cases hrange : self.validateUserRange start len with
  | error error =>
      apply iff_of_true ⟨error, rfl, validateUserRange_error hrange⟩
      left
      intro haccepted
      rw [(self.validateUserRange_iff start len).mpr haccepted] at hrange
      contradiction
  | ok =>
      have haccepted := (self.validateUserRange_iff start len).mp hrange
      by_cases hsealed : permissions.contains .sealed = true
      · exact iff_of_true ⟨.sealed, by simp [hsealed], rfl⟩ (.inr hsealed)
      · apply iff_of_false _ (by simp [haccepted, hsealed])
        simp only [hsealed, Bool.false_eq_true, if_false]
        cases position self.sharedRegions (·.handle.id == 0) with
        | none => simp [KernelError.status]
        | some slot =>
            cases checkedAdd64 self.nextSharedId 1 with
            | none => simp [KernelError.status]
            | some nextSharedId => simp

namespace Kernel

theorem status_of_not_accepted {self : Kernel} {frame : SyscallFrame}
    {context : DispatchContext}
    (h : SyscallDispatcher.accepted frame context = none) :
    (self.handleSyscall frame context).1.status ≠ .ok := by
  cases hvalid : SyscallDispatcher.validate frame context with
  | ok descriptor =>
      rw [SyscallDispatcher.accepted_of_ok hvalid] at h
      contradiction
  | error error =>
      rw [handleSyscall_of_rejected hvalid]
      exact error.status_ne_ok

theorem result_of_accepted {self : Kernel} {frame : SyscallFrame}
    {context : DispatchContext} {number : SyscallNumber}
    (h : SyscallDispatcher.accepted frame context = some number) :
    (self.handleSyscall frame context).1 =
        (self.dispatchValidated number frame context).1 ∧
      (self.handleSyscall frame context).2.memory =
        (self.dispatchValidated number frame context).2.memory := by
  cases hvalid : SyscallDispatcher.validate frame context with
  | error error =>
      rw [SyscallDispatcher.accepted_of_error hvalid] at h
      contradiction
  | ok descriptor =>
      rw [SyscallDispatcher.accepted_of_ok hvalid, Option.some.injEq] at h
      subst h
      rw [handleSyscall_of_validated hvalid]
      exact ⟨rfl, rfl⟩

theorem result_of_ok {self : Kernel} {frame : SyscallFrame} {context : DispatchContext}
    {number : SyscallNumber} (hnumber : frame.number = number.toUInt64)
    (hok : (self.handleSyscall frame context).1.status = .ok) :
    (self.handleSyscall frame context).1 =
      (self.dispatchValidated number frame context).1 := by
  cases haccepted : SyscallDispatcher.accepted frame context with
  | none => exact absurd hok (status_of_not_accepted haccepted)
  | some named =>
      obtain rfl := SyscallDispatcher.accepted_of_number hnumber haccepted
      exact (result_of_accepted haccepted).1

/-! ## The reported length -/

def InfoAccepted (self : Kernel) (frame : SyscallFrame) : Prop :=
  MemoryManager.PermittedFlags frame.arg2.toUInt32 .write ∧
    self.memory.AcceptedRange frame.arg0 frame.arg1

theorem sysInfo_of_accepted {self : Kernel} {frame : SyscallFrame}
    (h : self.InfoAccepted frame) :
    self.sysInfo frame = .ok alaniAbiVersion.packed sizeOfSyscallTableInfo := by
  have hvalid := (self.memory.validateUserBuffer_iff (infoBuffer frame) .write _).mpr
    ⟨rfl, rfl, h.1, h.2⟩
  change self.memory.validateUserBuffer
    (.new frame.arg0 frame.arg1 frame.arg2.toUInt32) .write = _ at hvalid
  simp only [sysInfo, hvalid]

theorem sysInfo_of_not_accepted {self : Kernel} {frame : SyscallFrame}
    (h : ¬ self.InfoAccepted frame) : (self.sysInfo frame).status ≠ .ok := by
  unfold sysInfo
  dsimp only
  cases hvalid : self.memory.validateUserBuffer
      (.new frame.arg0 frame.arg1 frame.arg2.toUInt32) .write with
  | error error => exact error.status_ne_ok
  | ok validated =>
      obtain ⟨-, -, hflags, hrange⟩ :=
        (self.memory.validateUserBuffer_iff _ _ _).mp hvalid
      exact absurd ⟨hflags, hrange⟩ h

theorem sysRandom_ok {self : Kernel} {frame : SyscallFrame}
    (h : (self.sysRandom frame).status = .ok) :
    self.memory.AcceptedRange frame.arg0 frame.arg1 ∧
      (self.sysRandom frame).detail = frame.arg1 := by
  unfold sysRandom at h ⊢
  dsimp only at h ⊢
  cases hvalid : self.memory.validateUserBuffer
      (.new frame.arg0 frame.arg1 userBufferWrite) .write with
  | error error =>
      simp only [hvalid] at h
      exact absurd h error.status_ne_ok
  | ok validated =>
      obtain ⟨rfl, -, -, hrange⟩ :=
        (self.memory.validateUserBuffer_iff _ _ _).mp hvalid
      exact ⟨hrange, rfl⟩

/-- A call that completes reports a count of bytes within its validated buffer. -/
def ReportFits (self : Kernel) (frame : SyscallFrame) (context : DispatchContext) : Prop :=
  (self.handleSyscall frame context).1.status = .ok →
    (self.handleSyscall frame context).1.detail.toNat ≤ frame.arg1.toNat ∧
      ∀ address, frame.arg0.toNat ≤ address →
        address < frame.arg0.toNat +
          (self.handleSyscall frame context).1.detail.toNat →
        address < frame.arg0.toNat + frame.arg1.toNat ∧
          self.memory.userLowerBound.toNat ≤ address ∧
          address < self.memory.userUpperBound.toNat

def ShortInfo (self : Kernel) (frame : SyscallFrame) : Prop :=
  frame.number = SyscallNumber.sysInfo.toUInt64 ∧ self.InfoAccepted frame ∧
    frame.arg1.toNat < 32

theorem reportFits_of_le {self : Kernel} {frame : SyscallFrame}
    {context : DispatchContext}
    (hrange : self.memory.AcceptedRange frame.arg0 frame.arg1)
    (hle : (self.handleSyscall frame context).1.detail.toNat ≤ frame.arg1.toNat) :
    self.ReportFits frame context := by
  intro _
  refine ⟨hle, fun address hfirst hlast => ?_⟩
  have hbounds := hrange.contained.2 address hfirst (by omega)
  exact ⟨by omega, hbounds⟩

/--
The reported length fits the validated one except for `sys_info`, whose handler
reports the size of the table for every accepted length.
-/
theorem reportFits_iff (self : Kernel) (frame : SyscallFrame) (context : DispatchContext)
    (hnumber : frame.number = SyscallNumber.sysInfo.toUInt64 ∨
      frame.number = SyscallNumber.sysRandom.toUInt64) :
    self.ReportFits frame context ↔ ¬ self.ShortInfo frame := by
  rcases hnumber with hinfo | hrandom
  · have hresult : (self.handleSyscall frame context).1 = self.sysInfo frame :=
      (result_of_accepted (SyscallDispatcher.accepted_sysInfo hinfo context)).1
    by_cases haccepted : self.InfoAccepted frame
    · have hreport := sysInfo_of_accepted haccepted
      constructor
      · rintro hfits ⟨-, -, hshort⟩
        rw [ReportFits, hresult, hreport] at hfits
        have hle : (32 : Nat) ≤ frame.arg1.toNat := (hfits rfl).1
        omega
      · intro hlong
        apply reportFits_of_le haccepted.2
        rw [hresult, hreport]
        change (32 : Nat) ≤ frame.arg1.toNat
        by_contra hshort
        exact hlong ⟨hinfo, haccepted, not_le.mp hshort⟩
    · apply iff_of_true
      · intro hok
        rw [hresult] at hok
        exact absurd hok (sysInfo_of_not_accepted haccepted)
      · exact fun hshort => haccepted hshort.2.1
  · have hother : ¬ self.ShortInfo frame := by
      rintro ⟨hinfo, -, -⟩
      rw [hinfo] at hrandom
      contradiction
    apply iff_of_true _ hother
    intro hok
    have hresult : (self.handleSyscall frame context).1 = self.sysRandom frame :=
      result_of_ok hrandom hok
    have hvalid := hok
    rw [hresult] at hvalid
    obtain ⟨hrange, hdetail⟩ := sysRandom_ok hvalid
    apply reportFits_of_le hrange _ hok
    rw [hresult, hdetail]

theorem reportFits_random :
    new.ReportFits (.new .sysRandom #v[0x1000, 16, 0, 0, 0, 0]) (.task 1 .empty) :=
  (reportFits_iff new _ _ (.inr rfl)).mpr fun h => absurd h.1 (by decide)

theorem not_reportFits_one_byte :
    ¬ new.ReportFits (.new .sysInfo #v[0x1000, 1, 2, 0, 0, 0]) (.task 1 .empty) := by
  intro h
  have hfits := (h (by decide)).1
  revert hfits
  decide

/-! ## Reserved flag bits -/

def knownFlags : SyscallNumber → Option UInt32
  | .sysMemShare => some MemoryPermissions.knownBits
  | .sysInfo => some userBufferKnownFlags
  | _ => none

/--
A call that sets a bit outside the known ones does not complete, and if the
dispatcher accepts it, it is refused for its arguments and shares nothing.
-/
def ReservedRefused (self : Kernel) (frame : SyscallFrame) (context : DispatchContext) :
    Prop :=
  ∀ number known, frame.number = number.toUInt64 → knownFlags number = some known →
    frame.arg2 &&& ~~~known.toUInt64 ≠ 0 →
    (self.handleSyscall frame context).1.status ≠ .ok ∧
      (SyscallDispatcher.accepted frame context = some number →
        (self.handleSyscall frame context).1.status = .invalidArgument ∧
          (self.handleSyscall frame context).2.memory.sharedRegions =
            self.memory.sharedRegions)

def NarrowedInfo (self : Kernel) (frame : SyscallFrame) : Prop :=
  frame.number = SyscallNumber.sysInfo.toUInt64 ∧ 2 ^ 32 ≤ frame.arg2.toNat ∧
    (infoBuffer frame).hasUnknownFlags = false ∧
    ((infoBuffer frame).isWritable = true → self.memory.AcceptedRange frame.arg0 frame.arg1)

def NarrowedShare (self : Kernel) (frame : SyscallFrame) (context : DispatchContext) :
    Prop :=
  (frame.number = SyscallNumber.sysMemShare.toUInt64 ∧ context.execution = .task ∧
      context.capabilities.contains .memoryShare = true) ∧
    2 ^ 32 ≤ frame.arg2.toNat ∧
    frame.arg2.toUInt32 &&& ~~~MemoryPermissions.knownBits = 0 ∧
    MemoryPermissions.contains ⟨frame.arg2.toUInt32⟩ .sealed = false ∧
    self.memory.AcceptedRange frame.arg0 frame.arg1

theorem infoAccepted_iff (self : Kernel) (frame : SyscallFrame) :
    self.InfoAccepted frame ↔
      (infoBuffer frame).hasUnknownFlags = false ∧
        (infoBuffer frame).isWritable = true ∧
        self.memory.AcceptedRange frame.arg0 frame.arg1 := by
  have hknown : (infoBuffer frame).hasUnknownFlags = false ↔
      frame.arg2.toUInt32 &&& ~~~userBufferKnownFlags = 0 := by
    simp [UserBuffer.hasUnknownFlags, infoBuffer, UserBuffer.new]
  have hwritable : (infoBuffer frame).isWritable = true ↔
      frame.arg2.toUInt32 &&& userBufferWrite = userBufferWrite := by
    have hbit := UserBuffer.writable_iff frame.arg2.toUInt32
    rw [← not_iff_not, ← ne_eq (frame.arg2.toUInt32 &&& userBufferWrite), hbit]
    simp [UserBuffer.isWritable, infoBuffer, UserBuffer.new]
  rw [hknown, hwritable]
  constructor
  · rintro ⟨hflags, hrange⟩
    exact ⟨hflags.known, hflags.directed, hrange⟩
  · rintro ⟨hflags, hdirected, hrange⟩
    exact ⟨⟨hflags, hdirected⟩, hrange⟩

theorem sysInfo_status (self : Kernel) (frame : SyscallFrame) :
    (self.sysInfo frame).status = .ok ∨ (self.sysInfo frame).status = .invalidArgument ∨
      (self.sysInfo frame).status = .permissionDenied := by
  unfold sysInfo
  dsimp only
  cases hvalid : self.memory.validateUserBuffer
      (.new frame.arg0 frame.arg1 frame.arg2.toUInt32) .write with
  | ok validated => exact .inl rfl
  | error error => exact .inr (MemoryManager.validateUserBuffer_error hvalid)

theorem sysInfo_invalid_iff (self : Kernel) (frame : SyscallFrame) :
    (self.sysInfo frame).status = .invalidArgument ↔
      (infoBuffer frame).hasUnknownFlags = true ∨
        (infoBuffer frame).isWritable = true ∧
          ¬ self.memory.AcceptedRange frame.arg0 frame.arg1 := by
  have hstatus := self.sysInfo_status frame
  have hdenied := self.sysInfo_denied_iff frame
  have haccepted := self.infoAccepted_iff frame
  constructor
  · intro hinvalid
    have hrefused : ¬ self.InfoAccepted frame := by
      intro h
      rw [sysInfo_of_accepted h] at hinvalid
      contradiction
    rw [hinvalid] at hdenied
    rw [haccepted] at hrefused
    cases hknown : (infoBuffer frame).hasUnknownFlags <;>
      cases hwritable : (infoBuffer frame).isWritable <;> simp_all
  · intro h
    have hnot_ok : (self.sysInfo frame).status ≠ .ok := by
      apply sysInfo_of_not_accepted
      rw [haccepted]
      rintro ⟨hknown, -, hrange⟩
      rcases h with hunknown | ⟨-, hoff⟩
      · rw [hunknown] at hknown
        contradiction
      · exact hoff hrange
    have hnot_denied : (self.sysInfo frame).status ≠ .permissionDenied := by
      rw [ne_eq, hdenied]
      rintro ⟨hknown, hreadonly⟩
      rcases h with hunknown | ⟨hwritable, -⟩
      · rw [hunknown] at hknown
        contradiction
      · rw [hwritable] at hreadonly
        contradiction
    rcases hstatus with hok | hinvalid | hd
    · exact absurd hok hnot_ok
    · exact hinvalid
    · exact absurd hd hnot_denied

theorem sysMemShare_invalid_iff (self : Kernel) (frame : SyscallFrame) (taskId : TaskId) :
    (self.sysMemShare frame taskId).1.status = .invalidArgument ↔
      frame.arg2.toUInt32 &&& ~~~MemoryPermissions.knownBits ≠ 0 ∨
        ¬ self.memory.AcceptedRange frame.arg0 frame.arg1 ∨
        MemoryPermissions.contains ⟨frame.arg2.toUInt32⟩ .sealed = true := by
  unfold sysMemShare MemoryPermissions.fromBits
  by_cases hknown : frame.arg2.toUInt32 &&& ~~~MemoryPermissions.knownBits = 0
  · have hshare := self.memory.shareRegion_invalid_iff taskId frame.arg0 frame.arg1
      ⟨frame.arg2.toUInt32⟩
    rw [if_pos hknown, ← hshare]
    simp only [ne_eq, hknown, not_true_eq_false, false_or]
    generalize self.memory.shareRegion taskId frame.arg0 frame.arg1
      ⟨frame.arg2.toUInt32⟩ = outcome
    obtain ⟨reply, memory⟩ := outcome
    cases reply with
    | ok handle => simp
    | error error => simp
  · rw [if_neg hknown]
    exact iff_of_true rfl (.inl hknown)

theorem knownFlags_some {number : SyscallNumber} {known : UInt32}
    (h : knownFlags number = some known) :
    number = .sysMemShare ∧ known = MemoryPermissions.knownBits ∨
      number = .sysInfo ∧ known = userBufferKnownFlags := by
  unfold knownFlags at h
  split at h
  · cases h
    exact .inl ⟨rfl, rfl⟩
  · cases h
    exact .inr ⟨rfl, rfl⟩
  · contradiction

theorem reservedRefused_iff_invalid (self : Kernel) (frame : SyscallFrame)
    (context : DispatchContext) :
    self.ReservedRefused frame context ↔
      ∀ number known, SyscallDispatcher.accepted frame context = some number →
        knownFlags number = some known → frame.arg2 &&& ~~~known.toUInt64 ≠ 0 →
        (self.handleSyscall frame context).1.status = .invalidArgument := by
  constructor
  · intro h number known haccepted hknown hwide
    have hnumber := SyscallDispatcher.accepted_number haccepted
    exact ((h number known hnumber hknown hwide).2 haccepted).1
  · intro h number known hnumber hknown hwide
    cases haccepted : SyscallDispatcher.accepted frame context with
    | none =>
        exact ⟨status_of_not_accepted haccepted, fun hsome => nomatch hsome⟩
    | some found =>
        obtain rfl := SyscallDispatcher.accepted_of_number hnumber haccepted
        have hinvalid := h found known haccepted hknown hwide
        have hfailed : (self.handleSyscall frame context).1.status ≠ .ok := by
          rw [hinvalid]
          decide
        have hmemory : (self.step ⟨frame, context⟩).2.memory = self.memory :=
          memory_of_failed hfailed
        rw [step] at hmemory
        exact ⟨hfailed, fun _ => ⟨hinvalid, by rw [hmemory]⟩⟩

/--
Reserved bits are refused at full width, but for the calls whose low half is
well formed and meets no other check that refuses the arguments.
-/
theorem reservedRefused_iff (self : Kernel) (frame : SyscallFrame)
    (context : DispatchContext) :
    self.ReservedRefused frame context ↔
      ¬ self.NarrowedInfo frame ∧ ¬ self.NarrowedShare frame context := by
  rw [reservedRefused_iff_invalid]
  constructor
  · intro h
    constructor
    · rintro ⟨hnumber, hhigh, hknown, hrange⟩
      have haccepted := SyscallDispatcher.accepted_sysInfo hnumber context
      have hwide : frame.arg2 &&& ~~~userBufferKnownFlags.toUInt64 ≠ 0 := by
        rw [ne_eq, and_not_toUInt64_eq_zero_iff]
        omega
      have hinvalid := h .sysInfo _ haccepted rfl hwide
      rw [(result_of_accepted haccepted).1] at hinvalid
      rcases (self.sysInfo_invalid_iff frame).mp hinvalid with hunknown | ⟨hwritable, hoff⟩
      · rw [hunknown] at hknown
        contradiction
      · exact hoff (hrange hwritable)
    · rintro ⟨hguard, hhigh, hknown, hopen, hrange⟩
      have haccepted := SyscallDispatcher.guarded_memShare.accepted_iff.mpr hguard
      have hwide : frame.arg2 &&& ~~~MemoryPermissions.knownBits.toUInt64 ≠ 0 := by
        rw [ne_eq, and_not_toUInt64_eq_zero_iff]
        omega
      have hinvalid := h .sysMemShare _ haccepted rfl hwide
      rw [(result_of_accepted haccepted).1] at hinvalid
      rcases (self.sysMemShare_invalid_iff frame context.taskId).mp hinvalid with
        hunknown | hoff | hsealed
      · exact hunknown hknown
      · exact hoff hrange
      · rw [hsealed] at hopen
        contradiction
  · rintro ⟨hinfo, hshare⟩ number known haccepted hflags hwide
    have hnumber := SyscallDispatcher.accepted_number haccepted
    have hhigh : frame.arg2.toUInt32 &&& ~~~known = 0 → 2 ^ 32 ≤ frame.arg2.toNat := by
      intro hlow
      rw [ne_eq, and_not_toUInt64_eq_zero_iff] at hwide
      exact not_lt.mp fun hlt => hwide ⟨hlow, hlt⟩
    rw [(result_of_accepted haccepted).1]
    rcases knownFlags_some hflags with ⟨rfl, rfl⟩ | ⟨rfl, rfl⟩
    · rw [dispatchValidated, sysMemShare_invalid_iff]
      by_contra hvalid
      simp only [not_or, ne_eq, not_not, Bool.not_eq_true] at hvalid
      obtain ⟨hlow, hrange, hopen⟩ := hvalid
      exact hshare ⟨SyscallDispatcher.guarded_memShare.accepted_iff.mp haccepted,
        hhigh hlow, hlow, hopen, hrange⟩
    · rw [dispatchValidated, sysInfo_invalid_iff]
      by_contra hvalid
      simp only [not_or, not_and, not_not, Bool.not_eq_true] at hvalid
      obtain ⟨hknown, hrange⟩ := hvalid
      have hlow : frame.arg2.toUInt32 &&& ~~~userBufferKnownFlags = 0 := by
        simpa [UserBuffer.hasUnknownFlags, infoBuffer, UserBuffer.new] using hknown
      exact hinfo ⟨hnumber, hhigh hlow, hknown, hrange⟩

theorem not_reservedRefused_bit_32 :
    ¬ new.ReservedRefused (.new .sysInfo #v[0x1000, 128, 0x100000002, 0, 0, 0])
      (.task 1 .empty) := by
  intro h
  have hfailed := (h .sysInfo userBufferKnownFlags rfl rfl (by decide)).1
  exact hfailed (by decide)

end Kernel

end AlaniKernel
