import AlaniKernel.Memory.Sharing

/-!
# Which user buffers are accepted

The checks of a user range compute in words.  Under the settings that the
setters allow they decide a condition on numbers.
-/

namespace AlaniKernel

open AlaniKernel.Foundation

namespace MemoryManager

/-- The range lies in the user bounds, is not too long, and starts aligned. -/
structure SafeRange (memory : MemoryManager) (ptr len : UInt64) : Prop where
  nonempty : 1 ≤ len.toNat
  short : len.toNat ≤ memory.maxUserBufferLen.toNat
  above : memory.userLowerBound.toNat ≤ ptr.toNat
  below : ptr.toNat + len.toNat ≤ memory.userUpperBound.toNat
  aligned : memory.minimumUserAlignment.toNat ∣ ptr.toNat

structure Configured (memory : MemoryManager) : Prop where
  lower_pos : 0 < memory.userLowerBound.toNat
  alignment : memory.minimumUserAlignment.toNat.isPowerOfTwo

theorem configured_new : new.Configured :=
  { lower_pos := by decide
    alignment := Nat.isPowerOfTwo_one }

theorem Configured.alignment_pos {memory : MemoryManager} (h : memory.Configured) :
    0 < memory.minimumUserAlignment.toNat := by
  obtain ⟨k, hk⟩ := h.alignment
  rw [hk]
  exact Nat.two_pow_pos k

theorem isPowerOfTwo_toNat {value : UInt64} (h : isPowerOfTwo value = true) :
    value.toNat.isPowerOfTwo := by
  simp only [isPowerOfTwo, Bool.and_eq_true, bne_iff_ne, beq_iff_eq] at h
  exact isPowerOfTwo_of_and_pred h.1 h.2

theorem Configured.step {self : MemoryManager} (h : self.Configured) (op : MemoryOp) :
    (self.step op).2.Configured := by
  constructor
  · rw [lower_step]
    cases op with
    | setUserBounds lower upper =>
        simp only [written]
        split_ifs with hinvalid
        · exact h.lower_pos
        · rw [not_or, ← ne_eq, ← UInt64.toNat_inj.ne] at hinvalid
          exact Nat.pos_of_ne_zero hinvalid.1
    | setMaxUserBufferLen | setMinimumUserAlignment =>
        simp only [written]
        split_ifs <;> exact h.lower_pos
    | shareRegion | sealSharedRegion | setAllocatorPhase => exact h.lower_pos
  · rw [alignment_step]
    cases op with
    | setMinimumUserAlignment alignment =>
        simp only [written]
        split_ifs with hinvalid
        · exact h.alignment
        · simp only [not_or, Bool.not_eq_true', Bool.not_eq_false] at hinvalid
          exact isPowerOfTwo_toNat hinvalid.2
    | setUserBounds | setMaxUserBufferLen =>
        simp only [written]
        split_ifs <;> exact h.alignment
    | shareRegion | sealSharedRegion | setAllocatorPhase => exact h.alignment

/-- What the checks of a range amount to, whatever the settings are. -/
structure AcceptedRange (memory : MemoryManager) (ptr len : UInt64) : Prop where
  nonnull : ptr ≠ 0
  nonempty : 1 ≤ len.toNat
  short : len.toNat ≤ memory.maxUserBufferLen.toNat
  above : memory.userLowerBound.toNat ≤ ptr.toNat
  below : ptr.toNat + len.toNat ≤ memory.userUpperBound.toNat
  masked : ptr &&& (memory.minimumUserAlignment - 1) = 0

/-- The end that the checks compare exists, since an accepted range cannot wrap. -/
theorem validateUserRange_iff (self : MemoryManager) (ptr len : UInt64) :
    self.validateUserRange ptr len = .ok () ↔ self.AcceptedRange ptr len := by
  have hupper := self.userUpperBound.toNat_lt
  unfold validateUserRange
  by_cases hempty : ptr = 0 ∨ len = 0
  · rw [if_pos hempty]
    apply iff_of_false (by simp)
    rintro ⟨hnonnull, hnonempty, -, -, -, -⟩
    rcases hempty with hzero | rfl
    · exact hnonnull hzero
    · simp at hnonempty
  · rw [if_neg hempty]
    by_cases hlarge : self.maxUserBufferLen < len
    · rw [if_pos hlarge]
      apply iff_of_false (by simp)
      rintro ⟨-, -, hshort, -, -, -⟩
      rw [UInt64.lt_iff_toNat_lt] at hlarge
      omega
    · rw [if_neg hlarge]
      cases hend : checkedAdd64 ptr len with
      | none =>
          apply iff_of_false (by simp)
          rintro ⟨-, -, -, -, hbelow, -⟩
          have hwraps := checkedAdd64_eq_none_iff.mp hend
          omega
      | some rangeEnd =>
          have hsum := checkedAdd64_eq_some_iff.mp hend
          by_cases houtside : ptr < self.userLowerBound ∨ self.userUpperBound < rangeEnd
          · simp only [if_pos houtside]
            apply iff_of_false (by simp)
            rintro ⟨-, -, -, habove, hbelow, -⟩
            rw [UInt64.lt_iff_toNat_lt, UInt64.lt_iff_toNat_lt] at houtside
            omega
          · simp only [if_neg houtside]
            by_cases hmasked : ptr &&& (self.minimumUserAlignment - 1) = 0
            · rw [if_neg (not_not.mpr hmasked)]
              apply iff_of_true rfl
              rw [not_or, ← ne_eq, ← ne_eq] at hempty
              rw [not_or, UInt64.lt_iff_toNat_lt, UInt64.lt_iff_toNat_lt] at houtside
              rw [UInt64.lt_iff_toNat_lt] at hlarge
              exact
                { nonnull := hempty.1
                  nonempty := Nat.pos_of_ne_zero (UInt64.toNat_inj.ne.mpr hempty.2)
                  short := not_lt.mp hlarge
                  above := not_lt.mp houtside.1
                  below := hsum ▸ not_lt.mp houtside.2
                  masked := hmasked }
            · rw [if_pos hmasked]
              apply iff_of_false (by simp)
              exact fun haccepted => hmasked haccepted.masked

theorem acceptedRange_of_shared {self : MemoryManager} {ownerTask : TaskId}
    {start len : UInt64} {permissions : MemoryPermissions} {handle : SharedMemoryHandle}
    (h : (self.shareRegion ownerTask start len permissions).1 = .ok handle) :
    self.AcceptedRange start len := by
  rw [← self.validateUserRange_iff]
  unfold shareRegion at h
  cases hrange : self.validateUserRange start len with
  | error error => simp [hrange] at h
  | ok => rfl

theorem Configured.acceptedRange_iff {self : MemoryManager} (h : self.Configured)
    (ptr len : UInt64) : self.AcceptedRange ptr len ↔ self.SafeRange ptr len := by
  have hmask := and_pred_eq_zero_iff h.alignment ptr
  constructor
  · intro haccepted
    exact
      { nonempty := haccepted.nonempty
        short := haccepted.short
        above := haccepted.above
        below := haccepted.below
        aligned := hmask.mp haccepted.masked }
  · intro hsafe
    have hlower := h.lower_pos
    have habove := hsafe.above
    have hnonnull : ptr ≠ 0 := by
      rintro rfl
      rw [UInt64.toNat_zero] at habove
      omega
    exact
      { nonnull := hnonnull
        nonempty := hsafe.nonempty
        short := hsafe.short
        above := habove
        below := hsafe.below
        masked := hmask.mpr hsafe.aligned }

structure PermittedFlags (flags : UInt32) (access : BufferAccess) : Prop where
  known : flags &&& ~~~userBufferKnownFlags = 0
  directed : flags &&& requiredFlags access = requiredFlags access

theorem validateUserBuffer_iff (self : MemoryManager) (buffer : UserBuffer)
    (access : BufferAccess) (validated : ValidatedUserBuffer) :
    self.validateUserBuffer buffer access = .ok validated ↔
      validated = { ptr := buffer.ptr, len := buffer.len, access } ∧
        buffer.reserved = 0 ∧ PermittedFlags buffer.flags access ∧
        self.AcceptedRange buffer.ptr buffer.len := by
  rw [← self.validateUserRange_iff]
  unfold validateUserBuffer
  by_cases hreserved : buffer.reserved ≠ 0 ∨ buffer.hasUnknownFlags = true
  · rw [if_pos hreserved]
    apply iff_of_false (by simp)
    rintro ⟨-, hzero, hflags, -⟩
    have hknown := hflags.known
    simp [hzero, UserBuffer.hasUnknownFlags, hknown] at hreserved
  · rw [if_neg hreserved]
    simp only [UserBuffer.hasUnknownFlags, not_or, not_not, bne_iff_ne] at hreserved
    by_cases hdirected : buffer.flags &&& requiredFlags access = requiredFlags access
    · have hflags : PermittedFlags buffer.flags access := ⟨hreserved.2, hdirected⟩
      simp only [if_neg (not_not.mpr hdirected)]
      cases self.validateUserRange buffer.ptr buffer.len with
      | error error => simp
      | ok => simp [hreserved.1, hflags, eq_comm]
    · simp only [if_pos hdirected]
      apply iff_of_false (by simp)
      rintro ⟨-, -, hflags, -⟩
      exact hdirected hflags.directed

/-! ## Every reachable configuration -/

/-- What a caller does with a manager: an operation, or a write through the map. -/
inductive ManagerOp where
  | call (op : MemoryOp)
  | writeMap (map : MemoryMap)

def applyOp (self : MemoryManager) : ManagerOp → Unit × MemoryManager
  | .call op => ((), (self.step op).2)
  | .writeMap map => ((), { self with map })

theorem configured_run (ops : List ManagerOp) : (run applyOp new ops).Configured := by
  apply run_invariant _ configured_new
  intro self op h
  cases op with
  | call op => exact h.step op
  | writeMap map => exact ⟨h.lower_pos, h.alignment⟩

theorem AcceptedRange.contained {memory : MemoryManager} {ptr len : UInt64}
    (h : memory.AcceptedRange ptr len) :
    ptr.toNat + len.toNat < 2 ^ 64 ∧
      ∀ address, ptr.toNat ≤ address → address < ptr.toNat + len.toNat →
        memory.userLowerBound.toNat ≤ address ∧
          address < memory.userUpperBound.toNat := by
  have habove := h.above
  have hbelow := h.below
  have hupper := memory.userUpperBound.toNat_lt
  refine ⟨by omega, fun address hfirst hlast => ?_⟩
  omega

/--
Whatever was called before, exactly the safe buffers are accepted, as they were
passed, and no accepted range wraps or leaves the configured bounds.
-/
theorem validateUserBuffer_ok_iff (ops : List ManagerOp) (buffer : UserBuffer)
    (access : BufferAccess) :
    let memory := run applyOp new ops
    (memory.validateUserBuffer buffer access =
        .ok { ptr := buffer.ptr, len := buffer.len, access } ↔
      buffer.reserved = 0 ∧ buffer.flags &&& ~~~userBufferKnownFlags = 0 ∧
        buffer.flags &&& requiredFlags access = requiredFlags access ∧
        1 ≤ buffer.len.toNat ∧ buffer.len.toNat ≤ memory.maxUserBufferLen.toNat ∧
        memory.userLowerBound.toNat ≤ buffer.ptr.toNat ∧
        buffer.ptr.toNat + buffer.len.toNat ≤ memory.userUpperBound.toNat ∧
        memory.minimumUserAlignment.toNat ∣ buffer.ptr.toNat) ∧
      ∀ validated, memory.validateUserBuffer buffer access = .ok validated →
        validated = { ptr := buffer.ptr, len := buffer.len, access } ∧
          validated.ptr.toNat + validated.len.toNat < 2 ^ 64 ∧
          ∀ address, validated.ptr.toNat ≤ address →
            address < validated.ptr.toNat + validated.len.toNat →
            memory.userLowerBound.toNat ≤ address ∧
              address < memory.userUpperBound.toNat := by
  intro memory
  have hrange := (configured_run ops).acceptedRange_iff buffer.ptr buffer.len
  have hiff := memory.validateUserBuffer_iff buffer access
  constructor
  · rw [hiff, hrange]
    constructor
    · rintro ⟨-, hreserved, hflags, hsafe⟩
      exact ⟨hreserved, hflags.known, hflags.directed, hsafe.nonempty, hsafe.short,
        hsafe.above, hsafe.below, hsafe.aligned⟩
    · rintro ⟨hreserved, hknown, hdirected, hnonempty, hshort, habove, hbelow, haligned⟩
      exact ⟨rfl, hreserved, ⟨hknown, hdirected⟩,
        ⟨hnonempty, hshort, habove, hbelow, haligned⟩⟩
  · intro validated hvalid
    obtain ⟨rfl, -, -, haccepted⟩ := (hiff validated).mp hvalid
    exact ⟨rfl, haccepted.contained⟩

theorem validateUserBuffer_ok_first_page :
    let memory :=
      run applyOp new [.call (.setMinimumUserAlignment 0x1000), .writeMap .new]
    memory.validateUserBuffer (.new 0x1000 0x1000 userBufferRead) .read =
      .ok { ptr := 0x1000, len := 0x1000, access := .read } := by
  apply (validateUserBuffer_ok_iff
    [.call (.setMinimumUserAlignment 0x1000), .writeMap .new]
    (.new 0x1000 0x1000 userBufferRead) .read).1.mpr
  decide

end MemoryManager

end AlaniKernel
