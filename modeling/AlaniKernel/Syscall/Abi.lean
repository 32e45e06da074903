import AlaniKernel.Capability

/-!
# ABI-safe syscall data structures

Syscall numbers, frames, caller contexts and results as they cross the
kernel/user boundary.
-/

namespace AlaniKernel

structure AbiVersion where
  major : UInt16
  minor : UInt16
  patch : UInt16
  flags : UInt16
  deriving DecidableEq, Repr

def AbiVersion.packed (self : AbiVersion) : UInt64 :=
  (self.major.toUInt64 <<< 48) ||| (self.minor.toUInt64 <<< 32) |||
    (self.patch.toUInt64 <<< 16) ||| self.flags.toUInt64

def alaniAbiVersion : AbiVersion :=
  { major := 0, minor := 1, patch := 0, flags := 0 }

def defaultMaxSyscallBufferSize : UInt64 := 16 * 1024 * 1024

def userBufferRead : UInt32 := 1 <<< (0 : UInt32)

def userBufferWrite : UInt32 := 1 <<< (1 : UInt32)

def userBufferPinnable : UInt32 := 1 <<< (2 : UInt32)

def userBufferKnownFlags : UInt32 :=
  userBufferRead ||| userBufferWrite ||| userBufferPinnable

structure UserBuffer where
  ptr : UInt64
  len : UInt64
  flags : UInt32
  reserved : UInt32
  deriving DecidableEq, Repr

namespace UserBuffer

def new (ptr len : UInt64) (flags : UInt32) : UserBuffer :=
  { ptr, len, flags, reserved := 0 }

def hasUnknownFlags (self : UserBuffer) : Bool :=
  self.flags &&& ~~~userBufferKnownFlags != 0

def isWritable (self : UserBuffer) : Bool :=
  self.flags &&& userBufferWrite != 0

end UserBuffer

structure TraceContext where
  traceId : UInt64
  spanId : UInt64
  parentSpanId : UInt64
  flags : UInt32
  reserved : UInt32
  deriving DecidableEq, Repr

def TraceContext.empty : TraceContext :=
  { traceId := 0, spanId := 0, parentSpanId := 0, flags := 0, reserved := 0 }

inductive SyscallNumber where
  | sysInfo
  | sysYield
  | sysExit
  | sysTime
  | sysTraceContext
  | sysTaskSpawn
  | sysTaskJoin
  | sysTaskCancel
  | sysTaskStatus
  | sysMemMap
  | sysMemUnmap
  | sysMemQuery
  | sysMemShare
  | sysMemSeal
  | sysDeviceList
  | sysDeviceOpen
  | sysDeviceCall
  | sysDeviceClose
  | sysModelList
  | sysModelOpen
  | sysInfer
  | sysMemoryQuery
  | sysMemoryPut
  | sysCapDerive
  | sysCapRevoke
  | sysAttest
  | sysRandom
  | sysAuditAppend
  | sysAuditQuery
  | sysAuditVerify
  deriving DecidableEq, Repr

namespace SyscallNumber

/-- The register value of a syscall number, its `repr(u32)` value as `u64`. -/
def toUInt64 : SyscallNumber → UInt64
  | .sysInfo => 0x0000
  | .sysYield => 0x0001
  | .sysExit => 0x0002
  | .sysTime => 0x0003
  | .sysTraceContext => 0x0004
  | .sysTaskSpawn => 0x0100
  | .sysTaskJoin => 0x0101
  | .sysTaskCancel => 0x0102
  | .sysTaskStatus => 0x0103
  | .sysMemMap => 0x0200
  | .sysMemUnmap => 0x0201
  | .sysMemQuery => 0x0202
  | .sysMemShare => 0x0203
  | .sysMemSeal => 0x0204
  | .sysDeviceList => 0x0300
  | .sysDeviceOpen => 0x0301
  | .sysDeviceCall => 0x0302
  | .sysDeviceClose => 0x0303
  | .sysModelList => 0x0400
  | .sysModelOpen => 0x0401
  | .sysInfer => 0x0402
  | .sysMemoryQuery => 0x0403
  | .sysMemoryPut => 0x0404
  | .sysCapDerive => 0x0500
  | .sysCapRevoke => 0x0501
  | .sysAttest => 0x0502
  | .sysRandom => 0x0503
  | .sysAuditAppend => 0x0600
  | .sysAuditQuery => 0x0601
  | .sysAuditVerify => 0x0602

def fromRaw (raw : UInt64) : Option SyscallNumber :=
  if raw = 0x0000 then some .sysInfo
  else if raw = 0x0001 then some .sysYield
  else if raw = 0x0002 then some .sysExit
  else if raw = 0x0003 then some .sysTime
  else if raw = 0x0004 then some .sysTraceContext
  else if raw = 0x0100 then some .sysTaskSpawn
  else if raw = 0x0101 then some .sysTaskJoin
  else if raw = 0x0102 then some .sysTaskCancel
  else if raw = 0x0103 then some .sysTaskStatus
  else if raw = 0x0200 then some .sysMemMap
  else if raw = 0x0201 then some .sysMemUnmap
  else if raw = 0x0202 then some .sysMemQuery
  else if raw = 0x0203 then some .sysMemShare
  else if raw = 0x0204 then some .sysMemSeal
  else if raw = 0x0300 then some .sysDeviceList
  else if raw = 0x0301 then some .sysDeviceOpen
  else if raw = 0x0302 then some .sysDeviceCall
  else if raw = 0x0303 then some .sysDeviceClose
  else if raw = 0x0400 then some .sysModelList
  else if raw = 0x0401 then some .sysModelOpen
  else if raw = 0x0402 then some .sysInfer
  else if raw = 0x0403 then some .sysMemoryQuery
  else if raw = 0x0404 then some .sysMemoryPut
  else if raw = 0x0500 then some .sysCapDerive
  else if raw = 0x0501 then some .sysCapRevoke
  else if raw = 0x0502 then some .sysAttest
  else if raw = 0x0503 then some .sysRandom
  else if raw = 0x0600 then some .sysAuditAppend
  else if raw = 0x0601 then some .sysAuditQuery
  else if raw = 0x0602 then some .sysAuditVerify
  else none

@[simp] theorem fromRaw_toUInt64 (number : SyscallNumber) :
    fromRaw number.toUInt64 = some number := by
  cases number <;> decide

theorem toUInt64_of_fromRaw {raw : UInt64} {number : SyscallNumber}
    (h : fromRaw raw = some number) : number.toUInt64 = raw := by
  unfold fromRaw at h
  repeat
    first
      | contradiction
      | rw [ite_eq_iff] at h
        rcases h with ⟨hraw, h⟩ | ⟨-, h⟩
        · cases h
          exact hraw.symm

theorem fromRaw_eq_some_iff {raw : UInt64} {number : SyscallNumber} :
    fromRaw raw = some number ↔ raw = number.toUInt64 :=
  ⟨fun h => (toUInt64_of_fromRaw h).symm, fun h => h ▸ fromRaw_toUInt64 number⟩

end SyscallNumber

inductive ExecutionContext where
  | earlyBoot
  | task
  | interrupt
  deriving DecidableEq, Repr

structure SyscallFrame where
  number : UInt64
  args : Vector UInt64 6
  trace : TraceContext
  deriving DecidableEq

namespace SyscallFrame

def new (number : SyscallNumber) (args : Vector UInt64 6) : SyscallFrame :=
  { number := number.toUInt64, args, trace := .empty }

/-! The argument registers: `argN` is the source's `args[N]`. -/

def arg0 (self : SyscallFrame) : UInt64 := self.args[0]

def arg1 (self : SyscallFrame) : UInt64 := self.args[1]

def arg2 (self : SyscallFrame) : UInt64 := self.args[2]

def arg3 (self : SyscallFrame) : UInt64 := self.args[3]

def arg5 (self : SyscallFrame) : UInt64 := self.args[5]

end SyscallFrame

structure DispatchContext where
  taskId : TaskId
  capabilities : CapabilitySet
  execution : ExecutionContext
  deriving DecidableEq, Repr

def DispatchContext.task (taskId : TaskId) (capabilities : CapabilitySet) :
    DispatchContext :=
  { taskId, capabilities, execution := .task }

structure SyscallResult where
  status : KernelStatus
  value : UInt64
  detail : UInt64
  deriving DecidableEq, Repr

namespace SyscallResult

def ok (value detail : UInt64) : SyscallResult :=
  { status := .ok, value, detail }

def error (error : KernelError) : SyscallResult :=
  { status := error.status, value := 0, detail := 0 }

@[simp] theorem status_ok (value detail : UInt64) :
    (ok value detail).status = .ok := rfl

@[simp] theorem status_error (e : KernelError) :
    (error e).status = e.status := rfl

end SyscallResult

end AlaniKernel
