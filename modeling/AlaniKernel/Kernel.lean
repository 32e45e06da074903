import AlaniKernel.Boot
import AlaniKernel.Device
import AlaniKernel.Fault
import AlaniKernel.Memory
import AlaniKernel.Scheduler
import AlaniKernel.Syscall.Dispatcher

/-!
# The aggregated kernel and its syscall handlers
-/

namespace AlaniKernel

open AlaniKernel.Foundation

structure KernelConfig where
  maxUserBufferLen : UInt64
  deriving DecidableEq, Repr

def KernelConfig.default : KernelConfig :=
  { maxUserBufferLen := defaultMaxSyscallBufferSize }

structure Kernel where
  config : KernelConfig
  boot : BootProgress
  memory : MemoryManager
  scheduler : Scheduler
  devices : DeviceRegistry
  audit : AuditLog
  faults : FaultReporter

/--
`size_of::<SyscallTableInfo>()`: two `AbiVersion` values of four `u16` fields,
a `u64` and two `u32` fields, laid out without padding.
-/
def sizeOfSyscallTableInfo : UInt64 := 8 + 8 + 8 + 4 + 4

namespace Kernel

def new : Kernel :=
  { config := .default
    boot := .new
    memory := .new
    scheduler := .new
    devices := .new
    audit := .new
    faults := .new }

/-- The allocator steps of the boot sequence, each kept if a later one fails. -/
def advanceAllocator (self : Kernel) : List AllocatorPhase →
    KernelResult Unit × Kernel
  | [] => (.ok (), self)
  | phase :: phases =>
      match self.memory.setAllocatorPhase phase with
      | (.error error, memory) => (.error error, { self with memory })
      | (.ok (), memory) => advanceAllocator { self with memory } phases

def phaseBody (self : Kernel) : BootPhase → KernelResult Unit × Kernel
  | .allocator => self.advanceAllocator [.bootBump, .frame, .heap]
  | .runtimeSpawn =>
      match self.scheduler.spawn 0 .runtime defaultPriority .empty .unlimited with
      | (.error error, scheduler) => (.error error, { self with scheduler })
      | (.ok _, scheduler) => (.ok (), { self with scheduler })
  | _ => (.ok (), self)

def completePhases (self : Kernel) : List BootPhase → KernelResult Unit × Kernel
  | [] => (.ok (), self)
  | phase :: phases =>
      match self.phaseBody phase with
      | (.error error, self) => (.error error, self)
      | (.ok (), self) =>
          match self.boot.complete phase with
          | (.error error, boot) => (.error error, { self with boot })
          | (.ok (), boot) => completePhases { self with boot } phases

def initializeHost (self : Kernel) : KernelResult Unit × Kernel :=
  self.completePhases bootSequence.toList

def sysInfo (self : Kernel) (frame : SyscallFrame) : SyscallResult :=
  let out := UserBuffer.new frame.arg0 frame.arg1 frame.arg2.toUInt32
  match self.memory.validateUserBuffer out .write with
  | .ok _ => .ok alaniAbiVersion.packed sizeOfSyscallTableInfo
  | .error error => .error error

def sysYield (self : Kernel) : SyscallResult × Kernel :=
  match self.scheduler.yieldCurrent with
  | (.ok (some taskId), scheduler) => (.ok taskId 0, { self with scheduler })
  | (.ok none, scheduler) => (.ok 0 0, { self with scheduler })
  | (.error error, scheduler) => (.error error, { self with scheduler })

def sysExit (self : Kernel) (taskId : TaskId) : SyscallResult × Kernel :=
  match self.scheduler.cancel taskId with
  | (.ok _, scheduler) => (.ok taskId 0, { self with scheduler })
  | (.error error, scheduler) => (.error error, { self with scheduler })

/-- The manifest check of `sys_task_spawn`, skipped for an empty manifest. -/
def validateManifest (self : Kernel) (frame : SyscallFrame) : KernelResult Unit :=
  if frame.arg1 ≠ 0 then
    let manifest := UserBuffer.new frame.arg0 frame.arg1 userBufferRead
    match self.memory.validateUserBuffer manifest .read with
    | .error error => .error error
    | .ok _ => .ok ()
  else .ok ()

def sysTaskSpawn (self : Kernel) (frame : SyscallFrame)
    (context : DispatchContext) : SyscallResult × Kernel :=
  match self.validateManifest frame with
  | .error error => (.error error, self)
  | .ok () =>
      if frame.arg3 ≤ 255 then
        let priority := frame.arg3.toUInt8
        let priority := if priority = 0 then defaultPriority else priority
        match self.scheduler.spawn context.taskId .runtime priority .empty
          .unlimited with
        | (.ok taskId, scheduler) => (.ok taskId 0, { self with scheduler })
        | (.error error, scheduler) => (.error error, { self with scheduler })
      else (.error .invalidArgument, self)

def sysTaskCancel (self : Kernel) (frame : SyscallFrame) :
    SyscallResult × Kernel :=
  match self.scheduler.cancel frame.arg0 with
  | (.ok _, scheduler) => (.ok frame.arg0 0, { self with scheduler })
  | (.error error, scheduler) => (.error error, { self with scheduler })

def sysTaskStatus (self : Kernel) (frame : SyscallFrame) : SyscallResult :=
  match self.scheduler.runQueue.get frame.arg0 with
  | some task => .ok task.state.toUInt64 task.contextSwitches
  | none => .error .notFound

def sysMemRange (self : Kernel) (frame : SyscallFrame) : SyscallResult :=
  match self.memory.validateUserRange frame.arg0 frame.arg1 with
  | .ok () => .ok frame.arg0 frame.arg1
  | .error error => .error error

def sysMemQuery (self : Kernel) : SyscallResult :=
  let stats := self.memory.stats
  .ok stats.usableBytes (UInt64.ofNat stats.regionCount)

def sysMemShare (self : Kernel) (frame : SyscallFrame) (taskId : TaskId) :
    SyscallResult × Kernel :=
  match MemoryPermissions.fromBits frame.arg2.toUInt32 with
  | .error error => (.error error, self)
  | .ok permissions =>
      match self.memory.shareRegion taskId frame.arg0 frame.arg1
        permissions with
      | (.ok handle, memory) =>
          (.ok handle.id handle.permissions.toUInt64, { self with memory })
      | (.error error, memory) => (.error error, { self with memory })

def sysMemSeal (self : Kernel) (frame : SyscallFrame) (taskId : TaskId) :
    SyscallResult × Kernel :=
  let handle : SharedMemoryHandle :=
    { id := frame.arg0, ownerTask := taskId, permissions := 0 }
  match self.memory.sealSharedRegion handle with
  | (.ok (), memory) => (.ok frame.arg0 0, { self with memory })
  | (.error error, memory) => (.error error, { self with memory })

def sysDeviceOpen (self : Kernel) (frame : SyscallFrame)
    (capabilities : CapabilitySet) : SyscallResult :=
  match self.devices.authorizeOpen frame.arg0 capabilities with
  | .ok descriptor => .ok descriptor.id descriptor.deviceClass.toUInt64
  | .error error => .error error

def sysDeviceCall (self : Kernel) (frame : SyscallFrame)
    (capabilities : CapabilitySet) : SyscallResult :=
  match DeviceOperation.fromRaw frame.arg1 with
  | none => .error .invalidArgument
  | some operation =>
      match self.devices.authorizeCall frame.arg0 operation capabilities
        frame.arg3 frame.arg5 with
      | .ok _ => .ok 0 0
      | .error error => .error error

def sysInfer (frame : SyscallFrame) : SyscallResult :=
  if frame.arg3 = 0 then .error .deadlineExceeded else .ok 0 0

def sysRandom (self : Kernel) (frame : SyscallFrame) : SyscallResult :=
  let out := UserBuffer.new frame.arg0 frame.arg1 userBufferWrite
  match self.memory.validateUserBuffer out .write with
  | .ok buffer => .ok 0 buffer.len
  | .error error => .error error

def dispatchValidated (self : Kernel) (number : SyscallNumber)
    (frame : SyscallFrame) (context : DispatchContext) :
    SyscallResult × Kernel :=
  match number with
  | .sysInfo => (self.sysInfo frame, self)
  | .sysYield => self.sysYield
  | .sysExit => self.sysExit context.taskId
  | .sysTime => (.ok self.scheduler.tick 0, self)
  | .sysTraceContext => (.ok frame.trace.traceId frame.trace.spanId, self)
  | .sysTaskSpawn => self.sysTaskSpawn frame context
  | .sysTaskJoin => (.ok frame.arg0 0, self)
  | .sysTaskCancel => self.sysTaskCancel frame
  | .sysTaskStatus => (self.sysTaskStatus frame, self)
  | .sysMemMap | .sysMemUnmap => (self.sysMemRange frame, self)
  | .sysMemQuery => (self.sysMemQuery, self)
  | .sysMemShare => self.sysMemShare frame context.taskId
  | .sysMemSeal => self.sysMemSeal frame context.taskId
  | .sysDeviceList => (.ok (UInt64.ofNat self.devices.len) 0, self)
  | .sysDeviceOpen => (self.sysDeviceOpen frame context.capabilities, self)
  | .sysDeviceCall => (self.sysDeviceCall frame context.capabilities, self)
  | .sysDeviceClose => (.ok frame.arg0 0, self)
  | .sysModelList => (.ok 0 0, self)
  | .sysModelOpen => (.ok frame.arg0 0, self)
  | .sysInfer => (sysInfer frame, self)
  | .sysMemoryQuery | .sysMemoryPut => (.ok 0 0, self)
  | .sysCapDerive | .sysCapRevoke => (.ok 0 0, self)
  | .sysAttest => (.ok alaniAbiVersion.packed 0, self)
  | .sysRandom => (self.sysRandom frame, self)
  | .sysAuditAppend => (.ok self.audit.nextSequence 0, self)
  | .sysAuditQuery => (.ok (UInt64.ofNat self.audit.len) 0, self)
  | .sysAuditVerify =>
      let verified :=
        if self.audit.nextSequence = 0 then 0 else self.audit.nextSequence - 1
      (.ok verified 0, self)

def faultKindForStatus : KernelStatus → FaultKind
  | .permissionDenied => .capabilityDenied
  | .invalidArgument => .invariantViolation
  | .busy | .deadlineExceeded => .invariantViolation
  | .notFound => .invariantViolation
  | .internal => .invariantViolation
  | .ok => .invariantViolation

def errorForStatus : KernelStatus → KernelError
  | .ok => .internal
  | .invalidArgument => .invalidArgument
  | .permissionDenied => .permissionDenied
  | .notFound => .notFound
  | .busy => .busy
  | .deadlineExceeded => .deadlineExceeded
  | .internal => .internal

def auditRejected (audit : AuditLog) (frame : SyscallFrame)
    (context : DispatchContext) (error : KernelError) : AuditLog :=
  match SyscallDispatcher.lookup frame.number with
  | none => audit
  | some descriptor =>
      match descriptor.auditEvent with
      | some kind =>
          audit.recordSyscall kind context.taskId descriptor.number
            error.status frame.trace error.reason
      | none =>
          if error.status = .permissionDenied then
            audit.recordSyscall .securityDecision context.taskId
              descriptor.number error.status frame.trace error.reason
          else audit

def recordRejectedSyscall (self : Kernel) (frame : SyscallFrame)
    (context : DispatchContext) (error : KernelError) : Kernel :=
  let kind : FaultKind :=
    match error with
    | .unknownSyscall => .invalidSyscall
    | .missingCapability | .permissionDenied => .capabilityDenied
    | _ => .invariantViolation
  let severity : FaultSeverity :=
    if error.status = .permissionDenied then .error else .warning
  let phase : FaultPhase :=
    if context.execution = .earlyBoot then .boot else .runtime
  { self with
    audit := auditRejected self.audit frame context error
    faults :=
      self.faults.recordError kind severity context.taskId error phase
        frame.trace }

def auditOutcome (audit : AuditLog) (descriptor : SyscallDescriptor)
    (frame : SyscallFrame) (context : DispatchContext) (result : SyscallResult) :
    AuditLog :=
  match descriptor.auditEvent with
  | none => audit
  | some kind =>
      let reason := if result.status.isOk then "ok" else "syscall_failed"
      audit.recordSyscall kind context.taskId descriptor.number result.status
        frame.trace reason

def reportOutcome (faults : FaultReporter) (frame : SyscallFrame)
    (context : DispatchContext) (result : SyscallResult) : FaultReporter :=
  if !result.status.isOk then
    faults.recordError (faultKindForStatus result.status) .warning
      context.taskId (errorForStatus result.status) .runtime frame.trace
  else faults

def handleSyscall (self : Kernel) (frame : SyscallFrame)
    (context : DispatchContext) : SyscallResult × Kernel :=
  match SyscallDispatcher.validate frame context with
  | .error error =>
      (.error error, self.recordRejectedSyscall frame context error)
  | .ok descriptor =>
      let (result, self) := self.dispatchValidated descriptor.number frame context
      (result,
        { self with
          audit := auditOutcome self.audit descriptor frame context result
          faults := reportOutcome self.faults frame context result })

end Kernel

end AlaniKernel
