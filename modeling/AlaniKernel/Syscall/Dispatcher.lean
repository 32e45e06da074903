import AlaniKernel.Audit

/-!
# The syscall table and its dispatcher

The descriptor of every syscall, and the validation of number, execution
context and capability that comes before any subsystem handler.
-/

namespace AlaniKernel

structure SyscallDescriptor where
  number : SyscallNumber
  name : String
  requiredCapability : Option Capability
  auditEvent : Option AuditEventKind
  earlyBootSafe : Bool
  interruptSafe : Bool
  deriving DecidableEq, Repr

def SyscallDescriptor.allowsContext (self : SyscallDescriptor) :
    ExecutionContext → Bool
  | .earlyBoot => self.earlyBootSafe
  | .interrupt => self.interruptSafe
  | .task => true

def syscallDescriptors : List SyscallDescriptor :=
  [ { number := .sysInfo
      name := "sys_info"
      requiredCapability := none
      auditEvent := none
      earlyBootSafe := true
      interruptSafe := true },
    { number := .sysYield
      name := "sys_yield"
      requiredCapability := none
      auditEvent := none
      earlyBootSafe := false
      interruptSafe := false },
    { number := .sysExit
      name := "sys_exit"
      requiredCapability := none
      auditEvent := some .taskStateChanged
      earlyBootSafe := false
      interruptSafe := false },
    { number := .sysTime
      name := "sys_time"
      requiredCapability := none
      auditEvent := none
      earlyBootSafe := true
      interruptSafe := true },
    { number := .sysTraceContext
      name := "sys_trace_context"
      requiredCapability := none
      auditEvent := none
      earlyBootSafe := true
      interruptSafe := true },
    { number := .sysTaskSpawn
      name := "sys_task_spawn"
      requiredCapability := some .taskSpawn
      auditEvent := some .taskSpawn
      earlyBootSafe := false
      interruptSafe := false },
    { number := .sysTaskJoin
      name := "sys_task_join"
      requiredCapability := some .taskManage
      auditEvent := some .taskStateChanged
      earlyBootSafe := false
      interruptSafe := false },
    { number := .sysTaskCancel
      name := "sys_task_cancel"
      requiredCapability := some .taskManage
      auditEvent := some .taskStateChanged
      earlyBootSafe := false
      interruptSafe := false },
    { number := .sysTaskStatus
      name := "sys_task_status"
      requiredCapability := some .taskManage
      auditEvent := none
      earlyBootSafe := false
      interruptSafe := false },
    { number := .sysMemMap
      name := "sys_mem_map"
      requiredCapability := some .memoryMap
      auditEvent := some .memoryMap
      earlyBootSafe := false
      interruptSafe := false },
    { number := .sysMemUnmap
      name := "sys_mem_unmap"
      requiredCapability := some .memoryMap
      auditEvent := some .memoryMap
      earlyBootSafe := false
      interruptSafe := false },
    { number := .sysMemQuery
      name := "sys_mem_query"
      requiredCapability := none
      auditEvent := none
      earlyBootSafe := false
      interruptSafe := false },
    { number := .sysMemShare
      name := "sys_mem_share"
      requiredCapability := some .memoryShare
      auditEvent := some .memoryShare
      earlyBootSafe := false
      interruptSafe := false },
    { number := .sysMemSeal
      name := "sys_mem_seal"
      requiredCapability := some .memoryShare
      auditEvent := some .memoryShare
      earlyBootSafe := false
      interruptSafe := false },
    { number := .sysDeviceList
      name := "sys_device_list"
      requiredCapability := some .deviceList
      auditEvent := none
      earlyBootSafe := false
      interruptSafe := false },
    { number := .sysDeviceOpen
      name := "sys_device_open"
      requiredCapability := some .deviceOpen
      auditEvent := some .deviceOpen
      earlyBootSafe := false
      interruptSafe := false },
    { number := .sysDeviceCall
      name := "sys_device_call"
      requiredCapability := some .deviceCall
      auditEvent := some .deviceCall
      earlyBootSafe := false
      interruptSafe := false },
    { number := .sysDeviceClose
      name := "sys_device_close"
      requiredCapability := some .deviceCall
      auditEvent := some .deviceCall
      earlyBootSafe := false
      interruptSafe := false },
    { number := .sysModelList
      name := "sys_model_list"
      requiredCapability := none
      auditEvent := none
      earlyBootSafe := false
      interruptSafe := false },
    { number := .sysModelOpen
      name := "sys_model_open"
      requiredCapability := some .cognitionInfer
      auditEvent := some .cognitionInfer
      earlyBootSafe := false
      interruptSafe := false },
    { number := .sysInfer
      name := "sys_infer"
      requiredCapability := some .cognitionInfer
      auditEvent := some .cognitionInfer
      earlyBootSafe := false
      interruptSafe := false },
    { number := .sysMemoryQuery
      name := "sys_memory_query"
      requiredCapability := some .cognitionMemory
      auditEvent := some .cognitiveMemory
      earlyBootSafe := false
      interruptSafe := false },
    { number := .sysMemoryPut
      name := "sys_memory_put"
      requiredCapability := some .cognitionMemory
      auditEvent := some .cognitiveMemory
      earlyBootSafe := false
      interruptSafe := false },
    { number := .sysCapDerive
      name := "sys_cap_derive"
      requiredCapability := some .securityManage
      auditEvent := some .capabilityChanged
      earlyBootSafe := false
      interruptSafe := false },
    { number := .sysCapRevoke
      name := "sys_cap_revoke"
      requiredCapability := some .securityManage
      auditEvent := some .capabilityChanged
      earlyBootSafe := false
      interruptSafe := false },
    { number := .sysAttest
      name := "sys_attest"
      requiredCapability := some .securityManage
      auditEvent := some .securityDecision
      earlyBootSafe := false
      interruptSafe := false },
    { number := .sysRandom
      name := "sys_random"
      requiredCapability := none
      auditEvent := none
      earlyBootSafe := false
      interruptSafe := false },
    { number := .sysAuditAppend
      name := "sys_audit_append"
      requiredCapability := some .auditAppend
      auditEvent := some .auditAppend
      earlyBootSafe := false
      interruptSafe := false },
    { number := .sysAuditQuery
      name := "sys_audit_query"
      requiredCapability := some .auditQuery
      auditEvent := some .auditQuery
      earlyBootSafe := false
      interruptSafe := false },
    { number := .sysAuditVerify
      name := "sys_audit_verify"
      requiredCapability := some .auditVerify
      auditEvent := some .auditVerify
      earlyBootSafe := false
      interruptSafe := false }]

namespace SyscallDispatcher

def lookup (raw : UInt64) : Option SyscallDescriptor :=
  match SyscallNumber.fromRaw raw with
  | none => none
  | some number =>
      syscallDescriptors.find? fun descriptor => descriptor.number == number

def validate (frame : SyscallFrame) (context : DispatchContext) :
    KernelResult SyscallDescriptor :=
  match lookup frame.number with
  | none => .error .unknownSyscall
  | some descriptor =>
      if !descriptor.allowsContext context.execution then .error .busy
      else
        match descriptor.requiredCapability with
        | none => .ok descriptor
        | some required =>
            match context.capabilities.require required with
            | .error error => .error error
            | .ok () => .ok descriptor

end SyscallDispatcher

end AlaniKernel
