import Mathlib.Init

/-!
# Kernel status and typed error mapping

The internal error taxonomy and the stable status values it maps to at the
syscall boundary.
-/

namespace AlaniKernel

inductive KernelStatus where
  | ok
  | invalidArgument
  | permissionDenied
  | notFound
  | busy
  | deadlineExceeded
  | internal
  deriving DecidableEq, Repr

def KernelStatus.isOk : KernelStatus → Bool
  | .ok => true
  | _ => false

inductive KernelError where
  | unknownSyscall
  | invalidArgument
  | invalidUserBuffer
  | bufferTooLarge
  | bufferOutOfRange
  | reservedBits
  | missingCapability
  | permissionDenied
  | notFound
  | capacityExceeded
  | busy
  | deadlineExceeded
  | invalidState
  | overlap
  | sealed
  | duplicate
  | internal
  deriving DecidableEq, Repr

namespace KernelError

def status : KernelError → KernelStatus
  | .unknownSyscall | .invalidArgument | .invalidUserBuffer | .bufferTooLarge
  | .bufferOutOfRange | .reservedBits | .invalidState | .overlap | .sealed
  | .duplicate => .invalidArgument
  | .missingCapability | .permissionDenied => .permissionDenied
  | .notFound => .notFound
  | .capacityExceeded | .busy => .busy
  | .deadlineExceeded => .deadlineExceeded
  | .internal => .internal

def reason : KernelError → String
  | .unknownSyscall => "unknown_syscall"
  | .invalidArgument => "invalid_argument"
  | .invalidUserBuffer => "invalid_user_buffer"
  | .bufferTooLarge => "buffer_too_large"
  | .bufferOutOfRange => "buffer_out_of_range"
  | .reservedBits => "reserved_bits"
  | .missingCapability => "missing_capability"
  | .permissionDenied => "permission_denied"
  | .notFound => "not_found"
  | .capacityExceeded => "capacity_exceeded"
  | .busy => "busy"
  | .deadlineExceeded => "deadline_exceeded"
  | .invalidState => "invalid_state"
  | .overlap => "overlap"
  | .sealed => "sealed"
  | .duplicate => "duplicate"
  | .internal => "internal"

@[simp] theorem status_ne_ok (error : KernelError) : error.status ≠ .ok := by
  cases error <;> simp [status]

end KernelError

abbrev KernelResult (α : Type) := Except KernelError α

end AlaniKernel
