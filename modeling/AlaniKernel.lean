import AlaniKernel.Foundation.Word
import AlaniKernel.Foundation.Cells
import AlaniKernel.Foundation.Ring
import AlaniKernel.Foundation.Transition
import AlaniKernel.Foundation.Identity
import AlaniKernel.Error
import AlaniKernel.Capability
import AlaniKernel.Syscall.Abi
import AlaniKernel.Audit
import AlaniKernel.Fault
import AlaniKernel.Boot
import AlaniKernel.Syscall.Dispatcher
import AlaniKernel.Syscall.Version
import AlaniKernel.Device
import AlaniKernel.Memory
import AlaniKernel.Memory.Sharing
import AlaniKernel.Memory.Sealing
import AlaniKernel.Scheduler
import AlaniKernel.Kernel
import AlaniKernel.Kernel.Syscalls
import AlaniKernel.Kernel.Confinement
import AlaniKernel.Kernel.Denials
import AlaniKernel.Kernel.Reachable
import AlaniKernel.Kernel.Atomicity
import AlaniKernel.Kernel.Ownership
import AlaniKernel.Capability.Registry
import AlaniKernel.Capability.Refinement
import AlaniKernel.Capability.Attenuation
import AlaniKernel.Capability.Recycling
import AlaniKernel.Foundation.Search
import AlaniKernel.Foundation.Aging
import AlaniKernel.Scheduler.Steps
import AlaniKernel.Scheduler.Invariant
import AlaniKernel.Scheduler.Exclusive
import AlaniKernel.Scheduler.Aging
import AlaniKernel.Scheduler.Starvation
import AlaniKernel.Foundation.Noninterference
import AlaniKernel.Kernel.Isolation
import AlaniKernel.Kernel.Replay
import AlaniKernel.Kernel.Authority
import AlaniKernel.Foundation.Sequence
import AlaniKernel.Kernel.Phases
import AlaniKernel.Foundation.BitSet
import AlaniKernel.Capability.Denotation
import AlaniKernel.Memory.Permissions
import AlaniKernel.Kernel.SharedRegions
import AlaniKernel.Kernel.Rejection
import AlaniKernel.Kernel.Accounting
import AlaniKernel.Foundation.Interval
import AlaniKernel.Memory.Map
import AlaniKernel.Memory.Registry
import AlaniKernel.Scheduler.Lifecycle
import AlaniKernel.Scheduler.Table
import AlaniKernel.Scheduler.Progress
import AlaniKernel.Kernel.Capacity
import AlaniKernel.Foundation.Checked
import AlaniKernel.Memory.Checked
import AlaniKernel.Scheduler.Checked
import AlaniKernel.Kernel.Api
import AlaniKernel.Kernel.Checked
import AlaniKernel.Kernel.Diagnostics
import AlaniKernel.Kernel.Classification
import AlaniKernel.Kernel.Registries
import AlaniKernel.Memory.Validation
import AlaniKernel.Kernel.Registers
import AlaniKernel.Scheduler.Selection
import AlaniKernel.Scheduler.Failure
import AlaniKernel.Scheduler.Budget
import AlaniKernel.Kernel.HostBoot
import AlaniKernel.Memory.Order
import AlaniKernel.Foundation.Filling
import AlaniKernel.Device.Mediation
import AlaniKernel.Kernel.AuditAppend
import AlaniKernel.Kernel.Charging
import AlaniKernel.Kernel.Limits
import AlaniKernel.Scheduler.Counters
import AlaniKernel.Scheduler.Overtaking
import AlaniKernel.Scheduler.Served
import AlaniKernel.Kernel.Tasks
import AlaniKernel.Kernel.Population
import AlaniKernel.Kernel.AuditTrail
import AlaniKernel.Memory.Numbering
import AlaniKernel.Kernel.SharedIds
import AlaniKernel.Kernel.Loosening
import AlaniKernel.Kernel.Shares
import AlaniKernel.Kernel.Erasure
