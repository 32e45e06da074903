import AlaniKernel.Capability.Registry
import AlaniKernel.Device.Mediation
import AlaniKernel.Foundation.Transition
import AlaniKernel.Memory.Map
import AlaniKernel.Memory.Sharing

/-!
# Failed registry operations

Every operation of a bounded table checks first and writes last, so that one
that fails leaves the table and its counters as they were.
-/

namespace AlaniKernel

open AlaniKernel.Foundation

namespace CapabilityRegistry

theorem unchanged_issue (self : CapabilityRegistry) (ownerTask : TaskId)
    (rights : CapabilitySet) : UnchangedOnError self (self.issue ownerTask rights) := by
  rcases self.issue_cases ownerTask rights with ⟨error, h⟩ | ⟨handle, after, h, -⟩
  · rw [h]
    exact unchangedOnError_error self error
  · rw [h]
    exact unchangedOnError_ok self after handle

theorem unchanged_derive (self : CapabilityRegistry) (parent : CapabilityHandle)
    (ownerTask : TaskId) (requested : CapabilitySet) :
    UnchangedOnError self (self.derive parent ownerTask requested) := by
  rcases self.derive_cases parent ownerTask requested with
    ⟨error, h⟩ | ⟨handle, after, parentRights, h, -⟩
  · rw [h]
    exact unchangedOnError_error self error
  · rw [h]
    exact unchangedOnError_ok self after handle

theorem unchanged_revoke (self : CapabilityRegistry) (handle : CapabilityHandle) :
    UnchangedOnError self (self.revoke handle) := by
  rcases self.revoke_cases handle with ⟨h, -⟩ | ⟨slot, after, h, -⟩
  · rw [h]
    exact unchangedOnError_error self _
  · rw [h]
    exact unchangedOnError_ok self after ()

end CapabilityRegistry

namespace MemoryManager

theorem unchanged_shareRegion (self : MemoryManager) (ownerTask : TaskId)
    (start len : UInt64) (permissions : MemoryPermissions) :
    UnchangedOnError self (self.shareRegion ownerTask start len permissions) := by
  rcases self.shareRegion_cases ownerTask start len permissions with
    ⟨error, h⟩ | ⟨slot, nextSharedId, -, -, h⟩
  · rw [h]
    exact unchangedOnError_error self error
  · rw [h]
    exact unchangedOnError_ok self _ _

theorem unchanged_sealSharedRegion (self : MemoryManager) (handle : SharedMemoryHandle) :
    UnchangedOnError self (self.sealSharedRegion handle) := by
  rcases self.sealSharedRegion_cases handle with ⟨h, -⟩ | ⟨slot, -, -, h⟩
  · rw [h]
    exact unchangedOnError_error self _
  · rw [h]
    exact unchangedOnError_ok self _ ()

end MemoryManager

theorem MemoryMap.unchanged_push (self : MemoryMap) (region : MemoryRegion) :
    UnchangedOnError self (self.push region) := by
  rcases self.push_cases region with ⟨error, h, -⟩ | ⟨next, h, -⟩
  · rw [h]
    exact unchangedOnError_error self error
  · rw [h]
    exact unchangedOnError_ok self next ()

namespace DeviceRegistry

theorem unchanged_register (self : DeviceRegistry) (descriptor : DeviceDescriptor) :
    UnchangedOnError self (self.register descriptor) := by
  rcases self.register_cases descriptor with ⟨error, h, -⟩ | ⟨slot, -, -, -, h⟩
  · rw [h]
    exact unchangedOnError_error self error
  · rw [h]
    exact unchangedOnError_ok self _ ()

end DeviceRegistry

/-- A registry operation that fails leaves its registry unchanged, counters and slots. -/
theorem registries_unchanged_on_error :
    (∀ (registry : CapabilityRegistry) (ownerTask : TaskId) (rights : CapabilitySet),
        UnchangedOnError registry (registry.issue ownerTask rights)) ∧
      (∀ (registry : CapabilityRegistry) (parent : CapabilityHandle) (ownerTask : TaskId)
          (requested : CapabilitySet),
        UnchangedOnError registry (registry.derive parent ownerTask requested)) ∧
      (∀ (registry : CapabilityRegistry) (handle : CapabilityHandle),
        UnchangedOnError registry (registry.revoke handle)) ∧
      (∀ (memory : MemoryManager) (ownerTask : TaskId) (start len : UInt64)
          (permissions : MemoryPermissions),
        UnchangedOnError memory (memory.shareRegion ownerTask start len permissions)) ∧
      (∀ (memory : MemoryManager) (handle : SharedMemoryHandle),
        UnchangedOnError memory (memory.sealSharedRegion handle)) ∧
      (∀ (map : MemoryMap) (region : MemoryRegion),
        UnchangedOnError map (map.push region)) ∧
      ∀ (devices : DeviceRegistry) (descriptor : DeviceDescriptor),
        UnchangedOnError devices (devices.register descriptor) :=
  ⟨CapabilityRegistry.unchanged_issue, CapabilityRegistry.unchanged_derive,
    CapabilityRegistry.unchanged_revoke, MemoryManager.unchanged_shareRegion,
    MemoryManager.unchanged_sealSharedRegion, MemoryMap.unchanged_push,
    DeviceRegistry.unchanged_register⟩

theorem registries_unchanged_on_error_exhausted :
    let registry := { CapabilityRegistry.new with nextId := 0xffffffffffffffff }
    (registry.issue 1 .empty).2 = registry := by
  intro registry
  have hfails : ∃ error, (registry.issue 1 .empty).1 = .error error :=
    ⟨.internal, by decide +kernel⟩
  obtain ⟨error, herror⟩ := hfails
  exact registries_unchanged_on_error.1 registry 1 .empty error herror

end AlaniKernel
