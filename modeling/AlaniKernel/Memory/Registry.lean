import AlaniKernel.Memory.Sharing

/-!
# The shared regions are an append-only map

The abstract side is read off the history alone: the regions that shares have
returned, in order, and the identifiers that seals have named.  The table holds
those regions and no others, each as it was shared or sealed for good.
-/

namespace AlaniKernel

open AlaniKernel.Foundation

abbrev MemoryEvent := MemoryOp × KernelResult MemoryReply

namespace MemoryManager

abbrev historyNew (ops : List MemoryOp) : List MemoryEvent := history step new ops

/-! ## Shares and seals of a history -/

def sharedBy : MemoryEvent → Option SharedRegion
  | (.shareRegion ownerTask start len permissions, .ok (.shared handle)) =>
      some
        { handle := { id := handle.id, ownerTask, permissions := permissions.bits }
          start
          len
          isSealed := false }
  | _ => none

def sealedBy : MemoryEvent → Option UInt64
  | (.sealSharedRegion handle, .ok .done) => some handle.id
  | _ => none

def shares (events : List MemoryEvent) : List SharedRegion := events.filterMap sharedBy

def sealedIds (events : List MemoryEvent) : List UInt64 := events.filterMap sealedBy

/-- What the table should hold for a region that was once shared. -/
def recorded (events : List MemoryEvent) (region : SharedRegion) : SharedRegion :=
  if region.handle.id ∈ sealedIds events then sealRegion region else region

@[simp] theorem id_recorded (events : List MemoryEvent) (region : SharedRegion) :
    (recorded events region).handle.id = region.handle.id := by
  unfold recorded
  split_ifs <;> rfl

theorem sealRegion_idem (region : SharedRegion) :
    sealRegion (sealRegion region) = sealRegion region := by
  simp only [sealRegion, clear_set_idem]

structure Records (manager : MemoryManager) (events : List MemoryEvent) : Prop where
  held : ∀ i, manager.Live i →
    ∃ region ∈ shares events, manager.regionAt i = recorded events region
  kept : ∀ region ∈ shares events,
    ∃ i, manager.Live i ∧ manager.regionAt i = recorded events region
  ids_lt : ∀ region ∈ shares events, region.handle.id < manager.nextSharedId
  ids_increasing : (shares events).Pairwise fun earlier later =>
    earlier.handle.id < later.handle.id
  sealed_shared : ∀ id ∈ sealedIds events, ∃ region ∈ shares events, region.handle.id = id

theorem records_new : new.Records [] := by
  refine ⟨fun i hi => absurd hi (not_live_new i), ?_, ?_, .nil, ?_⟩ <;>
    simp [shares, sealedIds]

theorem shares_snoc_none {events : List MemoryEvent} {event : MemoryEvent}
    (h : sharedBy event = none) : shares (events ++ [event]) = shares events := by
  simp [shares, h]

theorem shares_snoc_some {events : List MemoryEvent} {event : MemoryEvent}
    {region : SharedRegion} (h : sharedBy event = some region) :
    shares (events ++ [event]) = shares events ++ [region] := by
  simp [shares, h]

theorem sealedIds_snoc_none {events : List MemoryEvent} {event : MemoryEvent}
    (h : sealedBy event = none) : sealedIds (events ++ [event]) = sealedIds events := by
  simp [sealedIds, h]

theorem recorded_snoc_none {events : List MemoryEvent} {event : MemoryEvent}
    (h : sealedBy event = none) (region : SharedRegion) :
    recorded (events ++ [event]) region = recorded events region := by
  rw [recorded, sealedIds_snoc_none h, recorded]

theorem recorded_snoc_some {events : List MemoryEvent} {event : MemoryEvent}
    {id : UInt64} (h : sealedBy event = some id) (region : SharedRegion) :
    recorded (events ++ [event]) region =
      if region.handle.id = id then sealRegion (recorded events region)
      else recorded events region := by
  have hids : sealedIds (events ++ [event]) = sealedIds events ++ [id] := by
    simp [sealedIds, h]
  unfold recorded
  rw [hids]
  by_cases hid : region.handle.id = id
  · rw [if_pos hid, if_pos (by simp [hid])]
    split_ifs
    · exact (sealRegion_idem region).symm
    · rfl
  · simp [hid]

/-! ## One step -/

theorem Records.quiet {before after : MemoryManager} {events : List MemoryEvent}
    (h : before.Records events) (hsame : SameRegions before after) {event : MemoryEvent}
    (hshared : sharedBy event = none) (hsealed : sealedBy event = none) :
    after.Records (events ++ [event]) := by
  constructor
  · intro i hi
    rw [Live, hsame.regionAt] at hi
    rw [hsame.regionAt, shares_snoc_none hshared]
    simp only [recorded_snoc_none hsealed]
    exact h.held i hi
  · intro region hregion
    rw [shares_snoc_none hshared] at hregion
    obtain ⟨i, hi, heq⟩ := h.kept region hregion
    refine ⟨i, ?_, ?_⟩
    · rwa [Live, hsame.regionAt]
    · rw [hsame.regionAt, heq, recorded_snoc_none hsealed]
  · rw [shares_snoc_none hshared, hsame.2]
    exact h.ids_lt
  · rw [shares_snoc_none hshared]
    exact h.ids_increasing
  · rw [shares_snoc_none hshared, sealedIds_snoc_none hsealed]
    exact h.sealed_shared

theorem Records.share {self : MemoryManager} {events : List MemoryEvent}
    (h : self.Records events) (hself : self.WellFormed) {slot : Fin maxSharedRegions}
    {nextSharedId : UInt64} {region : SharedRegion} (hfree : ¬ self.Live slot)
    (hnext : nextSharedId.toNat = self.nextSharedId.toNat + 1)
    (hid : region.handle.id = self.nextSharedId) {event : MemoryEvent}
    (hshared : sharedBy event = some region) (hsealed : sealedBy event = none) :
    (self.withShared slot nextSharedId region).Records (events ++ [event]) := by
  have hfresh : region.handle.id ∉ sealedIds events := by
    intro hmem
    obtain ⟨earlier, hearlier, heq⟩ := h.sealed_shared _ hmem
    have hlt := h.ids_lt earlier hearlier
    rw [heq, hid] at hlt
    exact absurd hlt (UInt64.lt_irrefl _)
  have hrecorded : recorded (events ++ [event]) region = region := by
    rw [recorded_snoc_none hsealed, recorded, if_neg hfresh]
  have hlive : (self.withShared slot nextSharedId region).Live slot := by
    rw [Live, regionAt_withShared_self, hid]
    intro hzero
    have hpos := hself.next_pos
    rw [hzero] at hpos
    exact absurd hpos (by decide)
  have hlt : self.nextSharedId < nextSharedId := by
    rw [UInt64.lt_iff_toNat_lt]
    omega
  constructor
  · intro i hi
    rw [shares_snoc_some hshared]
    by_cases hne : i = slot
    · refine ⟨region, by simp, ?_⟩
      rw [hne, regionAt_withShared_self, hrecorded]
    · rw [Live, regionAt_withShared_of_ne self hne] at hi
      obtain ⟨held, hheld, heq⟩ := h.held i hi
      refine ⟨held, by simp [hheld], ?_⟩
      rw [regionAt_withShared_of_ne self hne, heq, recorded_snoc_none hsealed]
  · intro kept hkept
    rw [shares_snoc_some hshared, List.mem_append, List.mem_singleton] at hkept
    rcases hkept with hkept | rfl
    · obtain ⟨i, hi, heq⟩ := h.kept kept hkept
      have hne : i ≠ slot := by
        rintro rfl
        exact hfree hi
      refine ⟨i, ?_, ?_⟩
      · rwa [Live, regionAt_withShared_of_ne self hne]
      · rw [regionAt_withShared_of_ne self hne, heq, recorded_snoc_none hsealed]
    · refine ⟨slot, hlive, ?_⟩
      rw [regionAt_withShared_self, hrecorded]
  · intro kept hkept
    rw [shares_snoc_some hshared, List.mem_append, List.mem_singleton] at hkept
    rcases hkept with hkept | rfl
    · exact UInt64.lt_trans (h.ids_lt kept hkept) hlt
    · rw [hid]
      exact hlt
  · rw [shares_snoc_some hshared, List.pairwise_append]
    refine ⟨h.ids_increasing, List.pairwise_singleton _ _, fun earlier hearlier => ?_⟩
    intro later hlater
    rw [List.mem_singleton.mp hlater, hid]
    exact h.ids_lt earlier hearlier
  · intro id hmem
    rw [sealedIds_snoc_none hsealed] at hmem
    obtain ⟨earlier, hearlier, heq⟩ := h.sealed_shared id hmem
    exact ⟨earlier, by simp [shares_snoc_some hshared, hearlier], heq⟩

theorem Records.seal {self : MemoryManager} {events : List MemoryEvent}
    (h : self.Records events) (hself : self.WellFormed) {slot : Fin maxSharedRegions}
    (hlive : self.Live slot) {event : MemoryEvent} (hshared : sharedBy event = none)
    (hsealed : sealedBy event = some (self.regionAt slot).handle.id) :
    (self.withSealed slot).Records (events ++ [event]) := by
  have hcell : ∀ i region, self.Live i → self.regionAt i = recorded events region →
      (self.withSealed slot).regionAt i = recorded (events ++ [event]) region := by
    intro i region hi heq
    have hid : region.handle.id = (self.regionAt i).handle.id := by
      rw [heq, id_recorded]
    rw [regionAt_withSealed, recorded_snoc_some hsealed, ← heq, hid]
    by_cases hne : i = slot
    · rw [if_pos hne, if_pos (by rw [hne]), hne]
    · rw [if_neg hne, if_neg fun hsame => hne (hself.id_unique i slot hi hlive hsame)]
  constructor
  · intro i hi
    rw [Live, id_withSealed] at hi
    obtain ⟨region, hregion, heq⟩ := h.held i hi
    rw [shares_snoc_none hshared]
    exact ⟨region, hregion, hcell i region hi heq⟩
  · intro region hregion
    rw [shares_snoc_none hshared] at hregion
    obtain ⟨i, hi, heq⟩ := h.kept region hregion
    refine ⟨i, ?_, hcell i region hi heq⟩
    rwa [Live, id_withSealed]
  · rw [shares_snoc_none hshared]
    exact h.ids_lt
  · rw [shares_snoc_none hshared]
    exact h.ids_increasing
  · intro id hmem
    rw [shares_snoc_none hshared]
    rw [sealedIds, List.filterMap_append, List.mem_append] at hmem
    rcases hmem with hmem | hmem
    · exact h.sealed_shared id hmem
    · obtain ⟨region, hregion, heq⟩ := h.held slot hlive
      refine ⟨region, hregion, ?_⟩
      have hid : id = (self.regionAt slot).handle.id := by
        simpa [hsealed] using hmem
      rw [hid, heq, id_recorded]

theorem quiet_of_error (op : MemoryOp) (error : KernelError) :
    sharedBy (op, .error error) = none ∧ sealedBy (op, .error error) = none := by
  cases op <;> exact ⟨rfl, rfl⟩

theorem quiet_of_set {op : MemoryOp} (hop : op.isSet = true)
    (reply : KernelResult MemoryReply) :
    sharedBy (op, reply) = none ∧ sealedBy (op, reply) = none := by
  cases op with
  | shareRegion | sealSharedRegion => contradiction
  | setAllocatorPhase | setUserBounds | setMaxUserBufferLen
  | setMinimumUserAlignment => exact ⟨rfl, rfl⟩

theorem Records.step {self : MemoryManager} {events : List MemoryEvent}
    (h : self.Records events) (hself : self.WellFormed) (op : MemoryOp) :
    (self.step op).2.Records (events ++ [(op, (self.step op).1)]) := by
  by_cases hset : op.isSet = true
  · obtain ⟨hshared, hsealed⟩ := quiet_of_set hset (self.step op).1
    exact h.quiet (sameRegions_set hset) hshared hsealed
  · cases op with
    | shareRegion ownerTask start len permissions =>
        rcases self.shareRegion_cases ownerTask start len permissions with
          ⟨error, hs⟩ | ⟨slot, nextSharedId, hfree, hnext, hs⟩
        · obtain ⟨hshared, hsealed⟩ :=
            quiet_of_error (.shareRegion ownerTask start len permissions) error
          simp only [MemoryManager.step, hs]
          exact h.quiet (.refl self) hshared hsealed
        · simp only [MemoryManager.step, hs]
          exact h.share hself hfree hnext rfl rfl rfl
    | sealSharedRegion handle =>
        rcases self.sealSharedRegion_cases handle with
          ⟨hs, -⟩ | ⟨slot, hlive, hid, hs⟩
        · obtain ⟨hshared, hsealed⟩ :=
            quiet_of_error (.sealSharedRegion handle) .notFound
          simp only [MemoryManager.step, hs]
          exact h.quiet (.refl self) hshared hsealed
        · simp only [MemoryManager.step, hs]
          exact h.seal hself hlive rfl (congrArg some hid.symm)
    | setAllocatorPhase | setUserBounds | setMaxUserBufferLen
    | setMinimumUserAlignment => exact absurd rfl hset

theorem records_run (ops : List MemoryOp) : (runNew ops).Records (historyNew ops) := by
  have hboth : (runNew ops).WellFormed ∧ (runNew ops).Records (historyNew ops) :=
    run_history_invariant
      (I := fun (self : MemoryManager) events => self.WellFormed ∧ self.Records events)
      (fun self events op h => ⟨h.1.step op, h.2.step h.1 op⟩)
      ⟨wellFormed_new, records_new⟩ ops
  exact hboth.2

/-! ## Lookups -/

theorem WellFormed.sharedRegion_of_live {self : MemoryManager} (hself : self.WellFormed)
    {i : Fin maxSharedRegions} (hi : self.Live i) {handle : SharedMemoryHandle}
    (hid : (self.regionAt i).handle.id = handle.id) :
    self.sharedRegion handle = .ok (self.regionAt i) := by
  have hslot : position self.sharedRegions (namedBy handle) = some i := by
    refine position_of_unique (namedBy_iff.mpr ⟨hid, hi⟩) fun j hj => ?_
    obtain ⟨hid', hj⟩ := namedBy_iff.mp hj
    exact hself.id_unique j i hj hi (hid'.trans hid.symm)
  rw [sharedRegion, first, hslot]
  rfl

theorem sharedRegion_of_not_live {self : MemoryManager} {handle : SharedMemoryHandle}
    (h : ∀ i, self.Live i → (self.regionAt i).handle.id ≠ handle.id) :
    self.sharedRegion handle = .error .notFound := by
  have hnone : first self.sharedRegions (namedBy handle) = none := by
    rw [first_eq_none_iff]
    intro i
    rw [Bool.eq_false_iff]
    intro hnamed
    obtain ⟨hid, hi⟩ := namedBy_iff.mp hnamed
    exact h i hi hid
  rw [sharedRegion, hnone]

theorem mem_shares_iff {events : List MemoryEvent} {region : SharedRegion} :
    region ∈ shares events ↔ ∃ ownerTask start len permissions handle,
      (.shareRegion ownerTask start len permissions, .ok (.shared handle)) ∈ events ∧
        region =
          { handle := { id := handle.id, ownerTask, permissions := permissions.bits }
            start
            len
            isSealed := false } := by
  rw [shares, List.mem_filterMap]
  constructor
  · rintro ⟨event, hevent, hshared⟩
    unfold sharedBy at hshared
    split at hshared
    · cases hshared
      exact ⟨_, _, _, _, _, hevent, rfl⟩
    · contradiction
  · rintro ⟨ownerTask, start, len, permissions, handle, hevent, rfl⟩
    exact ⟨_, hevent, rfl⟩

def sharedIds (events : List MemoryEvent) : List UInt64 :=
  (shares events).map fun region => region.handle.id

theorem Records.id_ne_zero {self : MemoryManager} {events : List MemoryEvent}
    (h : self.Records events) {id : UInt64} (hid : id ∈ sharedIds events) : id ≠ 0 := by
  obtain ⟨region, hregion, rfl⟩ := List.mem_map.mp hid
  obtain ⟨i, hi, heq⟩ := h.kept region hregion
  rw [Live, heq, id_recorded] at hi
  exact hi

theorem Records.ids_nodup {self : MemoryManager} {events : List MemoryEvent}
    (h : self.Records events) : (sharedIds events).Nodup :=
  List.pairwise_map.mpr (h.ids_increasing.imp fun hlt => UInt64.ne_of_lt hlt)

theorem Records.unknown {self : MemoryManager} {events : List MemoryEvent}
    (h : self.Records events) {handle : SharedMemoryHandle}
    (hunknown : handle.id ∉ sharedIds events) :
    self.sharedRegion handle = .error .notFound ∧
      self.sealSharedRegion handle = (.error .notFound, self) := by
  have hnone : ∀ i, self.Live i → (self.regionAt i).handle.id ≠ handle.id := by
    intro i hi hid
    obtain ⟨region, hregion, heq⟩ := h.held i hi
    refine hunknown (List.mem_map.mpr ⟨region, hregion, ?_⟩)
    rw [← hid, heq, id_recorded]
  refine ⟨sharedRegion_of_not_live hnone, ?_⟩
  rcases self.sealSharedRegion_cases handle with ⟨hs, -⟩ | ⟨slot, hlive, hid, -⟩
  · exact hs
  · exact absurd hid (hnone slot hlive)

/--
A handle that a share returned names, after any further operations, a region
with the identifier, owner and range of that share.  Its rights are those asked
for until a seal names it, and from then on those rights without writing and
with the seal.  Identifiers are nonzero and never reused, and one that no share
returned is not found.
-/
theorem registry_append_only (ops : List MemoryOp) :
    (∀ ownerTask start len permissions handle,
      (.shareRegion ownerTask start len permissions, .ok (.shared handle)) ∈
          historyNew ops →
        (runNew ops).sharedRegion handle = .ok
          { handle :=
              { id := handle.id
                ownerTask
                permissions :=
                  if handle.id ∈ sealedIds (historyNew ops) then
                    permissions.bits &&& ~~~MemoryPermissions.write.bits |||
                      MemoryPermissions.sealed.bits
                  else permissions.bits }
            start
            len
            isSealed := decide (handle.id ∈ sealedIds (historyNew ops)) }) ∧
      (∀ id ∈ sharedIds (historyNew ops), id ≠ 0) ∧
      (sharedIds (historyNew ops)).Nodup ∧
      ∀ handle, handle.id ∉ sharedIds (historyNew ops) →
        (runNew ops).sharedRegion handle = .error .notFound ∧
          (runNew ops).sealSharedRegion handle = (.error .notFound, runNew ops) := by
  have hrecords := records_run ops
  refine ⟨?_, fun id hid => hrecords.id_ne_zero hid, hrecords.ids_nodup,
    fun handle hunknown => hrecords.unknown hunknown⟩
  intro ownerTask start len permissions handle hevent
  obtain ⟨i, hi, heq⟩ := hrecords.kept _
    (mem_shares_iff.mpr ⟨_, _, _, _, _, hevent, rfl⟩)
  have hid : ((runNew ops).regionAt i).handle.id = handle.id := by
    rw [heq, id_recorded]
  rw [(wellFormed_runNew ops).sharedRegion_of_live hi hid, heq]
  unfold recorded
  split_ifs with hsealed
  · simp [sealRegion, hsealed]
  · simp [hsealed]

def sealedTwice : List MemoryOp :=
  [.shareRegion 1 0x1000 64 .write,
    .shareRegion 2 0x2000 64 .read,
    .sealSharedRegion { id := 1, ownerTask := 1, permissions := 0 },
    .sealSharedRegion { id := 1, ownerTask := 2, permissions := 0 }]

theorem registry_append_only_sealedTwice :
    (runNew sealedTwice).sharedRegion { id := 1, ownerTask := 1, permissions := 2 } =
        .ok
          { handle := { id := 1, ownerTask := 1, permissions := 32 }
            start := 0x1000
            len := 64
            isSealed := true } ∧
      (runNew sealedTwice).sharedRegion .invalid = .error .notFound := by
  obtain ⟨hshared, -, -, hunknown⟩ := registry_append_only sealedTwice
  refine ⟨?_, (hunknown .invalid (by decide +kernel)).1⟩
  rw [hshared 1 0x1000 64 .write _ (by decide +kernel)]
  decide +kernel

end MemoryManager

end AlaniKernel
