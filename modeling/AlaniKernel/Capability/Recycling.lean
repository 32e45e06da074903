import AlaniKernel.Capability.Refinement

/-!
# The slots of the registry are recycled

A revoked record is free again, but its identifier is not: the records in use
are the grants that no revocation has ended, and the identifiers count all
grants.  What the history has granted and revoked decides every later operation.
-/

namespace AlaniKernel

open AlaniKernel.Foundation

namespace CapabilityRegistry

def grantedId : RegistryEvent → Option UInt64
  | (_, .ok (.granted handle)) => some handle.id
  | _ => none

def isRevocation : RegistryEvent → Bool
  | (_, .ok .revoked) => true
  | _ => false

def grantedIds (events : List RegistryEvent) : List UInt64 :=
  events.filterMap grantedId

def revocations (events : List RegistryEvent) : Nat := events.countP isRevocation

theorem revocations_snoc (events : List RegistryEvent) (event : RegistryEvent) :
    revocations (events ++ [event]) =
      revocations events + if isRevocation event then 1 else 0 := by
  rw [revocations, List.countP_append, List.countP_singleton]
  rfl

theorem grantedIds_snoc (events : List RegistryEvent) (event : RegistryEvent) :
    grantedIds (events ++ [event]) = grantedIds events ++ (grantedId event).toList :=
  filterMap_snoc grantedId events event

/-! ## The records in use -/

theorem WellFormed.card_grants {self after : CapabilityRegistry} {handle : CapabilityHandle}
    {rights : CapabilitySet} (h : self.WellFormed) (hg : self.Grants handle rights after) :
    after.liveRecords.card = self.liveRecords.card + 1 := by
  obtain ⟨slot, hfree, hrecords⟩ := hg.slot
  have hunused : slot ∉ self.liveRecords := by
    rw [mem_liveRecords]
    intro hlive
    rcases hfree with hzero | hrevoked
    · exact h.id_ne_zero slot hlive hzero
    · rw [hrevoked] at hlive
      contradiction
  have hnow : after.liveRecords = insert slot self.liveRecords := by
    ext i
    rw [Finset.mem_insert, mem_liveRecords, mem_liveRecords, hrecords, get_set]
    by_cases hi : i = slot <;> simp [hi]
  rw [hnow, Finset.card_insert_of_notMem hunused]

theorem card_revoked {self after : CapabilityRegistry} {slot : Fin maxCapabilityRecords}
    (hlive : (self.records.get slot).revoked = false)
    (hrecords : after.records =
      self.records.set slot { self.records.get slot with revoked := true } slot.isLt) :
    after.liveRecords.card + 1 = self.liveRecords.card := by
  have hnow : after.liveRecords = self.liveRecords.erase slot := by
    ext i
    rw [Finset.mem_erase, mem_liveRecords, mem_liveRecords, hrecords, get_set]
    by_cases hi : i = slot <;> simp [hi]
  rw [hnow, Finset.card_erase_add_one (mem_liveRecords.mpr hlive)]

/-! ## The balance of grants and revocations -/

/-- Identifiers count the grants, and records the grants that are not revoked. -/
structure Balanced (registry : CapabilityRegistry) (events : List RegistryEvent) :
    Prop where
  numbered : (grantedIds events).map UInt64.toNat =
    List.range' 1 (grantedIds events).length
  next : registry.nextId.toNat = (grantedIds events).length + 1
  balance : registry.liveRecords.card + revocations events = (grantedIds events).length

theorem balanced_new : new.Balanced [] where
  numbered := rfl
  next := rfl
  balance := by decide +kernel

theorem Balanced.step {self : CapabilityRegistry} {events : List RegistryEvent}
    (hw : self.WellFormed) (h : self.Balanced events) (op : RegistryOp) :
    (self.step op).2.Balanced (events ++ [(op, (self.step op).1)]) := by
  have hnumbered := h.numbered
  have hnext := h.next
  have hbalance := h.balance
  rcases self.step_cases op with ⟨error, hs⟩ | ⟨handle, rights, -, hreply, hg⟩ |
    ⟨named, slot, -, hreply, hlive, hrecords, hkept⟩
  · have hids : grantedIds (events ++ [(op, (self.step op).1)]) = grantedIds events := by
      rw [grantedIds_snoc, hs]
      exact List.append_nil _
    refine ⟨?_, ?_, ?_⟩ <;> rw [hids]
    · exact hnumbered
    · rw [hs]
      exact hnext
    · rw [revocations_snoc, hs]
      exact hbalance
  · have hids : grantedIds (events ++ [(op, (self.step op).1)]) =
        grantedIds events ++ [self.nextId] := by
      rw [grantedIds_snoc, hreply, grantedId, Option.toList_some, hg.id]
    have hlength : (grantedIds (events ++ [(op, (self.step op).1)])).length =
        (grantedIds events).length + 1 := by
      rw [hids, List.length_append, List.length_singleton]
    refine ⟨?_, ?_, ?_⟩
    · rw [hlength, hids, List.map_append, hnumbered, List.range'_1_concat, List.map_singleton,
        hnext, Nat.add_comm 1]
    · rw [hlength, hg.nextId, hnext]
    · rw [hlength, hw.card_grants hg, revocations_snoc, hreply]
      change _ + 1 + (revocations events + 0) = _
      omega
  · have hids : grantedIds (events ++ [(op, (self.step op).1)]) = grantedIds events := by
      rw [grantedIds_snoc, hreply]
      exact List.append_nil _
    have hcard := card_revoked (liveAs_iff.mp hlive).1 hrecords
    refine ⟨?_, ?_, ?_⟩ <;> rw [hids]
    · exact hnumbered
    · rw [hkept]
      exact hnext
    · rw [revocations_snoc, hreply]
      change _ + (revocations events + 1) = _
      omega

theorem balanced_run (ops : List RegistryOp) : (runNew ops).Balanced (historyNew ops) := by
  have hrun : (runNew ops).WellFormed ∧ (runNew ops).Balanced (historyNew ops) :=
    run_history_invariant (I := fun (registry : CapabilityRegistry) events =>
        registry.WellFormed ∧ registry.Balanced events)
      (fun _ _ op h => ⟨h.1.step op, h.2.step h.1 op⟩) ⟨wellFormed_new, balanced_new⟩ ops
  exact hrun.2

/-! ## What the operations accept -/

theorem derive_ok_iff_issue (self : CapabilityRegistry) (parent : CapabilityHandle)
    (ownerTask : TaskId) (requested : CapabilitySet) :
    (∃ child, (self.derive parent ownerTask requested).1 = .ok child) ↔
      (∃ rights, self.resolve parent = .ok rights ∧ rights.containsAll requested = true) ∧
        ∃ child, (self.issue ownerTask requested).1 = .ok child := by
  unfold derive
  cases hparent : self.resolve parent with
  | error error => simp
  | ok rights =>
      by_cases hsub : rights.containsAll requested = true
      · simp [CapabilitySet.derive, hsub]
      · simp [CapabilitySet.derive, hsub]

theorem revoke_ok_iff (self : CapabilityRegistry) (handle : CapabilityHandle) :
    (self.revoke handle).1 = .ok () ↔ ∃ bits, self.Holds handle bits := by
  rcases self.revoke_cases handle with ⟨hs, hnone⟩ | ⟨slot, after, hs, hlive, -, -⟩
  · rw [hs]
    refine iff_of_false (by simp) ?_
    rintro ⟨bits, i, hlive, -⟩
    rw [hnone i] at hlive
    contradiction
  · rw [hs]
    exact iff_of_true rfl ⟨_, slot, hlive, rfl⟩

/--
After any run the handles granted carry 1, 2, 3 and so on, and at most 64 of
them are not revoked.  `issue` succeeds exactly while fewer are and a further
identifier fits, `derive` exactly if moreover its parent resolves to rights that
contain the requested ones, and `revoke` exactly on a live grant.
-/
theorem slots_recycled (ops : List RegistryOp) :
    (grantedIds (historyNew ops)).map UInt64.toNat =
        List.range' 1 (grantedIds (historyNew ops)).length ∧
      (grantedIds (historyNew ops)).length ≤ revocations (historyNew ops) + 64 ∧
      (∀ ownerTask rights,
        (∃ handle, ((runNew ops).issue ownerTask rights).1 = .ok handle) ↔
          (grantedIds (historyNew ops)).length < revocations (historyNew ops) + 64 ∧
            (grantedIds (historyNew ops)).length + 2 < 2 ^ 64) ∧
      (∀ parent ownerTask requested,
        (∃ child, ((runNew ops).derive parent ownerTask requested).1 = .ok child) ↔
          (∃ rights, (runNew ops).resolve parent = .ok rights ∧
            rights.containsAll requested = true) ∧
          (grantedIds (historyNew ops)).length < revocations (historyNew ops) + 64 ∧
            (grantedIds (historyNew ops)).length + 2 < 2 ^ 64) ∧
      ∀ handle, ((runNew ops).revoke handle).1 = .ok () ↔
        ∃ rights, LiveGrant (historyNew ops) handle rights := by
  have hw := wellFormed_run ops
  have hbalanced := balanced_run ops
  have hbalance := hbalanced.balance
  have hnext := hbalanced.next
  have hissue : ∀ ownerTask rights,
      (∃ handle, ((runNew ops).issue ownerTask rights).1 = .ok handle) ↔
        (grantedIds (historyNew ops)).length < revocations (historyNew ops) + 64 ∧
          (grantedIds (historyNew ops)).length + 2 < 2 ^ 64 := by
    intro ownerTask rights
    rw [issue_ok_iff hw]
    constructor <;> omega
  refine ⟨hbalanced.numbered, ?_, hissue, fun parent ownerTask requested => ?_,
    fun handle => ?_⟩
  · have hle := (runNew ops).card_liveRecords_le
    omega
  · rw [derive_ok_iff_issue, hissue]
  · rw [revoke_ok_iff]
    constructor
    · rintro ⟨bits, hheld⟩
      exact ⟨⟨bits⟩, (refines_run ops handle ⟨bits⟩).mp hheld⟩
    · rintro ⟨rights, hlive⟩
      exact ⟨rights.bits, (refines_run ops handle rights).mpr hlive⟩

end CapabilityRegistry

end AlaniKernel
