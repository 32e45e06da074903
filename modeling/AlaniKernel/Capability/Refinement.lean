import AlaniKernel.Capability.Registry
import Mathlib.Data.Set.Card

/-!
# The registry refines a map of live grants

The abstract side is read off the history alone: a handle is live with the
rights it was granted until a revocation names it.  The records of the registry
answer exactly as that history does.
-/

namespace AlaniKernel

open AlaniKernel.Foundation

abbrev RegistryEvent := RegistryOp × KernelResult RegistryReply

namespace CapabilityRegistry

/-! ## Live grants of a history -/

/-- The event asked for these rights and returned a handle with this id and generation. -/
def GrantedBy (event : RegistryEvent) (handle : CapabilityHandle)
    (rights : CapabilitySet) : Prop :=
  event.1.requested = some rights ∧
    ∃ granted, event.2 = .ok (.granted granted) ∧ granted.Names handle

def RevokedBy (event : RegistryEvent) (handle : CapabilityHandle) : Prop :=
  ∃ named, event = (.revoke named, .ok .revoked) ∧ named.Names handle

def LiveGrant (events : List RegistryEvent) (handle : CapabilityHandle)
    (rights : CapabilitySet) : Prop :=
  ∃ before event after, events = before ++ event :: after ∧
    GrantedBy event handle rights ∧ ∀ later ∈ after, ¬ RevokedBy later handle

def liveKeys (events : List RegistryEvent) : Set (UInt64 × UInt32) :=
  { key | ∃ handle rights, LiveGrant events handle rights ∧
      key = (handle.id, handle.generation) }

theorem liveGrant_snoc (events : List RegistryEvent) (event : RegistryEvent)
    (handle : CapabilityHandle) (rights : CapabilitySet) :
    LiveGrant (events ++ [event]) handle rights ↔
      GrantedBy event handle rights ∨
        LiveGrant events handle rights ∧ ¬ RevokedBy event handle := by
  constructor
  · rintro ⟨before, granting, after, heq, hgranted, hkept⟩
    rcases List.eq_nil_or_concat after with rfl | ⟨after, last, rfl⟩
    · obtain ⟨-, hlast⟩ := List.append_inj' heq rfl
      cases hlast
      exact .inl hgranted
    · rw [List.concat_eq_append, ← List.cons_append, ← List.append_assoc] at heq
      obtain ⟨hevents, hlast⟩ := List.append_inj' heq rfl
      cases hlast
      refine .inr ⟨⟨before, granting, after, hevents, hgranted, ?_⟩, ?_⟩
      · intro later hlater
        exact hkept later (by simp [hlater])
      · exact hkept event (by simp)
  · rintro (hgranted | ⟨⟨before, granting, after, rfl, hgranted, hkept⟩, hlast⟩)
    · exact ⟨events, event, [], rfl, hgranted, by simp⟩
    · refine ⟨before, granting, after ++ [event], by simp, hgranted, ?_⟩
      intro later hlater
      rcases List.mem_append.mp hlater with hlater | hlater
      · exact hkept later hlater
      · rw [List.mem_singleton.mp hlater]
        exact hlast

/-! ## The refinement -/

def Refines (registry : CapabilityRegistry) (events : List RegistryEvent) : Prop :=
  ∀ handle rights,
    registry.Holds handle rights.bits ↔ LiveGrant events handle rights

theorem refines_new : new.Refines [] := by
  intro handle rights
  constructor
  · rintro ⟨i, hi, -⟩
    simp [new, liveAs, CapabilityRecord.empty] at hi
  · rintro ⟨before, event, after, heq, -⟩
    simp at heq

theorem Refines.step {registry : CapabilityRegistry} {events : List RegistryEvent}
    (hw : registry.WellFormed) (h : registry.Refines events) (op : RegistryOp) :
    (registry.step op).2.Refines (events ++ [(op, (registry.step op).1)]) := by
  intro handle rights
  rw [liveGrant_snoc, ← h handle rights]
  rcases registry.step_cases op with ⟨error, hs⟩ | ⟨granted, given, hrequested, hreply, hg⟩ |
    ⟨named, slot, rfl, hreply, hlive, hrecords, -⟩
  · simp [hs, GrantedBy, RevokedBy]
  · have hgiven : granted.rights = rights.bits ↔ given = rights := by
      rw [hg.rights]
      exact CapabilitySet.bits_inj
    rw [hw.holds_grants hg, hgiven]
    simp [hrequested, hreply, GrantedBy, RevokedBy, and_comm]
  · rw [hw.holds_revoked hlive hrecords]
    simp [hreply, GrantedBy, RevokedBy]

theorem refines_run (ops : List RegistryOp) :
    (runNew ops).Refines (historyNew ops) := by
  have hrun : (runNew ops).WellFormed ∧ (runNew ops).Refines (historyNew ops) :=
    run_history_invariant (I := fun (registry : CapabilityRegistry) events =>
        registry.WellFormed ∧ registry.Refines events)
      (fun _ _ op h => ⟨h.1.step op, h.2.step h.1 op⟩) ⟨wellFormed_new, refines_new⟩ ops
  exact hrun.2

/-! ## Rights stay within the known bits -/

def RegistryOp.IssuesKnown : RegistryOp → Prop
  | .issue _ rights => rights.bits &&& ~~~knownCapabilityBits = 0
  | _ => True

def RightsKnown (registry : CapabilityRegistry) : Prop :=
  ∀ handle bits, registry.Holds handle bits →
    bits &&& ~~~knownCapabilityBits = 0

theorem rightsKnown_new : new.RightsKnown := by
  rintro handle bits ⟨i, hi, -⟩
  simp [new, liveAs, CapabilityRecord.empty] at hi

theorem known_of_containsAll {parent requested : CapabilitySet}
    (hparent : parent.bits &&& ~~~knownCapabilityBits = 0)
    (h : parent.containsAll requested = true) :
    requested.bits &&& ~~~knownCapabilityBits = 0 := by
  simp only [CapabilitySet.containsAll, beq_iff_eq] at h
  rw [← h, UInt64.and_comm parent.bits, UInt64.and_assoc, hparent]
  simp

theorem RightsKnown.step {registry : CapabilityRegistry}
    (hw : registry.WellFormed) (h : registry.RightsKnown) (op : RegistryOp)
    (hop : RegistryOp.IssuesKnown op) : (registry.step op).2.RightsKnown := by
  have hgrant : ∀ {handle : CapabilityHandle} {rights : CapabilitySet}
      {after : CapabilityRegistry}, registry.Grants handle rights after →
      rights.bits &&& ~~~knownCapabilityBits = 0 → after.RightsKnown := by
    intro handle rights after hg hknown other bits hh
    rcases (hw.holds_grants hg other bits).mp hh with ⟨-, hbits⟩ | hh
    · rw [← hbits, hg.rights]
      exact hknown
    · exact h other bits hh
  cases op with
  | issue ownerTask rights =>
      rcases registry.issue_cases ownerTask rights with
        ⟨error, hs⟩ | ⟨handle, after, hs, hg⟩
      · simpa [CapabilityRegistry.step, hs] using h
      · simpa [CapabilityRegistry.step, hs] using hgrant hg hop
  | derive parent ownerTask requested =>
      rcases registry.derive_cases parent ownerTask requested with
        ⟨error, hs⟩ | ⟨handle, after, parentRights, hs, hparent, hsub, hg⟩
      · simpa [CapabilityRegistry.step, hs] using h
      · have hknown := h parent _ (hw.holds_of_resolve hparent)
        simpa [CapabilityRegistry.step, hs] using
          hgrant hg (known_of_containsAll hknown hsub)
  | revoke named =>
      intro other bits hh
      rcases registry.revoke_cases named with
        ⟨hs, -⟩ | ⟨slot, after, hs, hlive, hrecords, -⟩
      · rw [CapabilityRegistry.step, hs] at hh
        exact h other bits hh
      · rw [CapabilityRegistry.step, hs] at hh
        exact h other bits ((hw.holds_revoked hlive hrecords other bits).mp hh).1

theorem rightsKnown_run {ops : List RegistryOp}
    (hops : ∀ op ∈ ops, RegistryOp.IssuesKnown op) : (runNew ops).RightsKnown := by
  have hrun : (runNew ops).WellFormed ∧ (runNew ops).RightsKnown :=
    run_invariant_of_along (I := fun registry : CapabilityRegistry =>
        registry.WellFormed ∧ registry.RightsKnown)
      (fun _ op h hop => ⟨h.1.step op, h.2.step h.1 op hop⟩)
      ⟨wellFormed_new, rightsKnown_new⟩ (along_of_mem hops new)
  exact hrun.2

/-! ## Capacity -/

theorem Refines.liveKeys_eq {registry : CapabilityRegistry}
    {events : List RegistryEvent} (h : registry.Refines events) :
    liveKeys events =
      (fun i : Fin maxCapabilityRecords =>
        ((registry.records.get i).handle.id,
          (registry.records.get i).handle.generation)) ''
      { i | (registry.records.get i).revoked = false } := by
  ext key
  constructor
  · rintro ⟨handle, rights, hlive, rfl⟩
    obtain ⟨i, hi, -⟩ := (h handle rights).mpr hlive
    obtain ⟨hrevoked, hid, hgeneration⟩ := liveAs_iff.mp hi
    exact ⟨i, hrevoked, Prod.ext hid hgeneration⟩
  · rintro ⟨i, hrevoked, rfl⟩
    refine ⟨(registry.records.get i).handle,
      ⟨(registry.records.get i).handle.rights⟩, ?_, rfl⟩
    rw [← h]
    exact ⟨i, liveAs_iff.mpr ⟨hrevoked, rfl, rfl⟩, rfl⟩

def liveRecords (self : CapabilityRegistry) : Finset (Fin maxCapabilityRecords) :=
  {i | (self.records.get i).revoked = false}

@[simp] theorem mem_liveRecords {self : CapabilityRegistry} {i : Fin maxCapabilityRecords} :
    i ∈ self.liveRecords ↔ (self.records.get i).revoked = false := by
  simp [liveRecords]

theorem card_liveRecords_le (self : CapabilityRegistry) : self.liveRecords.card ≤ 64 := by
  have hle := Finset.card_le_univ self.liveRecords
  rwa [Fintype.card_fin] at hle

theorem card_liveRecords_eq_iff {self : CapabilityRegistry} :
    self.liveRecords.card = 64 ↔ ∀ i, (self.records.get i).revoked = false := by
  simp only [← mem_liveRecords]
  rw [← Finset.eq_univ_iff_forall, ← Finset.card_eq_iff_eq_univ, Fintype.card_fin]

theorem Refines.ncard_liveKeys {registry : CapabilityRegistry}
    {events : List RegistryEvent} (hw : registry.WellFormed)
    (h : registry.Refines events) :
    (liveKeys events).ncard = registry.liveRecords.card := by
  have hinj : Set.InjOn (fun i : Fin maxCapabilityRecords =>
      ((registry.records.get i).handle.id,
        (registry.records.get i).handle.generation))
      { i | (registry.records.get i).revoked = false } := by
    intro i hi j hj heq
    exact hw.id_inj i j hi hj (congrArg Prod.fst heq)
  rw [h.liveKeys_eq, hinj.ncard_image, ← Set.ncard_coe_finset]
  congr 1
  ext i
  simp

theorem WellFormed.no_free_slot_iff {registry : CapabilityRegistry}
    (hw : registry.WellFormed) :
    position registry.records
        (fun record => record.handle.id == 0 || record.revoked) = none ↔
      registry.liveRecords.card = 64 := by
  rw [position_eq_none_iff, card_liveRecords_eq_iff]
  refine forall_congr' fun i => ?_
  have hne := hw.id_ne_zero i
  simp only [Bool.or_eq_false_iff, beq_eq_false_iff_ne]
  exact ⟨And.right, fun h => ⟨hne h, h⟩⟩

theorem issue_full_iff {registry : CapabilityRegistry} (hw : registry.WellFormed)
    (ownerTask : TaskId) (rights : CapabilitySet) :
    (registry.issue ownerTask rights).1 = .error .capacityExceeded ↔
      registry.liveRecords.card = 64 := by
  rw [← hw.no_free_slot_iff]
  unfold issue
  cases position registry.records
      (fun record => record.handle.id == 0 || record.revoked) with
  | none => simp
  | some slot => cases checkedAdd64 registry.nextId 1 <;> simp

theorem issue_ok_iff {registry : CapabilityRegistry} (hw : registry.WellFormed)
    (ownerTask : TaskId) (rights : CapabilitySet) :
    (∃ handle, (registry.issue ownerTask rights).1 = .ok handle) ↔
      registry.liveRecords.card < 64 ∧ registry.nextId.toNat < 2 ^ 64 - 1 := by
  have hroom : registry.liveRecords.card < 64 ↔ registry.liveRecords.card ≠ 64 :=
    lt_iff_le_and_ne.trans (and_iff_right registry.card_liveRecords_le)
  rw [hroom, Ne, ← hw.no_free_slot_iff]
  unfold issue
  cases position registry.records
      (fun record => record.handle.id == 0 || record.revoked) with
  | none => simp
  | some slot =>
      have hlast := registry.nextId.toNat_lt
      cases hnext : checkedAdd64 registry.nextId 1 with
      | none =>
          have hwraps := checkedAdd64_eq_none_iff.mp hnext
          rw [UInt64.toNat_one] at hwraps
          refine iff_of_false (by simp) ?_
          omega
      | some nextId =>
          have hsum := checkedAdd64_eq_some_iff.mp hnext
          have hbound := nextId.toNat_lt
          rw [UInt64.toNat_one] at hsum
          refine iff_of_true ⟨_, rfl⟩ ⟨by simp, ?_⟩
          omega

/-! ## The registry as a map of live grants -/

theorem resolve_eq_ok_iff {ops : List RegistryOp}
    (hops : ∀ op ∈ ops, RegistryOp.IssuesKnown op) (handle : CapabilityHandle)
    (rights : CapabilitySet) :
    (runNew ops).resolve handle = .ok rights ↔
      LiveGrant (historyNew ops) handle rights := by
  have hw := wellFormed_run ops
  rw [← refines_run ops handle rights]
  constructor
  · exact hw.holds_of_resolve
  · intro hh
    have hknown := rightsKnown_run hops handle _ hh
    obtain ⟨i, hi, hbits⟩ := hh
    rw [hw.resolve_live hi, hbits, fromBits_known hknown]

theorem WellFormed.resolve_revoked {registry : CapabilityRegistry}
    (hw : registry.WellFormed) {named handle : CapabilityHandle}
    (hrevoke : (registry.revoke named).1 = .ok ()) (hnames : named.Names handle)
    (later : List RegistryOp) :
    (run CapabilityRegistry.step (registry.revoke named).2 later).resolve handle =
      .error .notFound := by
  have hstep := hw.step (.revoke named)
  rcases registry.revoke_cases named with ⟨hs, -⟩ |
    ⟨slot, after, hs, hlive, hrecords, hnext⟩
  · simp [hs] at hrevoke
  · rw [hs]
    simp only [CapabilityRegistry.step, hs] at hstep
    have hid : handle.id.toNat < after.nextId.toNat := by
      rw [hnext, ← hnames.1, ← (liveAs_iff.mp hlive).2.1]
      exact hw.id_lt slot
    refine resolve_not_held fun bits => hstep.not_holds_run hid ?_ later
    rw [hw.holds_revoked hlive hrecords]
    exact fun h => h.2 hnames

theorem WellFormed.resolve_revoke_other {registry : CapabilityRegistry}
    (hw : registry.WellFormed) {named other : CapabilityHandle}
    (hother : ¬ named.Names other) :
    (registry.revoke named).2.resolve other = registry.resolve other := by
  have hstep := hw.step (.revoke named)
  rcases registry.revoke_cases named with ⟨hs, -⟩ |
    ⟨slot, after, hs, hlive, hrecords, -⟩
  · rw [hs]
  · simp only [CapabilityRegistry.step, hs] at hstep ⊢
    have hholds := hw.holds_revoked hlive hrecords other
    by_cases hheld : ∃ bits, registry.Holds other bits
    · obtain ⟨bits, hh⟩ := hheld
      obtain ⟨i, hi, hbits⟩ := hh
      obtain ⟨j, hj, hbits'⟩ := (hholds bits).mpr ⟨⟨i, hi, hbits⟩, hother⟩
      rw [hw.resolve_live hi, hstep.resolve_live hj, hbits, hbits']
    · rw [not_exists] at hheld
      rw [resolve_not_held hheld,
        resolve_not_held fun bits hh => hheld bits ((hholds bits).mp hh).1]

theorem granted_requested {ops : List RegistryOp} {op : RegistryOp}
    {handle : CapabilityHandle}
    (h : (op, .ok (.granted handle)) ∈ historyNew ops) :
    op.requested = some ⟨handle.rights⟩ := by
  obtain ⟨before, after, -, hreply⟩ := mem_history h
  rcases (run step new before).step_cases op with ⟨error, hs⟩ |
    ⟨granted, rights, hrequested, hgranted, hg⟩ | ⟨named, slot, -, hrevoked, -⟩
  · rw [hs] at hreply
    contradiction
  · rw [hgranted] at hreply
    cases hreply
    rw [hrequested, hg.rights]
  · rw [hrevoked] at hreply
    simp at hreply

/--
The registry refines the map of live grants: `resolve` answers with the rights
of the live grant and is `NotFound` where there is none, a revoked handle stays
unresolved, and a revocation touches no other handle.  A handle carries the
rights asked for; `issue` is full exactly when sixty-four of them are live, and
below that succeeds as long as identifiers last.
-/
theorem registry_refines_live_grants (ops : List RegistryOp)
    (hops : ∀ op ∈ ops, RegistryOp.IssuesKnown op) :
    (∀ handle rights, (runNew ops).resolve handle = .ok rights ↔
        LiveGrant (historyNew ops) handle rights) ∧
      (∀ handle, (¬ ∃ rights, LiveGrant (historyNew ops) handle rights) →
        (runNew ops).resolve handle = .error .notFound) ∧
      (∀ named handle later, ((runNew ops).revoke named).1 = .ok () →
        named.Names handle →
        (run step ((runNew ops).revoke named).2 later).resolve handle =
          .error .notFound) ∧
      (∀ named other, ¬ named.Names other →
        ((runNew ops).revoke named).2.resolve other =
          (runNew ops).resolve other) ∧
      (∀ op handle, (op, .ok (.granted handle)) ∈ historyNew ops →
        op.requested = some ⟨handle.rights⟩) ∧
      ∀ ownerTask rights,
        (((runNew ops).issue ownerTask rights).1 = .error .capacityExceeded ↔
          (liveKeys (historyNew ops)).ncard = maxCapabilityRecords) ∧
        ((∃ handle, ((runNew ops).issue ownerTask rights).1 = .ok handle) ↔
          (liveKeys (historyNew ops)).ncard < maxCapabilityRecords ∧
            (runNew ops).nextId.toNat < 2 ^ 64 - 1) := by
  have hw := wellFormed_run ops
  have hrefines := refines_run ops
  refine ⟨resolve_eq_ok_iff hops, ?_, ?_, ?_, fun op handle => granted_requested, ?_⟩
  · intro handle hnone
    refine resolve_not_held fun bits hh => hnone ⟨⟨bits⟩, ?_⟩
    exact (hrefines handle ⟨bits⟩).mp hh
  · intro named handle later hrevoke hnames
    exact hw.resolve_revoked hrevoke hnames later
  · intro named other hother
    exact hw.resolve_revoke_other hother
  · intro ownerTask rights
    rw [hrefines.ncard_liveKeys hw]
    exact ⟨issue_full_iff hw ownerTask rights, issue_ok_iff hw ownerTask rights⟩

/-- A child that outlives its parent, and a slot that is free for a third grant. -/
theorem registry_refines_live_grants_child :
    let parent : CapabilityHandle :=
      { id := 1, rights := 5, ownerTask := 1, generation := 1 }
    let child : CapabilityHandle :=
      { id := 2, rights := 4, ownerTask := 2, generation := 2 }
    let ops : List RegistryOp :=
      [.issue 1 ⟨5⟩, .derive parent 2 ⟨4⟩, .revoke parent]
    LiveGrant (historyNew ops) child ⟨4⟩ ∧
      (run step ((runNew [.issue 1 ⟨5⟩, .derive parent 2 ⟨4⟩]).revoke parent).2
        [.issue 3 ⟨1⟩]).resolve parent = .error .notFound ∧
      (liveKeys (historyNew ops)).ncard < maxCapabilityRecords := by
  intro parent child ops
  have hissued : ∀ op ∈ [.issue 1 ⟨5⟩, .derive parent 2 ⟨4⟩], RegistryOp.IssuesKnown op := by
    simp only [List.forall_mem_cons, RegistryOp.IssuesKnown]
    exact ⟨by decide, trivial, by simp⟩
  have hops : ∀ op ∈ ops, RegistryOp.IssuesKnown op := by
    simp only [ops, List.forall_mem_cons, RegistryOp.IssuesKnown]
    exact ⟨by decide, trivial, trivial, by simp⟩
  obtain ⟨hresolve, -, -, -, -, hissue⟩ := registry_refines_live_grants ops hops
  refine ⟨(hresolve child ⟨4⟩).mp (by decide +kernel), ?_, ?_⟩
  · exact (registry_refines_live_grants _ hissued).2.2.1 parent parent [.issue 3 ⟨1⟩]
      (by decide +kernel) ⟨rfl, rfl⟩
  · have hok : ∃ handle, ((runNew ops).issue 3 ⟨1⟩).1 = .ok handle :=
      ⟨{ id := 3, rights := 1, ownerTask := 3, generation := 3 }, by decide +kernel⟩
    exact ((hissue 3 ⟨1⟩).2.mp hok).1

end CapabilityRegistry

end AlaniKernel
