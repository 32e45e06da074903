import AlaniKernel.Capability.Registry

/-!
# Authority attenuates along derivation chains

A handle derived from another never resolves to rights outside those its parent
had at that moment, nor outside those of the root grant of its chain.
-/

namespace AlaniKernel

open AlaniKernel.Foundation

namespace CapabilitySet

theorem containsAll_iff {self required : CapabilitySet} :
    self.containsAll required = true ↔
      self.bits &&& required.bits = required.bits := by
  simp [containsAll]

theorem containsAll_refl (self : CapabilitySet) :
    self.containsAll self = true := by
  simp [containsAll_iff]

theorem containsAll_trans {first second third : CapabilitySet}
    (h : first.containsAll second = true) (h' : second.containsAll third = true) :
    first.containsAll third = true := by
  rw [containsAll_iff] at h h' ⊢
  rw [← h', ← UInt64.and_assoc, h]

end CapabilitySet

namespace CapabilityRegistry

theorem WellFormed.resolve_granted {registry after : CapabilityRegistry}
    {child handle : CapabilityHandle} {rights got : CapabilitySet}
    (hw : registry.WellFormed) (hg : registry.Grants child rights after)
    (hnames : child.Names handle) (later : List RegistryOp)
    (hr : (run CapabilityRegistry.step after later).resolve handle = .ok got) :
    got = rights := by
  have hafter := hw.grants hg
  have hid : handle.id.toNat < after.nextId.toNat := by
    rw [hg.nextId, ← hnames.1, hg.id]
    omega
  have hlater : (run CapabilityRegistry.step after later).WellFormed :=
    run_invariant (I := WellFormed) (fun _ op h => h.step op) hafter later
  have hheld : after.Holds handle got.bits := by
    by_contra hnot
    exact hafter.not_holds_run hid hnot later (hlater.holds_of_resolve hr)
  rcases (hw.holds_grants hg handle _).mp hheld with ⟨-, hbits⟩ | hold
  · rw [hg.rights] at hbits
    exact CapabilitySet.bits_inj.mp hbits.symm
  · have hlt := hw.holds_lt hold
    rw [← hnames.1, hg.id] at hlt
    omega

theorem WellFormed.derive_attenuates {registry : CapabilityRegistry}
    (hw : registry.WellFormed) {parent child handle : CapabilityHandle}
    {ownerTask : TaskId} {requested got : CapabilitySet}
    (hderive : (registry.derive parent ownerTask requested).1 = .ok child)
    (hnames : child.Names handle) (later : List RegistryOp)
    (hr : (run CapabilityRegistry.step
      (registry.derive parent ownerTask requested).2 later).resolve handle =
        .ok got) :
    ∃ parentRights, registry.resolve parent = .ok parentRights ∧
      parentRights.containsAll got = true := by
  rcases registry.derive_cases parent ownerTask requested with
    ⟨error, hs⟩ | ⟨granted, after, parentRights, hs, hparent, hsub, hg⟩
  · simp [hs] at hderive
  · simp only [hs, Except.ok.injEq] at hderive hr
    subst hderive
    exact ⟨parentRights, hparent, hw.resolve_granted hg hnames later hr ▸ hsub⟩

/--
`Chain root ops handle`: in the run `ops` from a new registry, `handle` was
issued with the rights `root` or derived from a handle of such a chain.  The
parent is named by id and generation; its other fields may be forged.
-/
inductive Chain (root : CapabilitySet) :
    List RegistryOp → CapabilityHandle → Prop where
  | issue {ops : List RegistryOp} {ownerTask : TaskId} {handle : CapabilityHandle}
      (issued : ((runNew ops).issue ownerTask root).1 = .ok handle) :
      Chain root (ops ++ [.issue ownerTask root]) handle
  | derive {ops : List RegistryOp} {parent named child : CapabilityHandle}
      {ownerTask : TaskId} {requested : CapabilitySet}
      (chain : Chain root ops parent) (names : parent.Names named)
      (derived : ((runNew ops).derive named ownerTask requested).1 = .ok child) :
      Chain root (ops ++ [.derive named ownerTask requested]) child
  | later {ops : List RegistryOp} {handle : CapabilityHandle}
      (chain : Chain root ops handle) (op : RegistryOp) :
      Chain root (ops ++ [op]) handle

theorem Chain.within_root {root : CapabilitySet} {ops : List RegistryOp}
    {handle : CapabilityHandle} (h : Chain root ops handle) :
    handle.id.toNat < (runNew ops).nextId.toNat ∧
      ∀ named got, handle.Names named → (runNew ops).resolve named = .ok got →
        root.containsAll got = true := by
  induction h with
  | @issue ops ownerTask handle issued =>
      have hw := wellFormed_run ops
      rw [runNew, run_snoc]
      rcases (runNew ops).issue_cases ownerTask root with
        ⟨error, hs⟩ | ⟨granted, after, hs, hg⟩
      · simp [hs] at issued
      · simp only [hs, Except.ok.injEq] at issued
        subst issued
        simp only [step, hs]
        refine ⟨?_, fun named got hnames hr => ?_⟩
        · rw [hg.id, hg.nextId]
          omega
        · rw [hw.resolve_granted hg hnames [] hr]
          exact root.containsAll_refl
  | @derive ops parent named child ownerTask requested chain names derived ih =>
      have hw := wellFormed_run ops
      rw [runNew, run_snoc]
      rcases (runNew ops).derive_cases named ownerTask requested with
        ⟨error, hs⟩ | ⟨granted, after, parentRights, hs, hparent, hsub, hg⟩
      · simp [hs] at derived
      · simp only [hs, Except.ok.injEq] at derived
        subst derived
        simp only [step, hs]
        refine ⟨?_, fun other got hnames hr => ?_⟩
        · rw [hg.id, hg.nextId]
          omega
        · rw [hw.resolve_granted hg hnames [] hr]
          exact CapabilitySet.containsAll_trans
            (ih.2 named parentRights names hparent) hsub
  | @later ops handle chain op ih =>
      have hw := wellFormed_run ops
      rw [runNew, run_snoc]
      refine ⟨lt_of_lt_of_le ih.1 (nextId_le_step _ op), fun named got hnames hr => ?_⟩
      have hid : named.id.toNat < (runNew ops).nextId.toNat := hnames.1 ▸ ih.1
      have hheld := hw.holds_step hid ((hw.step op).holds_of_resolve hr)
      have hsame : (runNew ops).resolve named = .ok got := by
        obtain ⟨i, hi, hbits⟩ := hheld
        obtain ⟨j, hj, hbits'⟩ := (hw.step op).holds_of_resolve hr
        rw [(hw.step op).resolve_live hj, hbits'] at hr
        rw [hw.resolve_live hi, hbits, hr]
      exact ih.2 named got hnames hsame

/--
In every run of a new registry a derived handle resolves, then and ever after,
only to rights that its parent's record held at the derivation, and every
handle of a chain only to rights of the root grant.
-/
theorem authority_attenuates (ops : List RegistryOp) :
    (∀ parent ownerTask requested child later named got,
        ((runNew ops).derive parent ownerTask requested).1 = .ok child →
        child.Names named →
        (run step ((runNew ops).derive parent ownerTask requested).2
          later).resolve named = .ok got →
        ∃ parentRights, (runNew ops).resolve parent = .ok parentRights ∧
          parentRights.containsAll got = true) ∧
      ∀ root handle named got, Chain root ops handle → handle.Names named →
        (runNew ops).resolve named = .ok got → root.containsAll got = true := by
  constructor
  · intro parent ownerTask requested child later named got hderive hnames hr
    exact (wellFormed_run ops).derive_attenuates hderive hnames later hr
  · intro root handle named got hchain hnames hr
    exact hchain.within_root.2 named got hnames hr

/-- A forged parent is revoked, and its slot is issued again with wider rights. -/
theorem authority_attenuates_reissued :
    let root : CapabilityHandle := { id := 1, rights := 5, ownerTask := 1, generation := 1 }
    let forged : CapabilityHandle := { root with rights := 0xffff, ownerTask := 9 }
    (∃ parentRights, (runNew [.issue 1 ⟨5⟩]).resolve forged = .ok parentRights ∧
        parentRights.containsAll ⟨4⟩ = true) ∧
      CapabilitySet.containsAll ⟨5⟩ ⟨4⟩ = true := by
  intro root forged
  let child : CapabilityHandle :=
    { id := 2, rights := 4, ownerTask := 2, generation := 2 }
  have hissued : Chain ⟨5⟩ ([] ++ [.issue 1 ⟨5⟩]) root := .issue (by decide +kernel)
  have hderived : Chain ⟨5⟩ ([.issue 1 ⟨5⟩] ++ [.derive forged 2 ⟨4⟩]) child :=
    .derive hissued ⟨rfl, rfl⟩ (by decide +kernel)
  have hrevoked : Chain ⟨5⟩
      ([.issue 1 ⟨5⟩, .derive forged 2 ⟨4⟩] ++ [.revoke forged]) child :=
    .later hderived _
  have hreissued : Chain ⟨5⟩
      ([.issue 1 ⟨5⟩, .derive forged 2 ⟨4⟩, .revoke forged] ++ [.issue 3 ⟨7⟩]) child :=
    .later hrevoked _
  constructor
  · exact (authority_attenuates [.issue 1 ⟨5⟩]).1 forged 2 ⟨4⟩ child
      [.revoke forged, .issue 3 ⟨7⟩] child ⟨4⟩ (by decide +kernel) ⟨rfl, rfl⟩
      (by decide +kernel)
  · exact (authority_attenuates _).2 ⟨5⟩ child child ⟨4⟩ hreissued ⟨rfl, rfl⟩
      (by decide +kernel)

end CapabilityRegistry

end AlaniKernel
