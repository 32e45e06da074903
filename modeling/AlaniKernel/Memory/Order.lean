import AlaniKernel.Memory.Map

/-!
# The boot memory map and the order of the pushes

Firmware reports its regions in any order.  A map accepts all of them exactly
when they fit and no two share an address, and what it then answers depends
only on which regions they are.
-/

namespace AlaniKernel

open AlaniKernel.Foundation

namespace MemoryMap

theorem length_regions (self : MemoryMap) : self.regions.length = self.len := by
  simpa [regions] using self.len_le

theorem push_ok_iff (self : MemoryMap) (region : MemoryRegion) :
    (self.push region).1 = .ok () ↔
      self.regions.length < maxMemoryRegions ∧
        ∀ stored ∈ self.regions, stored.overlaps region = false := by
  rw [length_regions]
  rcases self.push_cases region with
    ⟨error, herror, hwhy⟩ | ⟨next, hnext, hroom, hapart, -⟩
  · rw [herror]
    apply iff_of_false (by simp)
    rintro ⟨hroom, hapart⟩
    rcases hwhy with hfull | ⟨stored, hstored, hoverlap⟩
    · omega
    · rw [hapart stored hstored] at hoverlap
      contradiction
  · rw [hnext]
    exact iff_of_true rfl ⟨hroom, hapart⟩

theorem regions_push {self : MemoryMap} {region : MemoryRegion}
    (h : (self.push region).1 = .ok ()) :
    (self.push region).2.regions = self.regions ++ [region] := by
  rcases self.push_cases region with ⟨error, herror, -⟩ | ⟨next, hnext, -, -, hregions⟩
  · rw [herror] at h
    contradiction
  · rw [hnext]
    exact hregions

def AllPushed (self : MemoryMap) (pushes : List MemoryRegion) : Prop :=
  Along push (fun map region => (map.push region).1 = .ok ()) self pushes

instance (self : MemoryMap) (pushes : List MemoryRegion) :
    Decidable (AllPushed self pushes) :=
  inferInstanceAs (Decidable (Along push _ self pushes))

theorem AllPushed.regions_eq {self : MemoryMap} {pushes : List MemoryRegion}
    (h : AllPushed self pushes) :
    (run push self pushes).regions = self.regions ++ pushes := by
  induction pushes generalizing self with
  | nil => simp
  | cons region pushes ih =>
      rw [run_cons, ih h.2, regions_push h.1, List.append_assoc]
      rfl

/-- The checks made one push at a time amount to one condition on all regions. -/
theorem WellFormed.allPushed_iff {self : MemoryMap} (hself : self.WellFormed)
    {pushes : List MemoryRegion} (hvalid : ∀ region ∈ pushes, region.Valid) :
    AllPushed self pushes ↔
      (self.regions ++ pushes).length ≤ maxMemoryRegions ∧
        (self.regions ++ pushes).Pairwise fun region other =>
          Disjoint region.addresses other.addresses := by
  induction pushes generalizing self with
  | nil =>
      simpa [AllPushed, Along, length_regions, self.len_le] using hself.disjoint
  | cons region pushes ih =>
      have hregion := hvalid region List.mem_cons_self
      have hrest := ih (hself.push hregion) fun other hother =>
        hvalid other (List.mem_cons_of_mem region hother)
      constructor
      · intro h
        have hall := hrest.mp h.2
        rw [regions_push h.1, List.append_assoc] at hall
        exact hall
      · intro h
        have hfirst : (self.push region).1 = .ok () := by
          apply (push_ok_iff self region).mpr
          constructor
          · have hlength := h.1
            rw [List.length_append, List.length_cons] at hlength
            omega
          · intro stored hstored
            apply ((hself.valid stored hstored).overlaps_eq_false_iff hregion).mpr
            exact (List.pairwise_append.mp h.2).2.2 stored hstored region
              List.mem_cons_self
        apply And.intro hfirst
        apply hrest.mpr
        rw [regions_push hfirst, List.append_assoc]
        exact h

theorem allPushed_new_iff {pushes : List MemoryRegion}
    (hvalid : ∀ region ∈ pushes, region.Valid) :
    AllPushed new pushes ↔
      pushes.length ≤ maxMemoryRegions ∧
        pushes.Pairwise fun region other =>
          Disjoint region.addresses other.addresses :=
  wellFormed_new.allPushed_iff hvalid

theorem allPushed_perm {pushes reordered : List MemoryRegion}
    (hvalid : ∀ region ∈ pushes, region.Valid) (hperm : pushes.Perm reordered) :
    AllPushed new pushes ↔ AllPushed new reordered := by
  have hvalid' : ∀ region ∈ reordered, region.Valid := fun region hregion =>
    hvalid region (hperm.mem_iff.mpr hregion)
  rw [allPushed_new_iff hvalid, allPushed_new_iff hvalid', hperm.length_eq,
    hperm.pairwise_iff fun hapart => hapart.symm]

/-! ## Answers of two maps of the same regions -/

section SameRegions

variable {self other : MemoryMap} (hself : self.WellFormed) (hother : other.WellFormed)
  (hsame : ∀ region, region ∈ self.regions ↔ region ∈ other.regions)

include hself hother hsame

theorem findContaining_congr (start : UInt64) {len : UInt64} (hlen : len ≠ 0) :
    self.findContaining start len = other.findContaining start len := by
  apply Option.ext
  intro region
  simp only [hself.findContaining_iff hlen, hother.findContaining_iff hlen, hsame]

theorem totalByKind_congr (kind : MemoryRegionKind) :
    self.totalByKind kind = other.totalByKind kind := by
  apply UInt64.toNat_inj.mp
  simp only [hself.toNat_totalByKind, hother.toNat_totalByKind, hsame]

end SameRegions

/--
The order in which firmware reports its regions does not matter: the map takes
all of them in one order exactly when it does in any other, and the two maps
then find the same region for every range and count the same total of each
kind.
-/
theorem map_order_independent {pushes reordered : List MemoryRegion}
    (h : ∀ region ∈ pushes, ∃ start len kind permissions,
      MemoryRegion.new start len kind permissions = .ok region)
    (hperm : pushes.Perm reordered) :
    (AllPushed new pushes ↔ AllPushed new reordered) ∧
      (AllPushed new pushes →
        (∀ start len, len ≠ 0 →
          (pushed pushes).findContaining start len =
            (pushed reordered).findContaining start len) ∧
        ∀ kind, (pushed pushes).totalByKind kind =
          (pushed reordered).totalByKind kind) := by
  have hvalid : ∀ region ∈ pushes, region.Valid := by
    intro region hregion
    obtain ⟨start, len, kind, permissions, hnew⟩ := h region hregion
    exact MemoryRegion.valid_of_new hnew
  have hvalid' : ∀ region ∈ reordered, region.Valid := fun region hregion =>
    hvalid region (hperm.mem_iff.mpr hregion)
  have hall := allPushed_perm hvalid hperm
  apply And.intro hall
  intro hpushes
  have hsame : ∀ region, region ∈ (pushed pushes).regions ↔
      region ∈ (pushed reordered).regions := by
    intro region
    rw [hpushes.regions_eq, (hall.mp hpushes).regions_eq]
    exact hperm.mem_iff
  have hmap := wellFormed_pushed hvalid
  have hmap' := wellFormed_pushed hvalid'
  exact ⟨fun start _ hlen => findContaining_congr hmap hmap' hsame start hlen,
    totalByKind_congr hmap hmap' hsame⟩

def adjacentRegions : List MemoryRegion := touchingRegions.take 2

theorem map_order_independent_adjacent :
    AllPushed new adjacentRegions.reverse ∧
      (pushed adjacentRegions).findContaining 0x2000 16 =
        (pushed adjacentRegions.reverse).findContaining 0x2000 16 ∧
      (pushed adjacentRegions).totalByKind .usable =
        (pushed adjacentRegions.reverse).totalByKind .usable := by
  have hnew : ∀ region ∈ adjacentRegions, ∃ start len kind permissions,
      MemoryRegion.new start len kind permissions = .ok region := by
    intro region hregion
    refine ⟨region.start, region.len, region.kind, region.permissions, ?_⟩
    revert region
    decide
  have hpushed : AllPushed new adjacentRegions := by decide +kernel
  obtain ⟨hiff, hanswers⟩ :=
    map_order_independent hnew adjacentRegions.reverse_perm.symm
  obtain ⟨hfind, htotal⟩ := hanswers hpushed
  exact ⟨hiff.mp hpushed, hfind 0x2000 16 (by decide), htotal .usable⟩

end MemoryMap

end AlaniKernel
