import AlaniKernel.Foundation.Interval
import AlaniKernel.Foundation.Transition
import AlaniKernel.Memory
import Mathlib.Algebra.Order.BigOperators.Group.List

/-!
# The boot memory map over runs

Whatever is pushed in whatever order, the regions of the map are disjoint sets
of addresses.  The sums of their lengths therefore fit, and at most one region
contains a range.
-/

namespace AlaniKernel

open AlaniKernel.Foundation

namespace MemoryRegion

/-- The addresses of a region, as unbounded numbers. -/
def addresses (self : MemoryRegion) : Finset Nat :=
  span self.start.toNat self.len.toNat

/-- What `MemoryRegion::new` checks: a length, and an end that fits. -/
structure Valid (region : MemoryRegion) : Prop where
  len_pos : 0 < region.len.toNat
  end_lt : region.start.toNat + region.len.toNat < 2 ^ 64

theorem valid_of_new {start len : UInt64} {kind : MemoryRegionKind}
    {permissions : MemoryPermissions} {region : MemoryRegion}
    (h : new start len kind permissions = .ok region) : region.Valid := by
  unfold new at h
  split_ifs at h with hlen hend
  cases h
  refine ⟨Nat.pos_of_ne_zero fun hzero => hlen ?_, ?_⟩
  · rw [← UInt64.toNat_inj]
    exact hzero
  · change start.toNat + len.toNat < 2 ^ 64
    by_contra hover
    rw [checkedAdd64_eq_none_iff.mpr (not_lt.mp hover)] at hend
    exact hend rfl

theorem Valid.toNat_end {region : MemoryRegion} (h : region.Valid) :
    region.end.toNat = region.start.toNat + region.len.toNat := by
  rw [«end», UInt64.toNat_add, Nat.mod_eq_of_lt h.end_lt]

theorem Valid.overlaps_eq_false_iff {region other : MemoryRegion}
    (h : region.Valid) (h' : other.Valid) :
    region.overlaps other = false ↔ Disjoint region.addresses other.addresses := by
  rw [addresses, addresses, disjoint_span_iff h.len_pos h'.len_pos, overlaps,
    Bool.and_eq_false_iff, decide_eq_false_iff_not, decide_eq_false_iff_not,
    UInt64.not_lt, UInt64.not_lt, UInt64.le_iff_toNat_le, UInt64.le_iff_toNat_le,
    h.toNat_end, h'.toNat_end]
  exact or_comm

theorem Valid.containsRange_iff {region : MemoryRegion} (h : region.Valid)
    {start len : UInt64} (hlen : len ≠ 0) :
    region.containsRange start len = true ↔
      span start.toNat len.toNat ⊆ region.addresses := by
  have hpos : 0 < len.toNat := Nat.pos_of_ne_zero fun hzero =>
    hlen (UInt64.toNat_inj.mp hzero)
  rw [addresses, span_subset_iff hpos, containsRange]
  have hend := h.end_lt
  cases hsum : checkedAdd64 start len with
  | none =>
      have hover := checkedAdd64_eq_none_iff.mp hsum
      simp only [Bool.false_eq_true, false_iff, not_and]
      omega
  | some rangeEnd =>
      have hrange := checkedAdd64_eq_some_iff.mp hsum
      rw [Bool.and_eq_true, decide_eq_true_eq, decide_eq_true_eq,
        UInt64.le_iff_toNat_le, UInt64.le_iff_toNat_le, h.toNat_end, hrange]

end MemoryRegion

namespace MemoryMap

theorem push_cases (self : MemoryMap) (region : MemoryRegion) :
    (∃ error, self.push region = (.error error, self) ∧
        (self.len = maxMemoryRegions ∨
          ∃ stored ∈ self.regions, stored.overlaps region = true)) ∨
      ∃ next, self.push region = (.ok (), next) ∧ self.len < maxMemoryRegions ∧
        (∀ stored ∈ self.regions, stored.overlaps region = false) ∧
        next.regions = self.regions ++ [region] := by
  unfold push
  by_cases hfull : self.len = maxMemoryRegions
  · exact .inl ⟨.capacityExceeded, by rw [dif_pos hfull], .inl hfull⟩
  · rw [dif_neg hfull]
    by_cases hoverlap : (self.regions.any (·.overlaps region)) = true
    · exact .inl ⟨.overlap, by rw [if_pos hoverlap], .inr (List.any_eq_true.mp hoverlap)⟩
    · rw [if_neg hoverlap]
      have hlen : self.len < maxMemoryRegions := Nat.lt_of_le_of_ne self.len_le hfull
      refine .inr ⟨_, rfl, hlen, fun stored hstored => ?_, ?_⟩
      · rw [Bool.eq_false_iff]
        exact fun h => hoverlap (List.any_eq_true.mpr ⟨stored, hstored, h⟩)
      · simp only [regions, Vector.toList_set]
        rw [List.take_succ_eq_append_getElem (by simpa using hlen),
          List.take_set_of_le (Nat.le_refl _), List.getElem_set_self]

/-- The regions are valid and have no address in common. -/
structure WellFormed (map : MemoryMap) : Prop where
  valid : ∀ region ∈ map.regions, region.Valid
  disjoint : map.regions.Pairwise fun region other =>
    Disjoint region.addresses other.addresses

theorem wellFormed_new : new.WellFormed := by
  have hempty : new.regions = [] := rfl
  constructor
  · simp [hempty]
  · simp [hempty]

theorem WellFormed.push {self : MemoryMap} (hself : self.WellFormed)
    {region : MemoryRegion} (hregion : region.Valid) :
    (self.push region).2.WellFormed := by
  rcases self.push_cases region with ⟨error, h, -⟩ | ⟨next, h, -, hapart, hregions⟩
  · rw [h]
    exact hself
  · rw [h]
    refine ⟨fun stored hstored => ?_, ?_⟩
    · rw [hregions, List.mem_append, List.mem_singleton] at hstored
      rcases hstored with hstored | rfl
      · exact hself.valid stored hstored
      · exact hregion
    · rw [hregions, List.pairwise_append]
      refine ⟨hself.disjoint, List.pairwise_singleton _ _, fun stored hstored => ?_⟩
      intro other hother
      rw [List.mem_singleton.mp hother]
      exact ((hself.valid stored hstored).overlaps_eq_false_iff hregion).mp
        (hapart stored hstored)

abbrev pushed (pushes : List MemoryRegion) : MemoryMap := run push new pushes

theorem wellFormed_pushed {pushes : List MemoryRegion}
    (h : ∀ region ∈ pushes, region.Valid) : (pushed pushes).WellFormed :=
  run_invariant_of_along (fun _ _ hself hregion => hself.push hregion) wellFormed_new
    (along_of_mem h new)

/-! ## Lengths and containment -/

theorem card_addresses (regions : List MemoryRegion) :
    (regions.map MemoryRegion.addresses).map Finset.card =
      regions.map fun region => region.len.toNat := by
  simp [MemoryRegion.addresses, Function.comp_def]

theorem WellFormed.total_lt {self : MemoryMap} (hself : self.WellFormed) :
    (self.regions.map fun region => region.len.toNat).sum < 2 ^ 64 := by
  have hsum : (self.regions.map fun region => region.len.toNat).sum ≤
      (Finset.range (2 ^ 64 - 1)).card := by
    rw [← card_addresses]
    refine sum_card_le (List.pairwise_map.mpr hself.disjoint) fun s hs => ?_
    obtain ⟨region, hregion, rfl⟩ := List.mem_map.mp hs
    intro a ha
    have hend := (hself.valid region hregion).end_lt
    have hin := mem_span.mp ha
    rw [Finset.mem_range]
    omega
  rw [Finset.card_range] at hsum
  omega

def ofKind (self : MemoryMap) (kind : MemoryRegionKind) : List MemoryRegion :=
  self.regions.filter (·.kind == kind)

theorem WellFormed.total_ofKind_lt {self : MemoryMap} (hself : self.WellFormed)
    (kind : MemoryRegionKind) :
    ((self.ofKind kind).map fun region => region.len.toNat).sum < 2 ^ 64 := by
  have hsublist : (self.ofKind kind).Sublist self.regions := List.filter_sublist
  refine lt_of_le_of_lt ?_ hself.total_lt
  exact (hsublist.map fun region => region.len.toNat).sum_le_sum
    fun _ _ => Nat.zero_le _

theorem WellFormed.toNat_totalByKind {self : MemoryMap} (hself : self.WellFormed)
    (kind : MemoryRegionKind) :
    (self.totalByKind kind).toNat =
      { address | ∃ region ∈ self.regions, region.kind = kind ∧
        address ∈ region.addresses }.ncard := by
  have hcovered : { address | ∃ region ∈ self.regions, region.kind = kind ∧
      address ∈ region.addresses } =
        ↑(covered ((self.ofKind kind).map MemoryRegion.addresses)) := by
    ext address
    simp [mem_covered, ofKind, and_assoc]
  have hdisjoint : ((self.ofKind kind).map MemoryRegion.addresses).Pairwise Disjoint :=
    List.pairwise_map.mpr (hself.disjoint.sublist List.filter_sublist)
  have hfits := hself.total_ofKind_lt kind
  rw [hcovered, Set.ncard_coe_finset, card_covered hdisjoint, card_addresses,
    totalByKind, toNat_sum_mod, List.map_map]
  exact Nat.mod_eq_of_lt hfits

theorem WellFormed.contains_unique {self : MemoryMap} (hself : self.WellFormed)
    (start : UInt64) {len : UInt64} (hlen : len ≠ 0) :
    self.regions.Pairwise fun region other =>
      ¬ (span start.toNat len.toNat ⊆ region.addresses ∧
        span start.toNat len.toNat ⊆ other.addresses) := by
  have hpos : 0 < len.toNat := Nat.pos_of_ne_zero fun hzero =>
    hlen (UInt64.toNat_inj.mp hzero)
  refine hself.disjoint.imp fun {region other} hapart hboth => ?_
  have hfirst : start.toNat ∈ span start.toNat len.toNat := start_mem_span hpos
  exact Finset.disjoint_left.mp hapart (hboth.1 hfirst) (hboth.2 hfirst)

theorem WellFormed.findContaining_iff {self : MemoryMap} (hself : self.WellFormed)
    {start len : UInt64} (hlen : len ≠ 0) (region : MemoryRegion) :
    self.findContaining start len = some region ↔
      region ∈ self.regions ∧ span start.toNat len.toNat ⊆ region.addresses := by
  have hcontains : ∀ stored ∈ self.regions,
      stored.containsRange start len = true ↔
        span start.toNat len.toNat ⊆ stored.addresses :=
    fun stored hstored => (hself.valid stored hstored).containsRange_iff hlen
  have hunique : self.regions.Pairwise fun stored other =>
      ¬ (stored.containsRange start len = true ∧
        other.containsRange start len = true) := by
    refine (hself.contains_unique start hlen).imp_of_mem ?_
    intro stored other hstored hother hapart hboth
    rw [hcontains stored hstored, hcontains other hother] at hboth
    exact hapart hboth
  rw [findContaining, find?_eq_some_iff_of_unique hunique]
  exact and_congr_right (hcontains region)

/--
A map that regions from `MemoryRegion::new` were pushed into, some of them
refused, holds disjoint sets of addresses.  Each total is the number of
addresses of its kind, all lengths together fit a `u64`, and a nonempty range
is found in the one region that contains it.
-/
theorem map_arithmetic_safe (pushes : List MemoryRegion)
    (h : ∀ region ∈ pushes, ∃ start len kind permissions,
      MemoryRegion.new start len kind permissions = .ok region) :
    ((pushed pushes).regions.Pairwise fun region other =>
        Disjoint region.addresses other.addresses) ∧
      (∀ kind, ((pushed pushes).totalByKind kind).toNat =
          { address | ∃ region ∈ (pushed pushes).regions, region.kind = kind ∧
            address ∈ region.addresses }.ncard ∧
        (((pushed pushes).ofKind kind).map fun region => region.len.toNat).sum
          < 2 ^ 64) ∧
      ((pushed pushes).regions.map fun region => region.len.toNat).sum < 2 ^ 64 ∧
      ∀ start len, len ≠ 0 →
        ((pushed pushes).regions.Pairwise fun region other =>
          ¬ (span start.toNat len.toNat ⊆ region.addresses ∧
            span start.toNat len.toNat ⊆ other.addresses)) ∧
        ∀ region, (pushed pushes).findContaining start len = some region ↔
          region ∈ (pushed pushes).regions ∧
            span start.toNat len.toNat ⊆ region.addresses := by
  have hvalid : ∀ region ∈ pushes, region.Valid := by
    intro region hregion
    obtain ⟨start, len, kind, permissions, hnew⟩ := h region hregion
    exact MemoryRegion.valid_of_new hnew
  have hmap := wellFormed_pushed hvalid
  exact ⟨hmap.disjoint,
    fun kind => ⟨hmap.toNat_totalByKind kind, hmap.total_ofKind_lt kind⟩,
    hmap.total_lt,
    fun start len hlen => ⟨hmap.contains_unique start hlen, hmap.findContaining_iff hlen⟩⟩

def touchingRegions : List MemoryRegion :=
  [{ start := 0x1000, len := 0x1000, kind := .usable, permissions := .read },
    { start := 0x2000, len := 0x1000, kind := .usable, permissions := .read },
    { start := 0x1800, len := 0x1000, kind := .mmio, permissions := .read }]

theorem map_arithmetic_safe_touching :
    (((pushed touchingRegions).ofKind .usable).map
        fun region => region.len.toNat).sum < 2 ^ 64 ∧
      (pushed touchingRegions).findContaining 0x2000 16 =
        some { start := 0x2000, len := 0x1000, kind := .usable, permissions := .read } := by
  have hnew : ∀ region ∈ touchingRegions, ∃ start len kind permissions,
      MemoryRegion.new start len kind permissions = .ok region := by
    intro region hregion
    refine ⟨region.start, region.len, region.kind, region.permissions, ?_⟩
    revert region
    decide
  obtain ⟨-, hkind, -, hfind⟩ := map_arithmetic_safe touchingRegions hnew
  refine ⟨(hkind .usable).2, ((hfind 0x2000 16 (by decide)).2 _).mpr ?_⟩
  constructor
  · decide +kernel
  · rw [MemoryRegion.addresses, span_subset_iff (by decide)]
    decide

end MemoryMap

end AlaniKernel
