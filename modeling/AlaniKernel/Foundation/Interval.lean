import Mathlib.Algebra.BigOperators.Group.List.Basic
import Mathlib.Algebra.Order.Floor.Div
import Mathlib.Data.Set.Card
import Mathlib.Order.Interval.Finset.Nat

/-!
# Families of disjoint ranges

A range is the half-open interval of the naturals that starts at a number and
has a length.  A family of pairwise disjoint sets covers as many elements as
its sizes add up to, so the lengths of disjoint ranges below a bound never add
up to more than the bound.
-/

namespace AlaniKernel.Foundation

universe u

/-! ## Ranges -/

def span (start len : Nat) : Finset Nat := Finset.Ico start (start + len)

theorem mem_span {start len a : Nat} :
    a ∈ span start len ↔ start ≤ a ∧ a < start + len := Finset.mem_Ico

@[simp] theorem card_span (start len : Nat) : (span start len).card = len := by
  rw [span, Nat.card_Ico, Nat.add_sub_cancel_left]

theorem start_mem_span {start len : Nat} (h : 0 < len) : start ∈ span start len :=
  mem_span.mpr ⟨Nat.le_refl start, by omega⟩

theorem disjoint_span_iff {start len start' len' : Nat} (h : 0 < len) (h' : 0 < len') :
    Disjoint (span start len) (span start' len') ↔
      start + len ≤ start' ∨ start' + len' ≤ start := by
  rw [Finset.disjoint_left]
  constructor
  · intro hapart
    by_contra hmeet
    have hleft : max start start' ∈ span start len := mem_span.mpr (by omega)
    have hright : max start start' ∈ span start' len' := mem_span.mpr (by omega)
    exact hapart hleft hright
  · intro hapart a ha ha'
    rw [mem_span] at ha ha'
    omega

theorem span_subset_iff {start len start' len' : Nat} (h : 0 < len) :
    span start len ⊆ span start' len' ↔
      start' ≤ start ∧ start + len ≤ start' + len' := by
  constructor
  · intro hsubset
    have hlast : start + len - 1 ∈ span start len := mem_span.mpr (by omega)
    have hfirst' := mem_span.mp (hsubset (start_mem_span h))
    have hlast' := mem_span.mp (hsubset hlast)
    omega
  · intro hwithin a ha
    rw [mem_span] at ha ⊢
    omega

/-! ## Aligned starts -/

def alignUp (a n : Nat) : Nat := a * (n ⌈/⌉ a)

theorem dvd_alignUp (a n : Nat) : a ∣ alignUp a n := Nat.dvd_mul_right a _

theorem alignUp_le_iff {a n m : Nat} (ha : 0 < a) (hm : a ∣ m) :
    alignUp a n ≤ m ↔ n ≤ m := by
  obtain ⟨k, rfl⟩ := hm
  rw [alignUp, Nat.mul_le_mul_left_iff ha]
  exact ceilDiv_le_iff_le_mul ha

theorem le_alignUp {a : Nat} (ha : 0 < a) (n : Nat) : n ≤ alignUp a n :=
  (alignUp_le_iff ha (dvd_alignUp a n)).mp (Nat.le_refl _)

/-! ## Disjoint families -/

variable {α : Type u} [DecidableEq α]

def covered (family : List (Finset α)) : Finset α := family.foldr (· ∪ ·) ∅

theorem mem_covered {family : List (Finset α)} {a : α} :
    a ∈ covered family ↔ ∃ s ∈ family, a ∈ s := by
  induction family with
  | nil => simp [covered]
  | cons s family ih =>
      rw [covered, List.foldr_cons, Finset.mem_union]
      change a ∈ s ∨ a ∈ covered family ↔ _
      rw [ih, List.exists_mem_cons_iff]

theorem card_covered {family : List (Finset α)} (h : family.Pairwise Disjoint) :
    (covered family).card = (family.map Finset.card).sum := by
  induction family with
  | nil => rfl
  | cons s family ih =>
      obtain ⟨hfirst, hrest⟩ := List.pairwise_cons.mp h
      have hapart : Disjoint s (covered family) := by
        rw [Finset.disjoint_left]
        intro a ha hcovered
        obtain ⟨t, ht, hat⟩ := mem_covered.mp hcovered
        exact Finset.disjoint_left.mp (hfirst t ht) ha hat
      rw [List.map_cons, List.sum_cons, ← ih hrest,
        ← Finset.card_union_of_disjoint hapart]
      rfl

theorem sum_card_le {family : List (Finset α)} (h : family.Pairwise Disjoint)
    {whole : Finset α} (hwithin : ∀ s ∈ family, s ⊆ whole) :
    (family.map Finset.card).sum ≤ whole.card := by
  rw [← card_covered h]
  refine Finset.card_le_card fun a ha => ?_
  obtain ⟨s, hs, has⟩ := mem_covered.mp ha
  exact hwithin s hs has

/-! ## Lists with at most one match -/

/-- Where no two places match, a search finds the match, wherever it stands. -/
theorem find?_eq_some_iff_of_unique {β : Type u} {p : β → Bool} {values : List β}
    (h : values.Pairwise fun b c => ¬ (p b = true ∧ p c = true)) {b : β} :
    values.find? p = some b ↔ b ∈ values ∧ p b = true := by
  refine ⟨fun hfound => ⟨List.mem_of_find?_eq_some hfound, List.find?_some hfound⟩, ?_⟩
  rintro ⟨hmem, hb⟩
  induction values with
  | nil => contradiction
  | cons c values ih =>
      obtain ⟨hfirst, hrest⟩ := List.pairwise_cons.mp h
      rcases List.mem_cons.mp hmem with rfl | hmem
      · exact List.find?_cons_of_pos hb
      · have hc : ¬ p c = true := fun hc => hfirst b hmem ⟨hc, hb⟩
        rw [List.find?_cons_of_neg hc]
        exact ih hrest hmem

end AlaniKernel.Foundation
