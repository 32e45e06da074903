import Mathlib.Data.Fintype.Card
import Mathlib.Data.Finset.Card

/-!
# Competition under aging

Finitely many candidates compete in rounds.  A round resets its winner, and a
candidate that was no better than the winner may gain two levels.  Between
rounds each candidate can be boosted once.  The levels stay bounded: a
candidate can only rise above the others while they rise with it, and every
round takes one of them back to the base.

`spent` are the boosted candidates that won a round since.  All candidates but
the freshly boosted ones form the pool, in which the number of candidates above
a level shrinks as the level grows.
-/

namespace AlaniKernel.Foundation

universe u

variable {ι : Type u} {base boost : Nat}
  {level nextLevel : ι → Nat} {boosted nextBoosted spent : Finset ι}

def above (level : ι → Nat) (pool : Finset ι) (bound : Nat) : Finset ι :=
  pool.filter fun i => bound < level i

theorem mem_above {pool : Finset ι} {bound : Nat} {i : ι} :
    i ∈ above level pool bound ↔ i ∈ pool ∧ bound < level i := by
  simp [above]

theorem above_bound_of_subset {pool pool' : Finset ι} {bound bound' p q total : Nat}
    (hsubset : above nextLevel pool' bound' ⊆ above level pool bound)
    (h : above level pool bound = ∅ ∨ (above level pool bound).card + p ≤ total) :
    above nextLevel pool' bound' = ∅ ∨
      (above nextLevel pool' bound').card + (p + q) ≤ total + q := by
  rcases h with hempty | hcard
  · rw [hempty] at hsubset
    exact .inl (Finset.subset_empty.mp hsubset)
  · have := Finset.card_le_card hsubset
    exact .inr (by omega)

variable [Fintype ι] [DecidableEq ι]

structure AgingBound (base boost : Nat) (level : ι → Nat)
    (boosted spent : Finset ι) : Prop where
  spent_subset : spent ⊆ boosted
  pool_le : ∀ p, above level (boosted \ spent)ᶜ (base + 2 * p) = ∅ ∨
    (above level (boosted \ spent)ᶜ (base + 2 * p)).card + p ≤
      Fintype.card ι + spent.card
  fresh_le : ∀ i ∈ boosted \ spent,
    level i ≤ base + 2 * Fintype.card ι + boost + 2 * spent.card

theorem agingBound_zero (base boost : Nat) :
    AgingBound base boost (fun _ : ι => 0) ∅ ∅ := by
  refine ⟨Finset.Subset.refl ∅, fun p => .inl ?_, fun i hi => Nat.zero_le _⟩
  simp [above]

namespace AgingBound

theorem level_le_of_pool (h : AgingBound base boost level boosted spent) {i : ι}
    (hi : i ∉ boosted \ spent) :
    level i ≤ base + 2 * (Fintype.card ι + spent.card) := by
  by_contra hlt
  have hmem : i ∈ above level (boosted \ spent)ᶜ
      (base + 2 * (Fintype.card ι + spent.card)) :=
    mem_above.mpr ⟨Finset.mem_compl.mpr hi, by omega⟩
  rcases h.pool_le (Fintype.card ι + spent.card) with hempty | hcard
  · rw [hempty] at hmem
    exact absurd hmem (Finset.notMem_empty i)
  · have hpos := Finset.card_pos.mpr ⟨i, hmem⟩
    omega

theorem level_le (h : AgingBound base boost level boosted spent) (i : ι) :
    level i ≤ base + 4 * Fintype.card ι + boost := by
  have hspent : spent.card ≤ Fintype.card ι := Finset.card_le_univ spent
  by_cases hi : i ∈ boosted \ spent
  · have := h.fresh_le i hi
    omega
  · have := h.level_le_of_pool hi
    omega

/--
Between rounds a level may be replaced by one up to the base, and a candidate
that is boosted for the first time gains the boost.
-/
theorem raise (h : AgingBound base boost level boosted spent)
    (hboosted : boosted ⊆ nextBoosted)
    (hlevel : ∀ i, nextLevel i ≤ max (level i) base ∨
      i ∈ nextBoosted \ boosted ∧ nextLevel i ≤ max (level i) base + boost) :
    AgingBound base boost nextLevel nextBoosted spent := by
  have hfresh : ∀ i, i ∈ nextBoosted \ boosted → i ∈ nextBoosted \ spent := by
    intro i hi
    obtain ⟨hi, hnot⟩ := Finset.mem_sdiff.mp hi
    exact Finset.mem_sdiff.mpr ⟨hi, fun hs => hnot (h.spent_subset hs)⟩
  refine ⟨h.spent_subset.trans hboosted, fun p => ?_, fun i hi => ?_⟩
  · have hsubset : above nextLevel (nextBoosted \ spent)ᶜ (base + 2 * p) ⊆
        above level (boosted \ spent)ᶜ (base + 2 * p) := by
      intro i hi
      obtain ⟨hpool, hlt⟩ := mem_above.mp hi
      rw [Finset.mem_compl] at hpool
      refine mem_above.mpr ⟨Finset.mem_compl.mpr fun hold => hpool ?_, ?_⟩
      · exact Finset.sdiff_subset_sdiff hboosted (Finset.Subset.refl spent) hold
      · rcases hlevel i with hle | ⟨hnew, -⟩
        · omega
        · exact absurd (hfresh i hnew) hpool
    exact above_bound_of_subset (q := 0) hsubset (h.pool_le p)
  · by_cases hold : i ∈ boosted
    · have hle := h.fresh_le i
        (Finset.mem_sdiff.mpr ⟨hold, (Finset.mem_sdiff.mp hi).2⟩)
      rcases hlevel i with hle' | ⟨hnew, -⟩
      · omega
      · exact absurd hold (Finset.mem_sdiff.mp hnew).2
    · have hle := h.level_le_of_pool
        (fun hmem => hold (Finset.mem_sdiff.mp hmem).1)
      rcases hlevel i with hle' | ⟨-, hle'⟩
      · omega
      · omega

variable {k : ι}

/-- A round won by a freshly boosted candidate, whose boost is then spent. -/
theorem round_fresh (h : AgingBound base boost level boosted spent)
    (hmem : k ∈ boosted \ spent) (hk : nextLevel k ≤ base)
    (hrest : ∀ i, i ≠ k → nextLevel i ≤ level i + 2) :
    AgingBound base boost nextLevel boosted (insert k spent) := by
  obtain ⟨hboosted, hspent⟩ := Finset.mem_sdiff.mp hmem
  have hcard := Finset.card_insert_of_notMem hspent
  refine ⟨Finset.insert_subset hboosted h.spent_subset, fun p => ?_, fun i hi => ?_⟩
  · cases p with
    | zero =>
        have := Finset.card_le_univ
          (above nextLevel (boosted \ insert k spent)ᶜ (base + 2 * 0))
        exact .inr (by omega)
    | succ p =>
        have hsubset : above nextLevel (boosted \ insert k spent)ᶜ (base + 2 * (p + 1)) ⊆
            above level (boosted \ spent)ᶜ (base + 2 * p) := by
          intro i hi
          obtain ⟨hpool, hlt⟩ := mem_above.mp hi
          have hne : i ≠ k := by
            rintro rfl
            omega
          have hle := hrest i hne
          refine mem_above.mpr ⟨Finset.mem_compl.mpr fun hfresh => ?_, by omega⟩
          obtain ⟨hi, hnot⟩ := Finset.mem_sdiff.mp hfresh
          refine Finset.mem_compl.mp hpool (Finset.mem_sdiff.mpr ⟨hi, ?_⟩)
          simp [hne, hnot]
        rw [hcard]
        exact above_bound_of_subset (q := 1) hsubset (h.pool_le p)
  · obtain ⟨hi, hnot⟩ := Finset.mem_sdiff.mp hi
    rw [Finset.mem_insert, not_or] at hnot
    have hle := h.fresh_le i (Finset.mem_sdiff.mpr ⟨hi, hnot.2⟩)
    have hle' := hrest i hnot.1
    omega

/-- A round won inside the pool: one candidate fewer above each lower level. -/
theorem round_pool (h : AgingBound base boost level boosted spent)
    (hboost : 2 ≤ boost) (hpool : k ∉ boosted \ spent) (hk : nextLevel k ≤ base)
    (hrest : ∀ i, i ≠ k →
      nextLevel i ≤ level i ∨ level i ≤ level k ∧ nextLevel i ≤ level i + 2) :
    AgingBound base boost nextLevel boosted spent := by
  refine ⟨h.spent_subset, fun p => ?_, fun i hi => ?_⟩
  · cases p with
    | zero =>
        have := Finset.card_le_univ
          (above nextLevel (boosted \ spent)ᶜ (base + 2 * 0))
        exact .inr (by omega)
    | succ p =>
        by_cases hlow : level k ≤ base + 2 * p
        · -- nobody enters: those who gain were at most as good as the winner
          have hsubset : above nextLevel (boosted \ spent)ᶜ (base + 2 * (p + 1)) ⊆
              above level (boosted \ spent)ᶜ (base + 2 * (p + 1)) := by
            intro i hi
            obtain ⟨hi, hlt⟩ := mem_above.mp hi
            have hne : i ≠ k := by
              rintro rfl
              omega
            refine mem_above.mpr ⟨hi, ?_⟩
            rcases hrest i hne with hle | ⟨hle, hle'⟩
            · omega
            · omega
          exact above_bound_of_subset (q := 0) hsubset (h.pool_le (p + 1))
        · -- the winner leaves the candidates above the next lower level
          have hwinner : k ∈ above level (boosted \ spent)ᶜ (base + 2 * p) :=
            mem_above.mpr ⟨Finset.mem_compl.mpr hpool, by omega⟩
          have hsubset : above nextLevel (boosted \ spent)ᶜ (base + 2 * (p + 1)) ⊆
              (above level (boosted \ spent)ᶜ (base + 2 * p)).erase k := by
            intro i hi
            obtain ⟨hi, hlt⟩ := mem_above.mp hi
            have hne : i ≠ k := by
              rintro rfl
              omega
            refine Finset.mem_erase.mpr ⟨hne, mem_above.mpr ⟨hi, ?_⟩⟩
            rcases hrest i hne with hle | ⟨-, hle⟩
            · omega
            · omega
          have hcard := Finset.card_le_card hsubset
          have herase := Finset.card_erase_lt_of_mem hwinner
          rcases h.pool_le p with hempty | hle
          · rw [hempty] at hwinner
            exact absurd hwinner (Finset.notMem_empty k)
          · exact .inr (by omega)
  · have hle := h.fresh_le i hi
    have hwinner := h.level_le_of_pool hpool
    have hne : i ≠ k := by
      rintro rfl
      exact hpool hi
    rcases hrest i hne with hle' | ⟨hbelow, hle'⟩
    · omega
    · omega

end AgingBound

/-- Levels that some history of rounds and boosts can reach. -/
def Aged (base boost : Nat) (level : ι → Nat) (boosted : Finset ι) : Prop :=
  ∃ spent, AgingBound base boost level boosted spent

theorem Aged.level_le (h : Aged base boost level boosted) (i : ι) :
    level i ≤ base + 4 * Fintype.card ι + boost := by
  obtain ⟨spent, h⟩ := h
  exact h.level_le i

theorem Aged.raise (h : Aged base boost level boosted)
    (hboosted : boosted ⊆ nextBoosted)
    (hlevel : ∀ i, nextLevel i ≤ max (level i) base ∨
      i ∈ nextBoosted \ boosted ∧ nextLevel i ≤ max (level i) base + boost) :
    Aged base boost nextLevel nextBoosted := by
  obtain ⟨spent, h⟩ := h
  exact ⟨spent, h.raise hboosted hlevel⟩

theorem Aged.round (h : Aged base boost level boosted) (hboost : 2 ≤ boost)
    {k : ι} (hk : nextLevel k ≤ base)
    (hrest : ∀ i, i ≠ k →
      nextLevel i ≤ level i ∨ level i ≤ level k ∧ nextLevel i ≤ level i + 2) :
    Aged base boost nextLevel boosted := by
  obtain ⟨spent, h⟩ := h
  by_cases hmem : k ∈ boosted \ spent
  · refine ⟨insert k spent, h.round_fresh hmem hk fun i hi => ?_⟩
    rcases hrest i hi with hle | ⟨-, hle⟩
    · omega
    · exact hle
  · exact ⟨spent, h.round_pool hboost hmem hk hrest⟩

end AlaniKernel.Foundation
