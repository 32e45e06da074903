import Mathlib.Data.Finset.Fold
import Mathlib.Data.Fintype.Basic

/-!
# Sets coded in the bits of a word

Each element of a finite type has a bit of its own.  Words without stray bits
are the same as sets, and the bitwise operations are the set operations.
-/

namespace AlaniKernel.Foundation

universe u

variable {γ : Type u} {w : Nat} (index : γ → Fin w)

def coded (set : Finset γ) : BitVec w :=
  set.fold (fun a b => a ||| b) 0 fun c => BitVec.twoPow w (index c)

variable [DecidableEq γ]

theorem getLsbD_coded (set : Finset γ) (i : Nat) :
    (coded index set).getLsbD i = true ↔ ∃ c ∈ set, (index c).val = i := by
  induction set using Finset.induction_on with
  | empty => simp [coded]
  | insert c set hc ih =>
      have hinsert : coded index (insert c set) =
          BitVec.twoPow w (index c) ||| coded index set :=
        Finset.fold_insert hc
      rw [hinsert, BitVec.getLsbD_or, Bool.or_eq_true, ih, BitVec.getLsbD_twoPow]
      simp

variable [Fintype γ]

def members (word : BitVec w) : Finset γ :=
  Finset.univ.filter fun c => word.getLsbD (index c) = true

def Known (word : BitVec w) : Prop := word &&& ~~~coded index Finset.univ = 0

variable {index}

omit [DecidableEq γ] in
theorem mem_members {word : BitVec w} {c : γ} :
    c ∈ members index word ↔ word.getLsbD (index c) = true := by
  simp [members]

theorem known_iff {word : BitVec w} :
    Known index word ↔ ∀ i, word.getLsbD i = true → ∃ c, (index c).val = i := by
  have hmask : ∀ i, (coded index Finset.univ).getLsbD i = true ↔ ∃ c, (index c).val = i := by
    intro i
    simp [getLsbD_coded]
  constructor
  · intro h i hi
    have hlt := BitVec.lt_of_getLsbD hi
    have hcleared := congrArg (fun v : BitVec w => v.getLsbD i) h
    apply (hmask i).mp
    simpa [hi, hlt] using hcleared
  · intro h
    apply BitVec.eq_of_getLsbD_eq
    intro i hi
    cases hbit : word.getLsbD i with
    | false => simp [hbit]
    | true => simp [hbit, (hmask i).mpr (h i hbit)]

theorem known_coded (set : Finset γ) : Known index (coded index set) := by
  rw [known_iff]
  intro i hi
  obtain ⟨c, -, hc⟩ := (getLsbD_coded index set i).mp hi
  exact ⟨c, hc⟩

theorem members_coded (hindex : Function.Injective index) (set : Finset γ) :
    members index (coded index set) = set := by
  ext c
  rw [mem_members, getLsbD_coded]
  constructor
  · rintro ⟨d, hd, hindices⟩
    rwa [← hindex (Fin.ext hindices)]
  · exact fun hc => ⟨c, hc, rfl⟩

theorem coded_members {word : BitVec w} (h : Known index word) :
    coded index (members index word) = word := by
  apply BitVec.eq_of_getLsbD_eq
  intro i hi
  rw [Bool.eq_iff_iff, getLsbD_coded]
  constructor
  · rintro ⟨c, hc, rfl⟩
    exact mem_members.mp hc
  · intro hbit
    obtain ⟨c, rfl⟩ := known_iff.mp h i hbit
    exact ⟨c, mem_members.mpr hbit, rfl⟩

theorem members_injective {word other : BitVec w} (h : Known index word)
    (hother : Known index other) (hmembers : members index word = members index other) :
    word = other := by
  rw [← coded_members h, hmembers, coded_members hother]

theorem members_and (word other : BitVec w) :
    members index (word &&& other) = members index word ∩ members index other := by
  ext c
  simp [mem_members]

theorem members_or (word other : BitVec w) :
    members index (word ||| other) = members index word ∪ members index other := by
  ext c
  simp [mem_members]

theorem members_and_not (word other : BitVec w) :
    members index (word &&& ~~~other) = members index word \ members index other := by
  ext c
  simp [mem_members]

theorem members_eq_empty_iff {word : BitVec w} (h : Known index word) :
    members index word = ∅ ↔ word = 0 := by
  constructor
  · intro hempty
    apply members_injective h
    · simp [Known]
    · rw [hempty]
      ext c
      simp [mem_members]
  · rintro rfl
    ext c
    simp [mem_members]

/-- A masked comparison is an inclusion. -/
theorem and_eq_right_iff_subset {word required : BitVec w} (h : Known index required) :
    word &&& required = required ↔ members index required ⊆ members index word := by
  constructor
  · intro hand
    rw [← hand, members_and]
    exact Finset.inter_subset_left
  · intro hsubset
    apply BitVec.eq_of_getLsbD_eq
    intro i hi
    cases hbit : required.getLsbD i with
    | false => simp [hbit]
    | true =>
        obtain ⟨c, rfl⟩ := known_iff.mp h i hbit
        simp [hbit, mem_members.mp (hsubset (mem_members.mpr hbit))]

theorem and_single_ne_zero_iff (word : BitVec w) (c : γ) :
    word &&& coded index {c} ≠ 0 ↔ c ∈ members index word := by
  rw [mem_members, ne_eq, ← Bool.not_eq_false, not_iff_not]
  constructor
  · intro h
    have hbit := congrArg (fun v : BitVec w => v.getLsbD (index c)) h
    have hcoded : (coded index {c}).getLsbD (index c) = true := by
      rw [getLsbD_coded]
      exact ⟨c, Finset.mem_singleton_self c, rfl⟩
    rw [BitVec.getLsbD_and, hcoded, Bool.and_true] at hbit
    exact hbit.trans BitVec.getLsbD_zero
  · intro h
    apply BitVec.eq_of_getLsbD_eq
    intro i hi
    rw [BitVec.getLsbD_and]
    apply Eq.trans _ BitVec.getLsbD_zero.symm
    cases hbit : (coded index {c}).getLsbD i with
    | false => exact Bool.and_false _
    | true =>
        obtain ⟨d, hd, rfl⟩ := (getLsbD_coded index {c} i).mp hbit
        rw [Finset.mem_singleton] at hd
        rw [hd, h]
        rfl

end AlaniKernel.Foundation
