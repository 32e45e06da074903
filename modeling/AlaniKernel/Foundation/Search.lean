import Mathlib.Data.List.FinRange
import Mathlib.Data.UInt

/-!
# Search for the best candidate

A scan that keeps the best score so far and replaces it only by a strictly
better one, so that the earliest among equals wins.
-/

namespace AlaniKernel.Foundation

variable {n : Nat} (candidate : Fin n → Bool) (score : Fin n → UInt32)

def improve (best : Option (Fin n) × UInt32) (i : Fin n) :
    Option (Fin n) × UInt32 :=
  if candidate i = false then best
  else if best.1.isNone || best.2 < score i then (some i, score i)
  else best

def BestOf (scanned : List (Fin n)) (best : Option (Fin n) × UInt32) : Prop :=
  match best.1 with
  | none => ∀ i ∈ scanned, candidate i = false
  | some k =>
      k ∈ scanned ∧ candidate k = true ∧ best.2 = score k ∧
        ∀ i ∈ scanned, candidate i = true →
          score i ≤ score k ∧ (i < k → score i < score k)

theorem BestOf.improve {scanned : List (Fin n)} {best : Option (Fin n) × UInt32}
    {i : Fin n} (h : BestOf candidate score scanned best)
    (hi : ∀ j ∈ scanned, j < i) :
    BestOf candidate score (scanned ++ [i]) (improve candidate score best i) := by
  obtain ⟨found, value⟩ := best
  unfold Foundation.improve
  by_cases hcandidate : candidate i = false
  · rw [if_pos hcandidate]
    cases found with
    | none =>
        simp only [BestOf] at h ⊢
        intro j hj
        rcases List.mem_append.mp hj with hj | hj
        · exact h j hj
        · rwa [List.mem_singleton.mp hj]
    | some k =>
        obtain ⟨hk, hcand, hvalue, hbest⟩ := h
        refine ⟨by simp [hk], hcand, hvalue, fun j hj hcand' => ?_⟩
        rcases List.mem_append.mp hj with hj | hj
        · exact hbest j hj hcand'
        · rw [List.mem_singleton.mp hj, hcandidate] at hcand'
          contradiction
  · rw [if_neg hcandidate]
    have hcand : candidate i = true := by simpa using hcandidate
    cases found with
    | none =>
        simp only [BestOf] at h
        refine ⟨by simp, hcand, rfl, fun j hj hcand' => ?_⟩
        rcases List.mem_append.mp hj with hj | hj
        · rw [h j hj] at hcand'
          contradiction
        · rw [List.mem_singleton.mp hj]
          exact ⟨UInt32.le_refl _, fun hlt => absurd hlt (lt_irrefl _)⟩
    | some k =>
        obtain ⟨hk, hcandk, hvalue, hbest⟩ := h
        simp only at hvalue
        subst hvalue
        by_cases hlt : score k < score i
        · simp only [Option.isNone_some, Bool.false_or, decide_eq_true_eq, hlt,
            if_true]
          refine ⟨by simp, hcand, rfl, fun j hj hcand' => ?_⟩
          rcases List.mem_append.mp hj with hj | hj
          · have hjk := (hbest j hj hcand').1
            have hji := UInt32.lt_of_le_of_lt hjk hlt
            exact ⟨UInt32.le_of_lt hji, fun _ => hji⟩
          · rw [List.mem_singleton.mp hj]
            exact ⟨UInt32.le_refl _, fun hlt => absurd hlt (lt_irrefl _)⟩
        · simp only [Option.isNone_some, Bool.false_or, decide_eq_true_eq, hlt,
            if_false]
          refine ⟨by simp [hk], hcandk, rfl, fun j hj hcand' => ?_⟩
          rcases List.mem_append.mp hj with hj | hj
          · exact hbest j hj hcand'
          · rw [List.mem_singleton.mp hj]
            refine ⟨UInt32.not_lt.mp hlt, fun hik => ?_⟩
            exact absurd hik (not_lt.mpr (le_of_lt (hi k hk)))

theorem bestOf_foldl {scanned rest : List (Fin n)}
    {best : Option (Fin n) × UInt32} (h : BestOf candidate score scanned best)
    (hsorted : (scanned ++ rest).Pairwise (· < ·)) :
    BestOf candidate score (scanned ++ rest)
      (rest.foldl (improve candidate score) best) := by
  induction rest generalizing scanned best with
  | nil => simpa using h
  | cons i rest ih =>
      have hi : ∀ j ∈ scanned, j < i := fun j hj =>
        (List.pairwise_append.mp hsorted).2.2 j hj i List.mem_cons_self
      rw [List.append_cons] at hsorted ⊢
      exact ih (h.improve candidate score hi) hsorted

theorem bestOf_finRange :
    BestOf candidate score (List.finRange n)
      ((List.finRange n).foldl (improve candidate score) (none, 0)) := by
  have hstart : BestOf candidate score [] (none, 0) := by simp [BestOf]
  exact bestOf_foldl candidate score hstart (List.pairwise_lt_finRange n)

end AlaniKernel.Foundation
