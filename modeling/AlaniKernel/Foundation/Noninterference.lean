import AlaniKernel.Foundation.Transition

/-!
# Noninterference by unwinding

Some operations are visible to an observer and the others should not matter to
it.  Two conditions on single steps suffice: a visible step keeps related states
related and answers alike in both, and an invisible one keeps them related when
it is left out of one of the runs.  The same argument leaves out the operations
that were refused, which only their replies tell.
-/

namespace AlaniKernel.Foundation

universe u v w

variable {σ : Type u} {ι : Type v} {ο : Type w}

structure Unwinding (step : σ → ι → ο × σ) (visible : ι → Bool)
    (agree : σ → σ → Prop) : Prop where
  reply : ∀ s t op, agree s t → visible op = true → (step s op).1 = (step t op).1
  follow : ∀ s t op, agree s t → visible op = true → agree (step s op).2 (step t op).2
  skip : ∀ s t op, agree s t → visible op = false → agree (step s op).2 t

namespace Unwinding

variable {step : σ → ι → ο × σ} {visible : ι → Bool} {agree : σ → σ → Prop}

theorem run_purged (h : Unwinding step visible agree) {s t : σ} (hst : agree s t)
    (ops : List ι) : agree (run step s ops) (run step t (ops.filter visible)) := by
  induction ops generalizing s t with
  | nil => exact hst
  | cons op ops ih =>
      cases hvisible : visible op with
      | true =>
          simp only [List.filter_cons, hvisible, if_true]
          exact ih (h.follow s t op hst hvisible)
      | false =>
          simp only [List.filter_cons, hvisible, Bool.false_eq_true, if_false]
          exact ih (h.skip s t op hst hvisible)

theorem history_purged (h : Unwinding step visible agree) {s t : σ} (hst : agree s t)
    (ops : List ι) :
    (history step s ops).filter (fun event => visible event.1) =
      history step t (ops.filter visible) := by
  induction ops generalizing s t with
  | nil => rfl
  | cons op ops ih =>
      cases hvisible : visible op with
      | true =>
          simp only [history, List.filter_cons, hvisible, if_true]
          rw [h.reply s t op hst hvisible, ih (h.follow s t op hst hvisible)]
      | false =>
          simp only [history, List.filter_cons, hvisible, Bool.false_eq_true, if_false]
          exact ih (h.skip s t op hst hvisible)

end Unwinding

/-! ## Leaving out refused operations -/

section Refused

variable {step : σ → ι → ο × σ} (done : ι × ο → Bool)

def doneOps (events : List (ι × ο)) : List ι := (events.filter done).map Prod.fst

/--
Operations that were refused can be left out if a refused step keeps the states
related, and any other step is answered alike in related states.
-/
theorem run_doneOps {J : σ → Prop} {P : σ → ι → Prop} {related : σ → σ → Prop}
    {alike : ι × ο → ι × ο → Prop} (hJ : ∀ s op, J s → J (step s op).2)
    (hrefused : ∀ s t op, J s → P s op → related s t → done (op, (step s op).1) = false →
      related (step s op).2 t)
    (hdone : ∀ s t op, J s → P s op → related s t → done (op, (step s op).1) = true →
      alike (op, (step s op).1) (op, (step t op).1) ∧
        related (step s op).2 (step t op).2)
    {s t : σ} (hs : J s) (hst : related s t) {ops : List ι} (h : Along step P s ops) :
    related (run step s ops) (run step t (doneOps done (history step s ops))) ∧
      List.Forall₂ alike ((history step s ops).filter done)
        (history step t (doneOps done (history step s ops))) := by
  induction ops generalizing s t with
  | nil => exact ⟨hst, .nil⟩
  | cons op ops ih =>
      cases hop : done (op, (step s op).1) with
      | false =>
          have hnext := hrefused s t op hs h.1 hst hop
          simp only [doneOps, history, List.filter_cons, hop, Bool.false_eq_true, if_false]
          exact ih (hJ s op hs) hnext h.2
      | true =>
          obtain ⟨halike, hnext⟩ := hdone s t op hs h.1 hst hop
          obtain ⟨hrun, hhistory⟩ := ih (hJ s op hs) hnext h.2
          simp only [doneOps, history, List.filter_cons, hop, if_true, List.map_cons]
          exact ⟨hrun, .cons halike hhistory⟩

end Refused

end AlaniKernel.Foundation
