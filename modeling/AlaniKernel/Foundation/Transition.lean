import Mathlib.Data.List.Basic
import Mathlib.Data.List.Induction

/-!
# Runs of a deterministic transition function

A step takes a state and an operation to a reply and the next state.  The
section collects the rules for whole runs: invariants, conditions on every
step, and the exact condition under which a property holds all along a run.
-/

namespace AlaniKernel.Foundation

universe u v w x y

variable {σ : Type u} {ι : Type v} {ο : Type w} (step : σ → ι → ο × σ)

def run : σ → List ι → σ
  | s, [] => s
  | s, op :: ops => run (step s op).2 ops

def history : σ → List ι → List (ι × ο)
  | _, [] => []
  | s, op :: ops => (op, (step s op).1) :: history (step s op).2 ops

/-- `P` holds of every step of a run, at the state the step starts from. -/
def Along (P : σ → ι → Prop) : σ → List ι → Prop
  | _, [] => True
  | s, op :: ops => P s op ∧ Along P (step s op).2 ops

instance decidableAlong (P : σ → ι → Prop) [∀ s op, Decidable (P s op)] :
    ∀ s ops, Decidable (Along step P s ops)
  | _, [] => inferInstanceAs (Decidable True)
  | s, op :: ops =>
      have := decidableAlong P (step s op).2 ops
      inferInstanceAs (Decidable (P s op ∧ Along step P (step s op).2 ops))

def countAlong (p : σ → ι → Bool) : σ → List ι → Nat
  | _, [] => 0
  | s, op :: ops => (if p s op then 1 else 0) + countAlong p (step s op).2 ops

variable {step}

@[simp] theorem run_nil (s : σ) : run step s [] = s := rfl

@[simp] theorem run_cons (s : σ) (op : ι) (ops : List ι) :
    run step s (op :: ops) = run step (step s op).2 ops := rfl

theorem run_append (s : σ) (before after : List ι) :
    run step s (before ++ after) = run step (run step s before) after := by
  induction before generalizing s with
  | nil => rfl
  | cons op before ih => exact ih (step s op).2

theorem run_snoc (s : σ) (ops : List ι) (op : ι) :
    run step s (ops ++ [op]) = (step (run step s ops) op).2 := by
  rw [run_append]
  rfl

theorem history_append (s : σ) (before after : List ι) :
    history step s (before ++ after) =
      history step s before ++ history step (run step s before) after := by
  induction before generalizing s with
  | nil => rfl
  | cons op before ih =>
      simp only [List.cons_append, history, run_cons]
      rw [ih]

theorem history_snoc (s : σ) (ops : List ι) (op : ι) :
    history step s (ops ++ [op]) =
      history step s ops ++ [(op, (step (run step s ops) op).1)] := by
  rw [history_append]
  rfl

theorem filterMap_snoc {α : Type x} {β : Type y} (f : α → Option β) (entries : List α)
    (entry : α) :
    (entries ++ [entry]).filterMap f = entries.filterMap f ++ (f entry).toList := by
  rw [List.filterMap_append]
  cases hentry : f entry with
  | none => simp [hentry]
  | some written => simp [hentry]

theorem mem_filterMap_snoc {α : Type x} {β : Type y} {f : α → Option β} {entries : List α}
    {entry : α} {written : β} : written ∈ (entries ++ [entry]).filterMap f ↔
      written ∈ entries.filterMap f ∨ f entry = some written := by
  rw [filterMap_snoc, List.mem_append, Option.mem_toList]

theorem run_filterMap_cons {κ : Type x} (f : κ → Option ι) (s : σ) (call : κ)
    (calls : List κ) :
    run step s ((call :: calls).filterMap f) =
      run step ((f call).elim s fun op => (step s op).2) (calls.filterMap f) := by
  cases hop : f call with
  | none => rw [List.filterMap_cons_none hop, Option.elim_none]
  | some op => rw [List.filterMap_cons_some hop, Option.elim_some, run_cons]

theorem along_of_forall {P : σ → ι → Prop} (h : ∀ s op, P s op) (s : σ)
    (ops : List ι) : Along step P s ops := by
  induction ops generalizing s with
  | nil => trivial
  | cons op ops ih => exact ⟨h s op, ih _⟩

theorem along_of_mem {P : ι → Prop} {ops : List ι} (h : ∀ op ∈ ops, P op) (s : σ) :
    Along step (fun _ op => P op) s ops := by
  induction ops generalizing s with
  | nil => trivial
  | cons op ops ih =>
      exact ⟨h op List.mem_cons_self,
        ih (fun op' hop => h op' (List.mem_cons_of_mem op hop)) _⟩

theorem Along.and {P Q : σ → ι → Prop} {s : σ} {ops : List ι} (h : Along step P s ops)
    (h' : Along step Q s ops) : Along step (fun s op => P s op ∧ Q s op) s ops := by
  induction ops generalizing s with
  | nil => trivial
  | cons op ops ih => exact ⟨⟨h.1, h'.1⟩, ih h.2 h'.2⟩

theorem along_of_history {P : ι × ο → Prop} {s : σ} {ops : List ι}
    (h : ∀ event ∈ history step s ops, P event) :
    Along step (fun s op => P (op, (step s op).1)) s ops := by
  induction ops generalizing s with
  | nil => trivial
  | cons op ops ih =>
      exact ⟨h _ List.mem_cons_self, ih fun event hevent =>
        h event (List.mem_cons_of_mem _ hevent)⟩

/-- What no step brings about held all along if it holds at the end. -/
theorem along_of_last {I J : σ → Prop} (hJ : ∀ s op, J s → J (step s op).2)
    (hback : ∀ s op, J s → I (step s op).2 → I s) {s : σ} (hs : J s) {ops : List ι}
    (h : I (run step s ops)) : I s ∧ Along step (fun s _ => I s) s ops := by
  induction ops generalizing s with
  | nil => exact ⟨h, trivial⟩
  | cons op ops ih =>
      obtain ⟨hnext, hrest⟩ := ih (hJ s op hs) h
      have hfirst := hback s op hs hnext
      exact ⟨hfirst, hfirst, hrest⟩

theorem run_frame {β : Type x} (f : σ → β) {ops : List ι}
    (h : ∀ s, ∀ op ∈ ops, f (step s op).2 = f s) (s : σ) :
    f (run step s ops) = f s := by
  induction ops generalizing s with
  | nil => rfl
  | cons op ops ih =>
      have hrest := ih (fun s op' hop => h s op' (List.mem_cons_of_mem op hop))
      rw [run_cons, hrest, h s op List.mem_cons_self]

theorem run_invariant_of_along {I : σ → Prop} {P : σ → ι → Prop}
    (hstep : ∀ s op, I s → P s op → I (step s op).2) {s : σ} (hs : I s)
    {ops : List ι} (h : Along step P s ops) : I (run step s ops) := by
  induction ops generalizing s with
  | nil => exact hs
  | cons op ops ih => exact ih (hstep s op hs h.1) h.2

theorem run_invariant {I : σ → Prop}
    (hstep : ∀ s op, I s → I (step s op).2) {s : σ} (hs : I s)
    (ops : List ι) : I (run step s ops) :=
  run_invariant_of_along (P := fun _ _ => True) (fun s op h _ => hstep s op h)
    hs (along_of_forall (fun _ _ => trivial) s ops)

theorem run_history_invariant {I : σ → List (ι × ο) → Prop}
    (hstep : ∀ s events op, I s events →
      I (step s op).2 (events ++ [(op, (step s op).1)]))
    {s : σ} (hs : I s []) (ops : List ι) : I (run step s ops) (history step s ops) := by
  induction ops using List.reverseRecOn with
  | nil => exact hs
  | append_singleton ops op ih =>
      rw [run_snoc, history_snoc]
      exact hstep _ _ op ih

/--
A bounded potential bounds the steps that raise it: each step that passes the
test pays one unit, and no step meeting `P` loses any.
-/
theorem countAlong_le_potential {J : σ → Prop} {P : σ → ι → Prop}
    {p : σ → ι → Bool} (potential : σ → Nat)
    (hJ : ∀ s op, J s → J (step s op).2)
    (hstep : ∀ s op, J s → P s op →
      (if p s op then 1 else 0) + potential s ≤ potential (step s op).2)
    {s : σ} (hs : J s) {ops : List ι} (h : Along step P s ops) :
    countAlong step p s ops + potential s ≤ potential (run step s ops) := by
  induction ops generalizing s with
  | nil => simp [countAlong]
  | cons op ops ih =>
      have hfirst := hstep s op hs h.1
      have hrest := ih (hJ s op hs) h.2
      simp only [countAlong, run_cons]
      omega

/-- The same where the steps that pass another test may lose a bounded part of it. -/
theorem countAlong_le_refills {J : σ → Prop} {P : σ → ι → Prop}
    {p q : σ → ι → Bool} (potential : σ → Nat) (refill : Nat)
    (hJ : ∀ s op, J s → J (step s op).2)
    (hstep : ∀ s op, J s → P s op →
      (if p s op then 1 else 0) + potential s ≤
        potential (step s op).2 + if q s op then refill else 0)
    {s : σ} (hs : J s) {ops : List ι} (h : Along step P s ops) :
    countAlong step p s ops + potential s ≤
      potential (run step s ops) + refill * countAlong step q s ops := by
  induction ops generalizing s with
  | nil => simp [countAlong]
  | cons op ops ih =>
      have hfirst := hstep s op hs h.1
      have hrest := ih (hJ s op hs) h.2
      have hspent : refill * (if q s op then 1 else 0) = if q s op then refill else 0 := by
        split_ifs
        · exact Nat.mul_one refill
        · exact Nat.mul_zero refill
      simp only [countAlong, run_cons, Nat.mul_add, hspent]
      omega

/--
Counted steps are paid from a credit, or on a debt that the end of the run may
still owe; a free step is forgiven one unit.
-/
theorem countAlong_le_credit {J : σ → Prop} {p free : σ → ι → Bool}
    (credit debt : σ → Nat) (hJ : ∀ s op, J s → J (step s op).2)
    (hstep : ∀ s op, J s →
      (if p s op then 1 else 0) + debt s + credit (step s op).2 ≤
        credit s + (if free s op then 1 else 0) + debt (step s op).2)
    {s : σ} (hs : J s) (ops : List ι) :
    countAlong step p s ops + debt s + credit (run step s ops) ≤
      credit s + countAlong step free s ops + debt (run step s ops) := by
  induction ops generalizing s with
  | nil => simp [countAlong, Nat.add_comm]
  | cons op ops ih =>
      have hfirst := hstep s op hs
      have hrest := ih (hJ s op hs)
      simp only [countAlong, run_cons]
      omega

theorem countAlong_eq_zero {p : σ → ι → Bool} {s : σ} {ops : List ι}
    (h : Along step (fun s op => p s op = false) s ops) : countAlong step p s ops = 0 := by
  induction ops generalizing s with
  | nil => rfl
  | cons op ops ih =>
      rw [countAlong, ih h.2, h.1]
      rfl

theorem countAlong_congr {J : σ → Prop} {P : σ → ι → Prop} {p q : σ → ι → Bool}
    (hJ : ∀ s op, J s → J (step s op).2) (hpq : ∀ s op, J s → P s op → p s op = q s op)
    {s : σ} (hs : J s) {ops : List ι} (h : Along step P s ops) :
    countAlong step p s ops = countAlong step q s ops := by
  induction ops generalizing s with
  | nil => rfl
  | cons op ops ih =>
      rw [countAlong, countAlong, hpq s op hs h.1, ih (hJ s op hs) h.2]

section Component

variable {τ : Type x} {κ : Type y} {π : Type w} {inner : τ → κ → π × τ} (view : σ → τ)
  (op : ι → Option κ) {J : σ → Prop} (hJ : ∀ s call, J s → J (step s call).2)
  (hview : ∀ s call, J s →
    view (step s call).2 = (op call).elim (view s) fun o => (inner (view s) o).2)

include hJ hview

/-- A component runs the operations that the steps make on it. -/
theorem run_component {s : σ} (hs : J s) (calls : List ι) :
    view (run step s calls) = run inner (view s) (calls.filterMap op) := by
  induction calls generalizing s with
  | nil => rfl
  | cons call calls ih =>
      rw [run_cons, ih (hJ s call hs), hview s call hs, run_filterMap_cons]

theorem countAlong_component {p : σ → ι → Bool} {q : τ → κ → Bool}
    (hp : ∀ s call, J s → p s call = (op call).elim false fun o => q (view s) o)
    {s : σ} (hs : J s) (calls : List ι) :
    countAlong step p s calls = countAlong inner q (view s) (calls.filterMap op) := by
  induction calls generalizing s with
  | nil => rfl
  | cons call calls ih =>
      rw [countAlong, ih (hJ s call hs), hview s call hs, hp s call hs]
      cases hop : op call with
      | none =>
          rw [List.filterMap_cons_none hop]
          simp
      | some o =>
          rw [List.filterMap_cons_some hop]
          rfl

end Component

theorem countAlong_append (p : σ → ι → Bool) (s : σ) (before after : List ι) :
    countAlong step p s (before ++ after) =
      countAlong step p s before + countAlong step p (run step s before) after := by
  induction before generalizing s with
  | nil => exact (Nat.zero_add _).symm
  | cons op before ih =>
      simp only [List.cons_append, countAlong, run_cons, ih]
      omega

theorem mem_history {s : σ} {ops : List ι} {event : ι × ο} (h : event ∈ history step s ops) :
    ∃ before after, ops = before ++ event.1 :: after ∧
      event.2 = (step (run step s before) event.1).1 := by
  induction ops generalizing s with
  | nil => contradiction
  | cons op ops ih =>
      rcases List.mem_cons.mp h with rfl | hrest
      · exact ⟨[], ops, rfl, rfl⟩
      · obtain ⟨before, after, hops, hreply⟩ := ih hrest
        exact ⟨op :: before, after, by rw [hops, List.cons_append], hreply⟩

theorem countAlong_eq_countP (p : ι → Bool) (s : σ) (ops : List ι) :
    countAlong step (fun _ op => p op) s ops = ops.countP p := by
  induction ops generalizing s with
  | nil => rfl
  | cons op ops ih =>
      rw [countAlong, ih, List.countP_cons, Nat.add_comm]

theorem countAlong_eq_countP_history (p : ι → ο → Bool) (s : σ) (ops : List ι) :
    countAlong step (fun s op => p op (step s op).1) s ops =
      (history step s ops).countP fun entry => p entry.1 entry.2 := by
  induction ops generalizing s with
  | nil => rfl
  | cons op ops ih =>
      rw [countAlong, ih, history, List.countP_cons, Nat.add_comm]

/--
A log to which a step adds one entry when it passes the test, and nothing
otherwise, has grown over a run by as many entries as steps passed.
-/
theorem run_logged {κ : Type x} {α : Type y} (log : σ → κ) (write : κ → α → κ)
    (p : σ → ι → Bool)
    (hwrite : ∀ s op, p s op = true → ∃ a, log (step s op).2 = write (log s) a)
    (hkeep : ∀ s op, p s op = false → log (step s op).2 = log s)
    (s : σ) (ops : List ι) :
    ∃ entries : List α, log (run step s ops) = entries.foldl write (log s) ∧
      entries.length = countAlong step p s ops := by
  induction ops generalizing s with
  | nil => exact ⟨[], rfl, rfl⟩
  | cons op ops ih =>
      obtain ⟨entries, hlog, hlength⟩ := ih (step s op).2
      cases hp : p s op with
      | true =>
          obtain ⟨a, ha⟩ := hwrite s op hp
          refine ⟨a :: entries, ?_, ?_⟩
          · rw [run_cons, hlog, ha, List.foldl_cons]
          · rw [List.length_cons, hlength, countAlong, if_pos hp, Nat.add_comm]
      | false =>
          refine ⟨entries, ?_, ?_⟩
          · rw [run_cons, hlog, hkeep s op hp]
          · rw [hlength, countAlong, hp, if_neg Bool.false_ne_true, Nat.zero_add]

/--
Where one step keeps `I` exactly when it meets `P`, a run meets `P` at every
step exactly when `I` holds in every state of the run.  `J` is an invariant of
all runs and `Q` a side condition on the run.
-/
theorem along_iff_forall_prefix {I J : σ → Prop} {P Q : σ → ι → Prop}
    (hJ : ∀ s op, J s → J (step s op).2)
    (hexact : ∀ s op, J s → Q s op → I s → (P s op ↔ I (step s op).2))
    {s : σ} (hs : J s) (hI : I s) {ops : List ι} (hQ : Along step Q s ops) :
    Along step P s ops ↔ ∀ taken, taken <+: ops → I (run step s taken) := by
  induction ops generalizing s with
  | nil =>
      simp only [Along, true_iff, List.prefix_nil]
      rintro taken rfl
      exact hI
  | cons op ops ih =>
      have hnext := hexact s op hs hQ.1 hI
      constructor
      · rintro ⟨hP, hrest⟩ taken htaken
        rcases List.prefix_cons_iff.mp htaken with rfl | ⟨taken, rfl, hrest'⟩
        · exact hI
        · exact (ih (hJ s op hs) (hnext.mp hP) hQ.2).mp hrest taken hrest'
      · intro h
        have hP : P s op := hnext.mpr (h [op] (by simp))
        refine ⟨hP, (ih (hJ s op hs) (hnext.mp hP) hQ.2).mpr ?_⟩
        intro taken htaken
        exact h (op :: taken) (List.cons_prefix_cons.mpr ⟨rfl, htaken⟩)

/-! ## Failing operations -/

section Failure

variable {ε : Type v} {α : Type w}

/-- The outcome of an operation on `before` that changes nothing when it fails. -/
def UnchangedOnError (before : σ) (outcome : Except ε α × σ) : Prop :=
  ∀ error, outcome.1 = .error error → outcome.2 = before

theorem unchangedOnError_error (before : σ) (error : ε) :
    UnchangedOnError before ((.error error, before) : Except ε α × σ) :=
  fun _ _ => rfl

theorem unchangedOnError_ok (before after : σ) (reply : α) :
    UnchangedOnError before ((.ok reply, after) : Except ε α × σ) :=
  fun _ h => nomatch h

end Failure

end AlaniKernel.Foundation
