import Mathlib.Data.Fintype.Basic
import Mathlib.Data.List.FinRange

/-!
# Bounded tables of cells

Vectors used as fixed-capacity tables: the first cell that satisfies a test,
and a loop that rewrites the cells in place and stops at the first failure.
A mutable reference to a cell is the index of that cell.
-/

namespace AlaniKernel.Foundation

universe u v

variable {α : Type u} {ε : Type v} {n : Nat}

@[irreducible] def position (cells : Vector α n) (p : α → Bool) : Option (Fin n) :=
  Fin.find? fun i => p (cells.get i)

theorem position_eq_some_iff {cells : Vector α n} {p : α → Bool} {i : Fin n} :
    position cells p = some i ↔
      p (cells.get i) = true ∧ ∀ j : Fin n, j < i → p (cells.get j) = false := by
  unfold position
  exact Fin.find?_eq_some_iff

theorem position_eq_none_iff {cells : Vector α n} {p : α → Bool} :
    position cells p = none ↔ ∀ i : Fin n, p (cells.get i) = false := by
  unfold position
  exact Fin.find?_eq_none_iff

theorem position_some {cells : Vector α n} {p : α → Bool} {i : Fin n}
    (h : position cells p = some i) : p (cells.get i) = true :=
  (position_eq_some_iff.mp h).1

theorem position_of_unique {cells : Vector α n} {p : α → Bool} {i : Fin n}
    (hi : p (cells.get i) = true)
    (hunique : ∀ j : Fin n, p (cells.get j) = true → j = i) :
    position cells p = some i := by
  rw [position_eq_some_iff]
  refine ⟨hi, fun j hj => ?_⟩
  rw [Bool.eq_false_iff]
  intro hp
  exact absurd (hunique j hp) (ne_of_lt hj)

def first (cells : Vector α n) (p : α → Bool) : Option α :=
  (position cells p).map fun i => cells.get i

theorem first_eq_none_iff {cells : Vector α n} {p : α → Bool} :
    first cells p = none ↔ ∀ i : Fin n, p (cells.get i) = false := by
  rw [first, Option.map_eq_none_iff, position_eq_none_iff]

theorem get_eq_getElem (cells : Vector α n) (i : Fin n) :
    cells.get i = cells[i.val] := rfl

@[simp] theorem get_replicate (a : α) (i : Fin n) :
    (Vector.replicate n a).get i = a := by
  simp [get_eq_getElem]

theorem get_set_of_ne (cells : Vector α n) {i j : Fin n} (a : α)
    (h : j ≠ i) : (cells.set i a i.isLt).get j = cells.get j := by
  have hne : (i : Nat) ≠ j := fun hij => h (Fin.ext hij.symm)
  simp [get_eq_getElem, hne]

theorem get_set (cells : Vector α n) (i j : Fin n) (a : α) :
    (cells.set i a i.isLt).get j = if j = i then a else cells.get j := by
  split
  · rename_i h
    subst h
    simp [get_eq_getElem]
  · rename_i h
    exact get_set_of_ne cells a h

def countCells (cells : Vector α n) (p : α → Bool) : Nat :=
  (cells.toList.filter p).length

/--
Runs `f` on the listed cells in order and writes each result back.  The loop
stops at the first cell whose update fails, after writing that cell.
-/
def forEachFrom (f : α → Except ε Unit × α) :
    List (Fin n) → Vector α n → Except ε Unit × Vector α n
  | [], cells => (.ok (), cells)
  | i :: rest, cells =>
      match (f (cells.get i)).1 with
      | .ok () => forEachFrom f rest (cells.set i (f (cells.get i)).2 i.isLt)
      | .error error => (.error error, cells.set i (f (cells.get i)).2 i.isLt)

/-- The loop `for cell in cells.iter_mut()` with an early return. -/
def forEach (f : α → Except ε Unit × α) (cells : Vector α n) :
    Except ε Unit × Vector α n :=
  forEachFrom f (List.finRange n) cells

section Loop

variable {f : α → Except ε Unit × α}

theorem forEachFrom_cons_ok {k : Fin n} {rest : List (Fin n)}
    {cells : Vector α n} (h : (f (cells.get k)).1 = .ok ()) :
    forEachFrom f (k :: rest) cells =
      forEachFrom f rest (cells.set k (f (cells.get k)).2 k.isLt) := by
  simp only [forEachFrom, h]

theorem forEachFrom_cons_error {k : Fin n} {rest : List (Fin n)}
    {cells : Vector α n} {error : ε} (h : (f (cells.get k)).1 = .error error) :
    forEachFrom f (k :: rest) cells =
      (.error error, cells.set k (f (cells.get k)).2 k.isLt) := by
  simp only [forEachFrom, h]

/--
A cell of the loop's result is untouched or holds its own update, and a loop
that finishes has updated every listed cell.
-/
theorem forEachFrom_spec {indices : List (Fin n)} (cells : Vector α n)
    (hnodup : indices.Nodup) (i : Fin n) :
    ((forEachFrom f indices cells).1 = .ok () → i ∈ indices →
        (f (cells.get i)).1 = .ok () ∧
        (forEachFrom f indices cells).2.get i = (f (cells.get i)).2) ∧
      ((forEachFrom f indices cells).2.get i = cells.get i ∨
        i ∈ indices ∧
          (forEachFrom f indices cells).2.get i = (f (cells.get i)).2) ∧
      (i ∉ indices → (forEachFrom f indices cells).2.get i = cells.get i) := by
  induction indices generalizing cells with
  | nil => simp [forEachFrom]
  | cons k rest ih =>
      obtain ⟨hk, hrest⟩ := List.nodup_cons.mp hnodup
      cases hfk : (f (cells.get k)).1 with
      | ok =>
          rw [forEachFrom_cons_ok hfk]
          obtain ⟨hdone, hcell, hkept⟩ :=
            ih (cells.set k (f (cells.get k)).2 k.isLt) hrest
          by_cases hik : i = k
          · subst hik
            have hwritten := hkept hk
            rw [get_set, if_pos rfl] at hwritten
            simp [hwritten, hfk]
          · simp only [get_set, if_neg hik] at hdone hcell hkept
            simp only [List.mem_cons, hik, false_or]
            exact ⟨hdone, hcell, hkept⟩
      | error error =>
          rw [forEachFrom_cons_error hfk]
          by_cases hik : i = k
          · subst hik
            simp [get_set]
          · simp [get_set, hik]

theorem forEach_ok {cells : Vector α n} (h : (forEach f cells).1 = .ok ())
    (i : Fin n) :
    (f (cells.get i)).1 = .ok () ∧ (forEach f cells).2.get i = (f (cells.get i)).2 :=
  (forEachFrom_spec cells (List.nodup_finRange n) i).1 h (List.mem_finRange i)

theorem forEach_cell (cells : Vector α n) (i : Fin n) :
    ((forEach f cells).2.get i) = cells.get i ∨
      ((forEach f cells).2.get i) = (f (cells.get i)).2 :=
  (forEachFrom_spec cells (List.nodup_finRange n) i).2.1.imp_right And.right

theorem forEachFrom_error {indices : List (Fin n)} {cells : Vector α n}
    {error : ε} (hnodup : indices.Nodup)
    (h : (forEachFrom f indices cells).1 = .error error) :
    ∃ i ∈ indices, (f (cells.get i)).1 = .error error := by
  induction indices generalizing cells with
  | nil => simp [forEachFrom] at h
  | cons k rest ih =>
      obtain ⟨hk, hrest⟩ := List.nodup_cons.mp hnodup
      cases hfk : (f (cells.get k)).1 with
      | ok =>
          rw [forEachFrom_cons_ok hfk] at h
          obtain ⟨i, hi, herror⟩ := ih hrest h
          have hik : i ≠ k := fun hik => hk (hik ▸ hi)
          rw [get_set_of_ne _ _ hik] at herror
          exact ⟨i, List.mem_cons_of_mem _ hi, herror⟩
      | error first =>
          rw [forEachFrom_cons_error hfk] at h
          cases h
          exact ⟨k, List.mem_cons_self, hfk⟩

theorem forEach_error {cells : Vector α n} {error : ε}
    (h : (forEach f cells).1 = .error error) :
    ∃ i : Fin n, (f (cells.get i)).1 = .error error := by
  obtain ⟨i, -, herror⟩ := forEachFrom_error (List.nodup_finRange n) h
  exact ⟨i, herror⟩

theorem forEach_ok_iff {cells : Vector α n} :
    (forEach f cells).1 = .ok () ↔ ∀ i : Fin n, (f (cells.get i)).1 = .ok () := by
  constructor
  · exact fun h i => (forEach_ok h i).1
  · intro h
    cases hloop : (forEach f cells).1 with
    | ok => rfl
    | error error =>
        obtain ⟨i, hi⟩ := forEach_error hloop
        rw [h i] at hi
        contradiction

end Loop

end AlaniKernel.Foundation
