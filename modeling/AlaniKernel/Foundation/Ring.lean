import Mathlib.Data.List.Induction
import Mathlib.Data.Nat.ModEq
import AlaniKernel.Foundation.Cells
import AlaniKernel.Foundation.Word

/-!
# Bounded rings

A ring keeps the last `n` of the values pushed into it.  Its cursor is the cell
that the next push overwrites.
-/

namespace AlaniKernel.Foundation

universe u v w

structure Ring (α : Type u) (n : Nat) where
  cells : Vector α n
  cursor : Nat
  count : Nat
  cursor_lt : cursor < n
  count_le : count ≤ n

namespace Ring

variable {α : Type u} {n : Nat}

def empty (filler : α) (h : 0 < n) : Ring α n :=
  { cells := Vector.replicate n filler
    cursor := 0
    count := 0
    cursor_lt := h
    count_le := Nat.zero_le n }

def push (self : Ring α n) (value : α) : Ring α n :=
  { cells := self.cells.set self.cursor value self.cursor_lt
    cursor := (self.cursor + 1) % n
    count := if self.count < n then self.count + 1 else self.count
    cursor_lt := Nat.mod_lt _ (Nat.zero_lt_of_lt self.cursor_lt)
    count_le := by
      have hcount := self.count_le
      split <;> omega }

theorem capacity_pos (self : Ring α n) : 0 < n :=
  Nat.zero_lt_of_lt self.cursor_lt

def lastIndex (self : Ring α n) : Fin n :=
  if self.cursor = 0 then ⟨n - 1, Nat.sub_one_lt_of_lt self.cursor_lt⟩
  else ⟨self.cursor - 1, Nat.lt_of_le_of_lt (Nat.sub_le _ 1) self.cursor_lt⟩

def last (self : Ring α n) : Option α :=
  if self.count = 0 then none else some self.cells[self.lastIndex.val]

def get (self : Ring α n) (index : Nat) : Option α :=
  if self.count ≤ index then none
  else
    let oldest := if self.count = n then self.cursor else 0
    let physical : Fin n := ⟨(oldest + index) % n, Nat.mod_lt _ self.capacity_pos⟩
    some self.cells[physical.val]

theorem count_push_pos (self : Ring α n) (value : α) :
    0 < (self.push value).count := by
  have hcursor := self.cursor_lt
  simp only [push]
  split <;> omega

theorem cursor_push (self : Ring α n) (value : α) :
    (self.push value).cursor = (self.cursor + 1) % n := rfl

theorem lastIndex_val (self : Ring α n) :
    (self.lastIndex : Nat) =
      if self.cursor = 0 then n - 1 else self.cursor - 1 := by
  unfold lastIndex
  split <;> rfl

theorem lastIndex_push (self : Ring α n) (value : α) :
    ((self.push value).lastIndex : Nat) = self.cursor := by
  have hcursor := self.cursor_lt
  rw [lastIndex_val, cursor_push]
  by_cases hwrap : self.cursor + 1 = n
  · rw [hwrap, Nat.mod_self, if_pos rfl]
    omega
  · rw [Nat.mod_eq_of_lt (by omega), if_neg (by omega)]
    omega

@[simp] theorem last_push (self : Ring α n) (value : α) :
    (self.push value).last = some value := by
  have hcount := self.count_push_pos value
  have hcell :
      (self.push value).cells[((self.push value).lastIndex : Nat)] = value := by
    simp only [lastIndex_push]
    simp [push]
  rw [last, if_neg (by omega), hcell]

/-! ## The latest values of a history -/

def latest (n : Nat) (pushed : List α) : List α :=
  pushed.drop (pushed.length - n)

theorem length_latest (n : Nat) (pushed : List α) :
    (latest n pushed).length = min pushed.length n := by
  rw [latest, List.length_drop]
  omega

/-- The ring is where pushing the history into an empty ring leaves it. -/
structure Recent (ring : Ring α n) (pushed : List α) : Prop where
  cursor : ring.cursor = pushed.length % n
  count : ring.count = min pushed.length n
  cells : ∀ k < pushed.length, pushed.length ≤ k + n →
    pushed[k]? = some (ring.cells.get ⟨k % n, Nat.mod_lt k ring.capacity_pos⟩)

theorem recent_empty (filler : α) (h : 0 < n) : (empty filler h).Recent [] :=
  { cursor := (Nat.zero_mod n).symm
    count := (Nat.zero_min n).symm
    cells := fun k hk => absurd hk (Nat.not_lt_zero k) }

theorem mod_ne_mod {k m : Nat} (hlt : k < m) (hnear : m < k + n) : k % n ≠ m % n := by
  intro h
  have hdvd : n ∣ m - k := (Nat.modEq_iff_dvd' hlt.le).mp h
  have hle := Nat.le_of_dvd (by omega) hdvd
  omega

theorem Recent.push {self : Ring α n} {pushed : List α} (h : self.Recent pushed)
    (value : α) : (self.push value).Recent (pushed ++ [value]) where
  cursor := by
    rw [cursor_push, h.cursor, Nat.mod_add_mod, List.length_append, List.length_singleton]
  count := by
    have hcount := h.count
    simp only [Ring.push, List.length_append, List.length_singleton]
    split <;> omega
  cells k hk hnear := by
    rw [List.length_append, List.length_singleton] at hk hnear
    have hwritten := get_set self.cells ⟨self.cursor, self.cursor_lt⟩
      ⟨k % n, Nat.mod_lt k self.capacity_pos⟩ value
    simp only [Fin.mk.injEq, h.cursor] at hwritten
    simp only [Ring.push, h.cursor, hwritten]
    rcases Nat.lt_succ_iff_lt_or_eq.mp hk with hold | rfl
    · rw [if_neg (mod_ne_mod hold (by omega)), List.getElem?_append_left hold]
      exact h.cells k hold (by omega)
    · rw [if_pos rfl, List.getElem?_concat_length]

theorem Recent.get {self : Ring α n} {pushed : List α} (h : self.Recent pushed)
    (index : Nat) : self.get index = (latest n pushed)[index]? := by
  have hcount := h.count
  unfold Ring.get
  split
  · rename_i hbeyond
    rw [List.getElem?_eq_none]
    rw [length_latest]
    omega
  · rename_i hwithin
    have holdest : ((if self.count = n then self.cursor else 0) + index) % n =
        (pushed.length - n + index) % n := by
      split
      · rw [h.cursor, Nat.mod_add_mod, ← Nat.add_mod_right (pushed.length - n + index)]
        congr 1
        omega
      · congr 1
        omega
    have hcell := h.cells (pushed.length - n + index) (by omega) (by omega)
    rw [latest, List.getElem?_drop, hcell]
    simp only [holdest]
    rfl

theorem pred_mod {m : Nat} (hm : 0 < m) (hn : 0 < n) :
    (m - 1) % n = if m % n = 0 then n - 1 else m % n - 1 := by
  have hbehind := Nat.mod_lt (m - 1) hn
  have hstep : m % n = ((m - 1) % n + 1) % n := by
    rw [Nat.mod_add_mod, Nat.sub_add_cancel hm]
  by_cases hwrap : (m - 1) % n + 1 = n
  · rw [hwrap, Nat.mod_self] at hstep
    rw [if_pos hstep]
    omega
  · have hnext : (m - 1) % n + 1 < n := by omega
    rw [Nat.mod_eq_of_lt hnext] at hstep
    rw [hstep, if_neg (Nat.succ_ne_zero _), Nat.add_sub_cancel]

theorem Recent.last {self : Ring α n} {pushed : List α} (h : self.Recent pushed) :
    self.last = pushed.getLast? := by
  have hcount := h.count
  have hcapacity := self.capacity_pos
  unfold Ring.last
  split
  · rename_i hempty
    have hnil : pushed = [] := List.eq_nil_of_length_eq_zero (by omega)
    rw [hnil, List.getLast?_nil]
  · rename_i hfull
    have hcell := h.cells (pushed.length - 1) (by omega) (by omega)
    have hindex : (self.lastIndex : Nat) = (pushed.length - 1) % n := by
      rw [lastIndex_val, h.cursor, ← pred_mod (by omega) hcapacity]
    rw [List.getLast?_eq_getElem?, hcell]
    simp only [hindex]
    rfl

theorem Recent.last_eq_get {self : Ring α n} {pushed : List α} (h : self.Recent pushed)
    (hne : pushed ≠ []) : self.last = self.get (self.count - 1) := by
  have hpos := List.length_pos_iff.mpr hne
  have hcount := h.count
  have hcapacity := self.capacity_pos
  have hindex : pushed.length - n + (self.count - 1) = pushed.length - 1 := by omega
  rw [h.last, h.get, latest, List.getElem?_drop, hindex, List.getLast?_eq_getElem?]

/--
A writer that stamps each value with its counter, pushes it and advances the
counter leaves the stamped history behind the one that was there.
-/
theorem Recent.foldl {σ : Type v} {β : Type w} (ring : σ → Ring α n)
    (stamp : UInt64 → β → α) {counter : σ → UInt64} {write : σ → β → σ}
    (hring : ∀ s b, ring (write s b) = (ring s).push (stamp (counter s) b))
    (hcounter : ∀ s b, counter (write s b) = counter s + 1)
    {s : σ} {pushed : List α} (h : (ring s).Recent pushed) (values : List β) :
    (ring (values.foldl write s)).Recent
      (pushed ++ values.mapIdx fun k b => stamp (counter s + UInt64.ofNat k) b) := by
  induction values using List.reverseRecOn with
  | nil => simpa using h
  | append_singleton values b ih =>
      rw [List.foldl_concat, hring, counter_foldl hcounter, List.mapIdx_concat,
        ← List.append_assoc]
      exact ih.push _

end Ring

end AlaniKernel.Foundation
