import Mathlib.Data.Nat.Basic

/-!
# Identifiers handed out in order

A table numbers its live cells when they carry distinct identifiers below a
counter.  A cell that takes the counter's value keeps the numbering, and so
does a change after which fewer cells live.
-/

namespace AlaniKernel.Foundation

universe u

variable {ι : Type u} {live nextLive : ι → Prop} {id nextId : ι → Nat}
  {counter nextCounter : Nat}

structure Numbered (live : ι → Prop) (id : ι → Nat) (counter : Nat) : Prop where
  lt : ∀ i, live i → id i < counter
  unique : ∀ i j, live i → live j → id i = id j → i = j

namespace Numbered

theorem restrict (h : Numbered live id counter) (hlive : ∀ i, nextLive i → live i)
    (hid : ∀ i, nextLive i → nextId i = id i) (hcounter : counter ≤ nextCounter) :
    Numbered nextLive nextId nextCounter := by
  constructor
  · intro i hi
    have hlt := h.lt i (hlive i hi)
    rw [hid i hi]
    omega
  · intro i j hi hj heq
    rw [hid i hi, hid j hj] at heq
    exact h.unique i j (hlive i hi) (hlive j hj) heq

theorem issue (h : Numbered live id counter) (slot : ι) (hslot : nextId slot = counter)
    (hlive : ∀ i, i ≠ slot → nextLive i → live i)
    (hid : ∀ i, i ≠ slot → nextLive i → nextId i = id i) :
    Numbered nextLive nextId (counter + 1) := by
  have hold : ∀ i, i ≠ slot → nextLive i → nextId i < counter := by
    intro i hne hi
    rw [hid i hne hi]
    exact h.lt i (hlive i hne hi)
  constructor
  · intro i hi
    by_cases hne : i = slot
    · subst hne
      omega
    · have hlt := hold i hne hi
      omega
  · intro i j hi hj heq
    by_cases hne : i = slot
    · by_cases hne' : j = slot
      · rw [hne, hne']
      · have hlt := hold j hne' hj
        subst hne
        omega
    · by_cases hne' : j = slot
      · have hlt := hold i hne hi
        subst hne'
        omega
      · rw [hid i hne hi, hid j hne' hj] at heq
        exact h.unique i j (hlive i hne hi) (hlive j hne' hj) heq

end Numbered

end AlaniKernel.Foundation
