import Mathlib.Algebra.BigOperators.Fin
import Mathlib.Data.Fintype.Card

/-!
# Counting the slots that refer to something

A table whose slots may each refer to one thing.  `tally` counts the slots that refer to a given
thing, and writing one slot moves the count by what the slot referred to before and refers to now.
-/

namespace AAAos

variable {ι α : Type} [Fintype ι] [DecidableEq α]

/-- The number of slots of `t` that refer to `a`. -/
def tally (t : ι → Option α) (a : α) : Nat := (Finset.univ.filter fun i => t i = some a).card

lemma tally_pos_of_mem {t : ι → Option α} {i : ι} {a : α} (h : t i = some a) : 0 < tally t a :=
  Finset.card_pos.mpr ⟨i, by simp [h]⟩

lemma tally_eq_zero {t : ι → Option α} {a : α} (h : ∀ i, t i ≠ some a) : tally t a = 0 := by
  rw [tally, Finset.card_eq_zero, Finset.filter_eq_empty_iff]
  exact fun i _ => h i

lemma tally_le_card (t : ι → Option α) (a : α) : tally t a ≤ Fintype.card ι :=
  Finset.card_le_univ _

variable [DecidableEq ι]

/-- Writing one slot. -/
theorem tally_update (t : ι → Option α) (i : ι) (o : Option α) (a : α) :
    tally (Function.update t i o) a + (if t i = some a then 1 else 0) =
      tally t a + (if o = some a then 1 else 0) := by
  have hsplit : ∀ u : ι → Option α, tally u a = (if u i = some a then 1 else 0) +
        ∑ j ∈ Finset.univ.erase i, if u j = some a then 1 else 0 := by
    intro u
    rw [tally, Finset.card_filter]
    exact (Finset.add_sum_erase _ (fun j => if u j = some a then 1 else 0)
      (Finset.mem_univ i)).symm
  have hrest : (∑ j ∈ Finset.univ.erase i, if Function.update t i o j = some a then 1 else 0) =
      ∑ j ∈ Finset.univ.erase i, if t j = some a then 1 else 0 := by
    refine Finset.sum_congr rfl fun j hj => ?_
    rw [Function.update_of_ne (Finset.ne_of_mem_erase hj)]
  rw [hsplit, hsplit t, hrest, Function.update_self]
  omega

lemma tally_fill {t : ι → Option α} {i : ι} (h : t i = none) (b a : α) :
    tally (Function.update t i (some b)) a = tally t a + (if b = a then 1 else 0) := by
  simpa [h] using tally_update t i (some b) a

lemma tally_clear {t : ι → Option α} {i : ι} {b : α} (h : t i = some b) (a : α) :
    tally (Function.update t i none) a + (if b = a then 1 else 0) = tally t a := by
  simpa [h] using tally_update t i none a

-- the count of a table of symbolic contents must not be evaluated
attribute [irreducible] tally

end AAAos
