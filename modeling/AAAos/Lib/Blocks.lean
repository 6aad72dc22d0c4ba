import Mathlib.Data.List.Basic

/-!
# Data in blocks

A list of blocks of one size is read and written a block at a time.  `overwrite` puts a list over a
part of another; over an append it is done in the first part, in the second, or across both, and
these three cases are the rounds of a loop that writes block by block.
-/

namespace AAAos

universe u v

variable {α : Type u} {κ : Type v} {l a b src : List α} {offset n : Nat}

/-- `src` put over `l` from `offset` on. -/
def overwrite (l : List α) (offset : Nat) (src : List α) : List α :=
  l.take offset ++ src ++ l.drop (offset + src.length)

@[simp] lemma overwrite_nil (l : List α) (offset : Nat) : overwrite l offset [] = l := by
  simp [overwrite]

lemma getElem?_overwrite (h : offset + src.length ≤ l.length) (j : Nat) : (overwrite l offset src)[j]? =
      if offset ≤ j ∧ j < offset + src.length then src[j - offset]? else l[j]? := by
  have hfront : (l.take offset ++ src).length = offset + src.length := by
    rw [List.length_append, List.length_take]
    omega
  have htake : (l.take offset).length = offset := by
    rw [List.length_take]
    omega
  unfold overwrite
  by_cases hlow : j < offset
  · rw [if_neg (by omega), List.getElem?_append_left (by omega),
      List.getElem?_append_left (by omega), List.getElem?_take_of_lt hlow]
  by_cases hhigh : j < offset + src.length
  · rw [if_pos ⟨by omega, hhigh⟩, List.getElem?_append_left (by omega),
      List.getElem?_append_right (by omega), htake]
  · rw [if_neg (by omega), List.getElem?_append_right (by omega), hfront, List.getElem?_drop]
    congr 1
    omega

lemma overwrite_append_left (h : offset + src.length ≤ a.length) :
    overwrite (a ++ b) offset src = overwrite a offset src ++ b := by
  rw [overwrite, overwrite, List.take_append_of_le_length (by omega),
    List.drop_append_of_le_length h, ← List.append_assoc]

lemma overwrite_append_right (h : a.length ≤ offset) :
    overwrite (a ++ b) offset src = a ++ overwrite b (offset - a.length) src := by
  rw [overwrite, overwrite, List.take_append, List.drop_append, List.take_of_length_le h,
    List.drop_eq_nil_of_le (by omega), List.nil_append, List.append_assoc, List.append_assoc,
    List.append_assoc, Nat.sub_add_comm h]

lemma overwrite_append_across (h : offset ≤ a.length) (hsrc : a.length ≤ offset + src.length) :
    overwrite (a ++ b) offset src = overwrite a offset (src.take (a.length - offset)) ++
      overwrite b 0 (src.drop (a.length - offset)) := by
  have hlen : (src.take (a.length - offset)).length = a.length - offset := by
    rw [List.length_take]
    omega
  have hrest : offset + src.length - a.length = 0 + (src.drop (a.length - offset)).length := by
    rw [List.length_drop]
    omega
  rw [overwrite, overwrite, overwrite, hlen, List.take_append_of_le_length h, List.drop_append,
    List.drop_eq_nil_of_le hsrc, hrest, List.take_zero, List.nil_append, List.nil_append,
    List.drop_eq_nil_of_le (show a.length ≤ offset + (a.length - offset) by omega),
    List.append_nil, List.append_assoc (a.take offset) (src.take _), ← List.append_assoc (src.take _),
    List.take_append_drop, List.append_assoc (a.take offset) src]

/-! ## Blocks of one size -/

section Blocks

variable {data : κ → List α} (hdata : ∀ k, (data k).length = n)
include hdata

lemma length_flatMap_blocks (ks : List κ) : (ks.flatMap data).length = ks.length * n := by
  induction ks with
  | nil => simp
  | cons k ks ih => rw [List.flatMap_cons, List.length_append, ih, hdata, List.length_cons,
      Nat.succ_mul, Nat.add_comm]

/-- The blocks from the `i`-th on. -/
lemma drop_flatMap_blocks (ks : List κ) (i : Nat) : (ks.flatMap data).drop (i * n) = (ks.drop i).flatMap data := by
  induction ks generalizing i with
  | nil => simp
  | cons k ks ih =>
    cases i with
    | zero => simp
    | succ i =>
      have hskip : (i + 1) * n = (data k).length + i * n := by
        rw [hdata, Nat.succ_mul, Nat.add_comm]
      rw [List.flatMap_cons, hskip, List.drop_append, List.drop_succ_cons,
        List.drop_eq_nil_of_le (by omega), List.nil_append, Nat.add_sub_cancel_left]
      exact ih i

end Blocks

end AAAos
