import Mathlib.Data.Nat.ModEq
import Mathlib.Data.Nat.Prime.Basic

/-!
# Ones' complement sums

A sum of digits of base `b` is brought back to one digit by adding the carries to it, round after round.
A round keeps the sum modulo `b - 1` and keeps it positive, and two rounds are enough for a sum of two
digits, so the digit that remains is `b - 1` exactly if the sum is a positive multiple of `b - 1`.
-/

namespace AAAos.OnesComplement

variable {b s : Nat}

/-- One round: the carries are added to the last digit. -/
def fold (b s : Nat) : Nat := s % b + s / b

lemma fold_modEq (hb : 0 < b) (s : Nat) : fold b s ≡ s [MOD b - 1] := by
  have hbase : b ≡ 1 [MOD b - 1] := (Nat.modEq_iff_dvd' hb).mpr (dvd_refl (b - 1)) |>.symm
  calc fold b s = s % b + 1 * (s / b) := by rw [fold, Nat.one_mul]
    _ ≡ s % b + b * (s / b) [MOD b - 1] := (hbase.symm.mul_right _).add_left _
    _ = s := Nat.mod_add_div s b

lemma fold_of_lt (h : s < b) : fold b s = s := by
  rw [fold, Nat.mod_eq_of_lt h, Nat.div_eq_of_lt h, Nat.add_zero]

lemma fold_pos (hs : 0 < s) : 0 < fold b s := by
  by_contra hzero
  have hmod : s % b = 0 ∧ s / b = 0 :=
    Nat.add_eq_zero_iff.mp (Nat.eq_zero_of_not_pos hzero)
  have hsplit := Nat.mod_add_div s b
  rw [hmod.1, hmod.2, Nat.mul_zero] at hsplit
  omega

lemma fold_fold_lt (hs : s < b * b) : fold b (fold b s) < b := by
  have hb : 0 < b := Nat.pos_of_ne_zero (by rintro rfl; simp at hs)
  have hmod : s % b < b := Nat.mod_lt s hb
  have hdiv : s / b < b := Nat.div_lt_of_lt_mul hs
  by_cases hcarry : fold b s < b
  · rw [fold_of_lt hcarry]
    exact hcarry
  · have hrest : fold b s - b < b := by
      unfold fold
      omega
    have hmod' : fold b s % b = fold b s - b := by
      rw [Nat.mod_eq_sub_mod (by omega), Nat.mod_eq_of_lt hrest]
    have hdiv' : fold b s / b = 1 := by
      rw [Nat.div_eq_of_lt_le]
      all_goals omega
    have hlast : fold b (fold b s) = fold b s - b + 1 := by
      rw [fold, hmod', hdiv']
    rw [hlast]
    unfold fold at hcarry ⊢
    omega

/-- A positive digit that is a multiple of `b - 1` is the largest one. -/
lemma eq_pred_iff {t : Nat} (ht : t < b) (hpos : 0 < t) : t = b - 1 ↔ b - 1 ∣ t := by
  constructor
  · rintro rfl
    exact dvd_refl _
  · intro hdvd
    have hle := Nat.le_of_dvd hpos hdvd
    omega

/-! ## The sum itself -/

/-- Digits that leave the same remainder are equal, if zero and the largest digit are kept apart. -/
lemma eq_of_modEq {x y : Nat} (hx : x < b) (hy : y < b) (hzero : x = 0 ↔ y = 0) (h : x ≡ y [MOD b - 1]) : x = y := by
  by_cases hx0 : x = 0
  · rw [hx0, hzero.mp hx0]
  · have hy0 : y ≠ 0 := fun hy0 => hx0 (hzero.mpr hy0)
    have hpred : x - 1 ≡ y - 1 [MOD b - 1] := by
      refine Nat.ModEq.add_right_cancel' 1 ?_
      rw [Nat.sub_add_cancel (by omega), Nat.sub_add_cancel (by omega)]
      exact h
    have hsub := Nat.ModEq.eq_of_lt_of_lt hpred (by omega) (by omega)
    omega

/-- The sum of two digits with the end-around carry. -/
def addCarry (b x y : Nat) : Nat := if x + y < b then x + y else x + y - (b - 1)

/-- The ones' complement sum of some digits. -/
def sum (b : Nat) (digits : List Nat) : Nat := digits.foldl (addCarry b) 0

lemma addCarry_lt {x y : Nat} (hx : x < b) (hy : y < b) : addCarry b x y < b := by
  unfold addCarry
  split_ifs
  · assumption
  · omega

lemma addCarry_eq_zero_iff {x y : Nat} (hy : y < b) : addCarry b x y = 0 ↔ x + y = 0 := by
  unfold addCarry
  split_ifs
  · exact Iff.rfl
  · omega

lemma addCarry_modEq {x y : Nat} (hb : 0 < b) : addCarry b x y ≡ x + y [MOD b - 1] := by
  unfold addCarry
  split_ifs
  · exact Nat.ModEq.rfl
  · calc x + y - (b - 1) ≡ x + y - (b - 1) + (b - 1) [MOD b - 1] := (Nat.add_modEq_right).symm
      _ = x + y := Nat.sub_add_cancel (by omega)

lemma foldl_addCarry {digits : List Nat} (hdigits : ∀ d ∈ digits, d < b) {x : Nat} (hx : x < b) :
    digits.foldl (addCarry b) x < b ∧ (digits.foldl (addCarry b) x = 0 ↔ x + digits.sum = 0) ∧
      digits.foldl (addCarry b) x ≡ x + digits.sum [MOD b - 1] := by
  induction digits generalizing x with
  | nil => exact ⟨hx, by simp, by simp [Nat.ModEq.rfl]⟩
  | cons d digits ih =>
    have hd : d < b := hdigits d List.mem_cons_self
    obtain ⟨hlt, hzero, hmod⟩ := ih (fun e he => hdigits e (List.mem_cons_of_mem _ he))
      (addCarry_lt hx hd)
    have hadd : addCarry b x d ≡ x + d [MOD b - 1] := addCarry_modEq (Nat.zero_lt_of_lt hx)
    refine ⟨hlt, ?_, ?_⟩
    · have hfirst : addCarry b x d = 0 ↔ x + d = 0 := addCarry_eq_zero_iff hd
      rw [List.foldl_cons, hzero, List.sum_cons]
      omega
    · rw [List.foldl_cons, List.sum_cons, ← Nat.add_assoc]
      exact hmod.trans (hadd.add_right _)

/-- **Adding first and folding the carries later.**  Two folds of a plain sum are the ones' complement sum. -/
theorem fold_fold_eq_sum {digits : List Nat} (hdigits : ∀ d ∈ digits, d < b) (hsum : digits.sum < b * b) :
    fold b (fold b digits.sum) = sum b digits := by
  have hb : 0 < b := Nat.pos_of_ne_zero (by rintro rfl; simp at hsum)
  obtain ⟨hlt, hzero, hmod⟩ := foldl_addCarry hdigits hb
  rw [Nat.zero_add] at hzero hmod
  refine eq_of_modEq (fold_fold_lt hsum) hlt ?_ ?_
  · rw [sum, hzero]
    constructor
    · intro h
      by_contra hne
      have hpos : 0 < fold b (fold b digits.sum) := fold_pos (fold_pos (Nat.pos_of_ne_zero hne))
      omega
    · intro h
      rw [h, fold_of_lt hb, fold_of_lt hb]
  · exact ((fold_modEq hb _).trans (fold_modEq hb _)).trans hmod.symm

end AAAos.OnesComplement
