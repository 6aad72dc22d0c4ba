import AAAos.Lib.OnesComplement
import AAAos.Net.ByteOrder

/-!
# The Internet checksum

The loops that `udp_checksum` of `net/udp/udp.c` runs over the pseudo-header and over the packet.  The
words are added as they lie in memory, in 32 bits, and the carries are added at the end.

Modulo 65535 a half word counts as it is, and an address in the order of the network counts 256 times.
The complement of a sum that is a multiple of 65535 is 0, and that is what a receiver looks for.
-/

namespace AAAos

/-- The loop over the words, from `sum` on.  An odd byte counts as it is. -/
def sumWords : UInt32 → List UInt8 → UInt32
  | sum, a :: b :: rest => sumWords (sum + (a.toUInt32 + b.toUInt32 <<< 8)) rest
  | sum, [a] => sum + a.toUInt32
  | sum, [] => sum

/-- One round of folding the carries. -/
def foldRound (sum : UInt32) : UInt32 := (sum &&& (0xFFFF : UInt32)) + sum >>> (16 : UInt32)

/-- The loop that folds the carries: at most as many rounds. -/
def foldRounds : Nat → UInt32 → UInt32
  | 0, sum => sum
  | rounds + 1, sum => if sum >>> 16 = 0 then sum else foldRounds rounds (foldRound sum)

/-- The fold of a sum of 32 bits, which takes two rounds at most (`foldSum_lt`). -/
def foldSum (sum : UInt32) : UInt32 := foldRounds 2 sum

/-! ## The sum of the words -/

/-- The sum of the words, as a number. -/
def wordSum : List UInt8 → Nat
  | a :: b :: rest => a.toNat + 256 * b.toNat + wordSum rest
  | [a] => a.toNat
  | [] => 0

lemma wordSum_le (l : List UInt8) : 2 * wordSum l ≤ 65535 * (l.length + 1) := by
  fun_induction wordSum l with
  | case1 a b rest ih =>
    have ha := a.toNat_lt
    have hb := b.toNat_lt
    simp only [List.length_cons]
    omega
  | case2 a =>
    have ha := a.toNat_lt
    simp only [List.length_cons, List.length_nil]
    omega
  | case3 => exact Nat.zero_le _

lemma toNat_word (a b : UInt8) : (a.toUInt32 + b.toUInt32 <<< 8).toNat = a.toNat + 256 * b.toNat := by
  have ha := a.toNat_lt
  have hb := b.toNat_lt
  rw [UInt32.toNat_add, UInt32.toNat_shiftLeft, UInt8.toNat_toUInt32, UInt8.toNat_toUInt32,
    Nat.shiftLeft_eq, show (8 : UInt32).toNat % 32 = 8 from rfl]
  omega

lemma toNat_sumWords {sum : UInt32} {l : List UInt8} (h : sum.toNat + wordSum l < 2 ^ 32) :
    (sumWords sum l).toNat = sum.toNat + wordSum l := by
  fun_induction sumWords sum l with
  | case1 sum a b rest ih =>
    have hword := toNat_word a b
    simp only [wordSum] at h ⊢
    have hadd : (sum + (a.toUInt32 + b.toUInt32 <<< 8)).toNat = sum.toNat + (a.toNat + 256 * b.toNat) := by
      rw [UInt32.toNat_add, hword, Nat.mod_eq_of_lt (by omega)]
    rw [ih (by rw [hadd]; omega), hadd]
    omega
  | case2 sum a =>
    simp only [wordSum] at h ⊢
    rw [UInt32.toNat_add, UInt8.toNat_toUInt32, Nat.mod_eq_of_lt h]
  | case3 sum => rfl

lemma wordSum_halfBytes (x : UInt16) (l : List UInt8) : wordSum (halfBytes x ++ l) = x.toNat + wordSum l := by
  have hx := x.toNat_lt
  simp only [halfBytes, List.cons_append, List.nil_append, wordSum, UInt16.toNat_toUInt8,
    UInt16.toNat_shiftRight, Nat.shiftRight_eq_div_pow, show (8 : UInt16).toNat % 16 = 8 from rfl]
  omega

lemma wordSum_wordBytes_htonl (x : UInt32) (l : List UInt8) :
    wordSum (wordBytes (htonl x) ++ l) ≡ 256 * x.toNat + wordSum l [MOD 65535] := by
  obtain ⟨a, b, c, d, ha, hb, hc, hd, hx⟩ := exists_bytes x
  have hnet := toNat_htonl ha hb hc hd hx
  have hsum : wordSum (wordBytes (htonl x) ++ l) = d + 256 * c + (b + 256 * a) + wordSum l := by
    simp only [wordBytes, List.cons_append, List.nil_append, wordSum, UInt32.toNat_toUInt8,
      UInt32.toNat_shiftRight, Nat.shiftRight_eq_div_pow, hnet,
      show (8 : UInt32).toNat % 32 = 8 from rfl, show (16 : UInt32).toNat % 32 = 16 from rfl,
      show (24 : UInt32).toNat % 32 = 24 from rfl]
    unfold ofBytes
    omega
  rw [hsum, hx]
  unfold Nat.ModEq ofBytes
  omega

/-! ## The fold -/

lemma toNat_foldRound (sum : UInt32) : (foldRound sum).toNat = OnesComplement.fold (2 ^ 16) sum.toNat := by
  have hsum := sum.toNat_lt
  rw [foldRound, UInt32.toNat_add, UInt32.toNat_and, UInt32.toNat_shiftRight, Nat.shiftRight_eq_div_pow,
    show (16 : UInt32).toNat % 32 = 16 from rfl,
    show (0xFFFF : UInt32).toNat = 2 ^ 16 - 1 from rfl, Nat.and_two_pow_sub_one_eq_mod,
    OnesComplement.fold]
  omega

lemma shiftRight_eq_zero_iff (sum : UInt32) : sum >>> 16 = 0 ↔ sum.toNat < 2 ^ 16 := by
  rw [← UInt32.toNat_inj, UInt32.toNat_shiftRight, Nat.shiftRight_eq_div_pow,
    show (16 : UInt32).toNat % 32 = 16 from rfl, UInt32.toNat_zero]
  omega

lemma toNat_foldSum (sum : UInt32) : (foldSum sum).toNat =
    OnesComplement.fold (2 ^ 16) (OnesComplement.fold (2 ^ 16) sum.toNat) := by
  have hround : ∀ t : UInt32, (if t >>> 16 = 0 then t else foldRound t).toNat =
      OnesComplement.fold (2 ^ 16) t.toNat := by
    intro t
    by_cases ht : t >>> 16 = 0
    · rw [if_pos ht, OnesComplement.fold_of_lt ((shiftRight_eq_zero_iff t).mp ht)]
    · rw [if_neg ht, toNat_foldRound]
  unfold foldSum foldRounds foldRounds foldRounds
  by_cases hsum : sum >>> 16 = 0
  · have hlt := (shiftRight_eq_zero_iff sum).mp hsum
    rw [if_pos hsum, OnesComplement.fold_of_lt hlt, OnesComplement.fold_of_lt hlt]
  · rw [if_neg hsum, hround, toNat_foldRound]

lemma foldSum_lt (sum : UInt32) : (foldSum sum).toNat < 2 ^ 16 := by
  rw [toNat_foldSum]
  exact OnesComplement.fold_fold_lt sum.toNat_lt

lemma foldSum_pos {sum : UInt32} (h : 0 < sum.toNat) : 0 < (foldSum sum).toNat := by
  rw [toNat_foldSum]
  exact OnesComplement.fold_pos (OnesComplement.fold_pos h)

lemma foldSum_modEq (sum : UInt32) : (foldSum sum).toNat ≡ sum.toNat [MOD 65535] := by
  rw [toNat_foldSum]
  exact (OnesComplement.fold_modEq (by decide) _).trans (OnesComplement.fold_modEq (by decide) _)

/-! ## The complement -/

/-- What the loops return. -/
def complementSum (sum : UInt32) : UInt16 := ~~~ (foldSum sum).toUInt16

lemma toNat_complementSum (sum : UInt32) : (complementSum sum).toNat + (foldSum sum).toNat = 65535 := by
  have hlt := foldSum_lt sum
  rw [complementSum, UInt16.toNat_not, UInt32.toNat_toUInt16, Nat.mod_eq_of_lt hlt]
  change 65536 - 1 - (foldSum sum).toNat + (foldSum sum).toNat = 65535
  omega

/-- A checksum that is not 0xFFFF is 0 exactly if the sum is a multiple of 65535. -/
lemma complementSum_eq_zero_iff {sum : UInt32} (h : 0 < sum.toNat) : complementSum sum = 0 ↔ 65535 ∣ sum.toNat := by
  have hfold : (foldSum sum).toNat = 2 ^ 16 - 1 ↔ 65535 ∣ (foldSum sum).toNat :=
    OnesComplement.eq_pred_iff (foldSum_lt sum) (foldSum_pos h)
  rw [← (foldSum_modEq sum).dvd_iff (dvd_refl 65535), ← hfold, ← UInt16.toNat_inj, UInt16.toNat_zero]
  have hsum := toNat_complementSum sum
  omega

lemma complementSum_ne_ones {sum : UInt32} (h : 0 < sum.toNat) : complementSum sum ≠ 0xFFFF := by
  intro hones
  have hsum := toNat_complementSum sum
  rw [hones, show (0xFFFF : UInt16).toNat = 65535 from rfl] at hsum
  have hpos := foldSum_pos h
  omega

end AAAos
