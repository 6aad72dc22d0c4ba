import Mathlib.Data.Nat.Bitwise
import Mathlib.Data.UInt

/-!
# Kernel words

`kernel/include/types.h`: the alignment macros on 64-bit words, and what they compute as
numbers.  `size_t`, `physaddr_t` and `virtaddr_t` are all unsigned 64-bit, so addition wraps;
the masks are the two's complement of a power of two, and clearing the low bits is rounding
down.
-/

namespace AAAos

/-- `PAGE_SIZE`. -/
def pageSize : Nat := 4096

/-- `ALIGN_UP(x, align)`. -/
def alignUp (x align : UInt64) : UInt64 := (x + (align - 1)) &&& ~~~(align - 1)

/-- `ALIGN_DOWN(x, align)`. -/
def alignDown (x align : UInt64) : UInt64 := x &&& ~~~(align - 1)

/-- `IS_ALIGNED(x, align)`. -/
def isAligned (x align : UInt64) : Bool := (x &&& (align - 1)) == 0

/-- The value of an `int` expression: it wraps around. -/
def wrapInt (x : Int) : Int := x.bmod (2 ^ 32)

/-- `MAX(x, c)` is the maximum. -/
lemma toNat_ite_lt (x c : UInt64) : (if c < x then x else c).toNat = max x.toNat c.toNat := by
  split_ifs with hlt
  · exact (max_eq_left (UInt64.lt_iff_toNat_lt.mp hlt).le).symm
  · exact (max_eq_right (not_lt.mp fun h => hlt (UInt64.lt_iff_toNat_lt.mpr h))).symm

/-- Clearing the low `k` bits of a word rounds it down to a multiple of `2 ^ k`. -/
lemma toNat_and_not_mask (x m : UInt64) (k : Nat) (hk : k ≤ 64) (hm : m.toNat = 2 ^ k - 1) :
    (x &&& ~~~m).toNat = x.toNat / 2 ^ k * 2 ^ k := by
  have hx : x.toNat < 2 ^ 64 := x.toNat_lt
  have hpow : 2 ^ 64 = 2 ^ (64 - k) * 2 ^ k := by
    rw [← Nat.pow_add]
    congr 1
    omega
  have hcompl : (~~~m).toNat = (2 ^ (64 - k) - 1) * 2 ^ k := by
    have hpos : 0 < 2 ^ k := Nat.two_pow_pos k
    rw [UInt64.toNat_not, hm, show UInt64.size = 2 ^ 64 from rfl, hpow, Nat.sub_mul]
    omega
  rw [UInt64.toNat_and, hcompl]
  refine Nat.eq_of_testBit_eq fun i => ?_
  rw [Nat.testBit_and, Nat.testBit_mul_two_pow, Nat.testBit_mul_two_pow,
    Nat.testBit_div_two_pow, Nat.testBit_two_pow_sub_one]
  by_cases hik : k ≤ i
  · have hsub : i - k + k = i := by omega
    rw [hsub]
    by_cases hi : i < 64
    · simp [hik, show i - k < 64 - k by omega]
    · have hhigh : x.toNat.testBit i = false :=
        Nat.testBit_eq_false_of_lt (lt_of_lt_of_le hx (Nat.pow_le_pow_right (by omega) (by omega)))
      simp [hhigh]
  · simp [hik]

/-- Keeping the low `k` bits is the remainder modulo `2 ^ k`. -/
lemma toNat_and_mask (x m : UInt64) (k : Nat) (hm : m.toNat = 2 ^ k - 1) : (x &&& m).toNat = x.toNat % 2 ^ k := by
  rw [UInt64.toNat_and, hm, Nat.and_two_pow_sub_one_eq_mod]

lemma toNat_alignDown_page (x : UInt64) : (alignDown x 4096).toNat = x.toNat / 4096 * 4096 :=
  toNat_and_not_mask x (4096 - 1) 12 (by omega) (by decide)

lemma toNat_alignUp_page (x : UInt64) : (alignUp x 4096).toNat = (x + (4096 - 1)).toNat / 4096 * 4096 :=
  toNat_and_not_mask (x + (4096 - 1)) (4096 - 1) 12 (by omega) (by decide)

lemma toNat_alignUp_16 (x : UInt64) : (alignUp x 16).toNat = (x + (16 - 1)).toNat / 16 * 16 :=
  toNat_and_not_mask (x + (16 - 1)) (16 - 1) 4 (by omega) (by decide)

lemma isAligned_page (x : UInt64) : isAligned x 4096 = true ↔ x.toNat % 4096 = 0 := by
  rw [isAligned, beq_iff_eq, ← UInt64.toNat_inj, toNat_and_mask x (4096 - 1) 12 (by decide)]
  rfl

lemma toNat_shiftRight_page (x : UInt64) : (x >>> 12).toNat = x.toNat / 4096 := by
  rw [UInt64.toNat_shiftRight]
  exact Nat.shiftRight_eq_div_pow x.toNat 12

end AAAos
