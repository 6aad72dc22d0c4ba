import Mathlib.Data.UInt
import Mathlib.Data.Nat.Bitwise
import Mathlib.Tactic.IntervalCases

/-!
# Byte order

`net/ethernet/ethernet.h`: the conversions between the order of the network and that of the machine,
which is little endian.  Each reverses the bytes of a word, so each is its own inverse.  Where a word
goes into a packet it is the list of its bytes in memory.
-/

namespace AAAos

/-- `htons`, and `ntohs`. -/
def htons (x : UInt16) : UInt16 := (x &&& 0xFF) <<< 8 ||| (x >>> 8) &&& 0xFF

/-- `htonl`, and `ntohl`. -/
def htonl (x : UInt32) : UInt32 :=
  (x &&& (0xFF : UInt32)) <<< (24 : UInt32) ||| (x &&& (0xFF00 : UInt32)) <<< (8 : UInt32) |||
    x >>> (8 : UInt32) &&& (0xFF00 : UInt32) ||| x >>> (24 : UInt32) &&& (0xFF : UInt32)

/-- The bytes of a half word in memory. -/
def halfBytes (x : UInt16) : List UInt8 := [x.toUInt8, (x >>> 8).toUInt8]

/-- The bytes of a word in memory. -/
def wordBytes (x : UInt32) : List UInt8 :=
  [x.toUInt8, (x >>> 8).toUInt8, (x >>> 16).toUInt8, (x >>> 24).toUInt8]

/-- A half word of a packet, as it lies in memory. -/
def load16 (packet : List UInt8) (i : Nat) : UInt16 :=
  (packet.getD i 0).toUInt16 + (packet.getD (i + 1) 0).toUInt16 <<< 8

/-- A word of a packet, as it lies in memory. -/
def loadWord (packet : List UInt8) (i : Nat) : UInt32 :=
  (load16 packet i).toUInt32 + (load16 packet (i + 2)).toUInt32 <<< 16

@[simp] lemma htons_htons (x : UInt16) : htons (htons x) = x := by
  refine UInt16.eq_of_toBitVec_eq ?_
  simp only [htons, UInt16.toBitVec_or, UInt16.toBitVec_and, UInt16.toBitVec_shiftLeft,
    UInt16.toBitVec_shiftRight, UInt16.toBitVec_ofNat]
  generalize x.toBitVec = b
  ext i hi
  interval_cases i <;> simp

lemma and_ff00 (n : Nat) : n &&& 0xFF00 = n / 256 % 256 * 256 := by
  have h : n &&& (0xFF <<< 8) = (n >>> 8 &&& 0xFF) <<< 8 := by
    refine Nat.eq_of_testBit_eq fun i => ?_
    rw [Nat.testBit_shiftLeft, Nat.testBit_and, Nat.testBit_and, Nat.testBit_shiftLeft, Nat.testBit_shiftRight]
    by_cases hi : 8 ≤ i
    · simp [hi, Nat.add_sub_cancel' hi]
    · simp [hi]
  rw [show (0xFF00 : Nat) = 0xFF <<< 8 from rfl, h, Nat.shiftLeft_eq, Nat.shiftRight_eq_div_pow,
    Nat.and_two_pow_sub_one_eq_mod _ 8]

lemma or_eq_add {a b : Nat} (k : Nat) (ha : 2 ^ k ∣ a) (hb : b < 2 ^ k) : a ||| b = a + b := by
  obtain ⟨m, rfl⟩ := ha
  exact (Nat.two_pow_add_eq_or_of_lt hb m).symm

/-- A word by its bytes. -/
def ofBytes (a b c d : Nat) : Nat := a + 2 ^ 8 * b + 2 ^ 16 * c + 2 ^ 24 * d

lemma exists_bytes (x : UInt32) : ∃ a b c d, a < 256 ∧ b < 256 ∧ c < 256 ∧ d < 256 ∧ x.toNat = ofBytes a b c d := by
  have hx := x.toNat_lt
  refine ⟨x.toNat % 256, x.toNat / 256 % 256, x.toNat / 2 ^ 16 % 256, x.toNat / 2 ^ 24, ?_⟩
  unfold ofBytes
  omega

lemma toNat_htonl {x : UInt32} {a b c d : Nat} (ha : a < 256) (hb : b < 256) (hc : c < 256)
    (hd : d < 256) (hx : x.toNat = ofBytes a b c d) : (htonl x).toNat = ofBytes d c b a := by
  unfold htonl
  simp only [UInt32.toNat_or, UInt32.toNat_and, UInt32.toNat_shiftLeft, UInt32.toNat_shiftRight,
    UInt32.reduceToNat, Nat.reduceMod]
  rw [Nat.and_two_pow_sub_one_eq_mod _ 8, Nat.and_two_pow_sub_one_eq_mod _ 8, and_ff00, and_ff00,
    Nat.shiftLeft_eq, Nat.shiftLeft_eq, Nat.shiftRight_eq_div_pow, Nat.shiftRight_eq_div_pow]
  unfold ofBytes at hx ⊢
  have h1 : x.toNat % 2 ^ 8 = a := by omega
  have h2 : x.toNat / 256 % 256 = b := by omega
  have h3 : x.toNat / 2 ^ 8 / 256 % 256 = c := by omega
  have h4 : x.toNat / 2 ^ 24 % 2 ^ 8 = d := by omega
  rw [h1, h2, h3, h4]
  have hlow : a * 2 ^ 24 % 2 ^ 32 = 2 ^ 24 * a := by
    rw [Nat.mod_eq_of_lt (by omega), Nat.mul_comm]
  have hnext : b * 256 * 2 ^ 8 % 2 ^ 32 = 2 ^ 16 * b := by
    rw [Nat.mod_eq_of_lt (by omega)]
    omega
  have hfirst : 2 ^ 24 * a ||| 2 ^ 16 * b = 2 ^ 24 * a + 2 ^ 16 * b :=
    or_eq_add 24 (Nat.dvd_mul_right _ a) (by omega)
  have hsecond : 2 ^ 24 * a + 2 ^ 16 * b ||| c * 256 = 2 ^ 24 * a + 2 ^ 16 * b + c * 256 :=
    or_eq_add 16 (by omega) (by omega)
  rw [hlow, hnext, hfirst, hsecond, or_eq_add 8 (by omega) (by omega)]
  omega

@[simp] lemma htonl_htonl (x : UInt32) : htonl (htonl x) = x := by
  obtain ⟨a, b, c, d, ha, hb, hc, hd, hx⟩ := exists_bytes x
  have hback := toNat_htonl hd hc hb ha (toNat_htonl ha hb hc hd hx)
  exact UInt32.toNat_inj.mp (hback.trans hx.symm)

@[simp] lemma htonl_eq_zero {x : UInt32} : htonl x = 0 ↔ x = 0 := by
  constructor
  · intro h
    rw [← htonl_htonl x, h]
    rfl
  · rintro rfl
    rfl

/-! ## What lies in a packet -/

lemma load16_drop (packet : List UInt8) (n i : Nat) : load16 (packet.drop n) i = load16 packet (n + i) := by
  simp only [load16, List.getD_eq_getElem?_getD, List.getElem?_drop, Nat.add_assoc]

lemma loadWord_drop (packet : List UInt8) (n i : Nat) : loadWord (packet.drop n) i = loadWord packet (n + i) := by
  simp only [loadWord, load16_drop, Nat.add_assoc]

lemma loadWord_wordBytes (x : UInt32) (l : List UInt8) : loadWord (wordBytes x ++ l) 0 = x := by
  obtain ⟨a, b, c, d, ha, hb, hc, hd, hx⟩ := exists_bytes x
  refine UInt32.toNat_inj.mp ?_
  simp only [loadWord, load16, wordBytes, List.cons_append, List.nil_append, List.getD_cons_zero,
    List.getD_cons_succ, UInt32.toNat_add, UInt32.toNat_shiftLeft, UInt16.toNat_toUInt32, UInt16.toNat_add,
    UInt16.toNat_shiftLeft, UInt8.toNat_toUInt16, UInt32.toNat_toUInt8, UInt32.toNat_shiftRight,
    Nat.shiftRight_eq_div_pow, Nat.shiftLeft_eq, hx, show (8 : UInt16).toNat % 16 = 8 from rfl,
    show (8 : UInt32).toNat % 32 = 8 from rfl, show (16 : UInt32).toNat % 32 = 16 from rfl,
    show (24 : UInt32).toNat % 32 = 24 from rfl]
  unfold ofBytes
  omega

end AAAos
