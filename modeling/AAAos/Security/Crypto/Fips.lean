import AAAos.Security.Auth.Password
import Mathlib.Algebra.Group.Nat.Defs

/-!
# The standard's SHA-256

FIPS 180-4, section by section: the functions and constants (4), the padding and the blocks (5), the
initial hash value and the computation of the hash (5.3 and 6.2).  It is written down here from the
standard, on bytes, to compare the two implementations with.

**What is proved.**  `sha256_transform` is the standard's computation on a block (`transform_eq`), and
a message that was taken in block by block (`Absorbed`) has its digest once the padding is taken in as
well (`Absorbed.digest`).
-/

namespace AAAos

namespace Fips

open Sha256 (Words)

/-! ## Functions and constants -/

/-- `ROTR`. -/
def rotateRight (n x : UInt32) : UInt32 := (x >>> n) ||| (x <<< (32 - n))

/-- `Ch`. -/
def choose (x y z : UInt32) : UInt32 := (x &&& y) ^^^ (~~~x &&& z)

/-- `Maj`. -/
def majority (x y z : UInt32) : UInt32 := (x &&& y) ^^^ (x &&& z) ^^^ (y &&& z)

/-- The two functions with a capital sigma. -/
def capitalSigma0 (x : UInt32) : UInt32 := rotateRight 2 x ^^^ rotateRight 13 x ^^^ rotateRight 22 x
def capitalSigma1 (x : UInt32) : UInt32 := rotateRight 6 x ^^^ rotateRight 11 x ^^^ rotateRight 25 x

/-- The two functions with a small sigma. -/
def smallSigma0 (x : UInt32) : UInt32 := rotateRight 7 x ^^^ rotateRight 18 x ^^^ (x >>> 3)
def smallSigma1 (x : UInt32) : UInt32 := rotateRight 17 x ^^^ rotateRight 19 x ^^^ (x >>> 10)

/-- The first 64 primes. -/
def primes : List Nat :=
  [2, 3, 5, 7, 11, 13, 17, 19, 23, 29, 31, 37, 41, 43, 47, 53, 59, 61, 67, 71, 73, 79, 83, 89, 97, 101,
    103, 107, 109, 113, 127, 131, 137, 139, 149, 151, 157, 163, 167, 173, 179, 181, 191, 193, 197, 199,
    211, 223, 227, 229, 233, 239, 241, 251, 257, 263, 269, 271, 277, 281, 283, 293, 307, 311]

/-- The constants `K`. -/
def constants : List UInt32 :=
  [0x428a2f98, 0x71374491, 0xb5c0fbcf, 0xe9b5dba5, 0x3956c25b, 0x59f111f1, 0x923f82a4, 0xab1c5ed5,
    0xd807aa98, 0x12835b01, 0x243185be, 0x550c7dc3, 0x72be5d74, 0x80deb1fe, 0x9bdc06a7, 0xc19bf174,
    0xe49b69c1, 0xefbe4786, 0x0fc19dc6, 0x240ca1cc, 0x2de92c6f, 0x4a7484aa, 0x5cb0a9dc, 0x76f988da,
    0x983e5152, 0xa831c66d, 0xb00327c8, 0xbf597fc7, 0xc6e00bf3, 0xd5a79147, 0x06ca6351, 0x14292967,
    0x27b70a85, 0x2e1b2138, 0x4d2c6dfc, 0x53380d13, 0x650a7354, 0x766a0abb, 0x81c2c92e, 0x92722c85,
    0xa2bfe8a1, 0xa81a664b, 0xc24b8b70, 0xc76c51a3, 0xd192e819, 0xd6990624, 0xf40e3585, 0x106aa070,
    0x19a4c116, 0x1e376c08, 0x2748774c, 0x34b0bcb5, 0x391c0cb3, 0x4ed8aa4a, 0x5b9cca4f, 0x682e6ff3,
    0x748f82ee, 0x78a5636f, 0x84c87814, 0x8cc70208, 0x90befffa, 0xa4506ceb, 0xbef9a3f7, 0xc67178f2]

/-- The initial hash value. -/
def initial : Words :=
  ⟨0x6a09e667, 0xbb67ae85, 0x3c6ef372, 0xa54ff53a, 0x510e527f, 0x9b05688c, 0x1f83d9ab, 0x5be0cd19⟩

def wordList (h : Words) : List UInt32 := [h.a, h.b, h.c, h.d, h.e, h.f, h.g, h.h]

/-- The word `x` is the first 32 bits of the fractional part of the `d`-th root of `p`, whose integer part
is below twenty. -/
def isFraction (d p : Nat) (x : UInt32) : Bool :=
  (List.range 20).any fun n =>
    decide ((n * 2 ^ 32 + x.toNat) ^ d ≤ p * 2 ^ (32 * d) ∧ p * 2 ^ (32 * d) < (n * 2 ^ 32 + x.toNat + 1) ^ d)

/-- The constants are the standard's: fractions of the cube roots and the square roots of the first
primes. -/
lemma constants_are_fractions : (primes.zip constants).all (fun x => isFraction 3 x.1 x.2) = true ∧
      (primes.zip (wordList initial)).all (fun x => isFraction 2 x.1 x.2) = true := by
  decide

/-! ## One block -/

/-- A word of a block, the highest byte first. -/
def word (block : List UInt8) (i : Nat) : UInt32 :=
  UInt32.ofNat ((((block.getD (i * 4) 0).toNat * 2 ^ 8 + (block.getD (i * 4 + 1) 0).toNat) * 2 ^ 8 +
    (block.getD (i * 4 + 2) 0).toNat) * 2 ^ 8 + (block.getD (i * 4 + 3) 0).toNat)

/-- The message schedule. -/
def schedule (block : List UInt8) (t : Nat) : UInt32 :=
  if t < 16 then word block t
  else smallSigma1 (schedule block (t - 2)) + schedule block (t - 7) + smallSigma0 (schedule block (t - 15)) +
    schedule block (t - 16)
termination_by t

/-- One step of the computation on a block. -/
def step (s : Words) (k w : UInt32) : Words :=
  let t1 := s.h + capitalSigma1 s.e + choose s.e s.f s.g + k + w
  let t2 := capitalSigma0 s.a + majority s.a s.b s.c
  ⟨t1 + t2, s.a, s.b, s.c, s.d + t1, s.e, s.f, s.g⟩

/-- The intermediate hash value after a block. -/
def compress (h : Words) (block : List UInt8) : Words :=
  let s := (List.range 64).foldl (fun s t => step s (constants.getD t 0) (schedule block t)) h
  ⟨h.a + s.a, h.b + s.b, h.c + s.c, h.d + s.d, h.e + s.e, h.f + s.f, h.g + s.g, h.h + s.h⟩

/-! ## Messages -/

/-- A number in eight bytes, the highest first. -/
def bigEndian (n : Nat) : List UInt8 := (List.range 8).map fun i => UInt8.ofNat (n / 256 ^ (7 - i))

/-- What is appended to a message of `n` bytes: a bit, as many zeros as make the length congruent to 448
modulo 512 bits, and the length in bits. -/
def padding (n : Nat) : List UInt8 :=
  0x80 :: List.replicate ((119 - n % 64) % 64) 0 ++ bigEndian (8 * n)

/-- The blocks of 64 bytes. -/
def blocks (m : List UInt8) : List (List UInt8) :=
  (List.range (m.length / 64)).map fun i => (m.drop (64 * i)).take 64

/-- The hash value in bytes. -/
def output (h : Words) : List UInt8 :=
  (wordList h).flatMap fun x =>
    [UInt8.ofNat (x.toNat / 256 ^ 3), UInt8.ofNat (x.toNat / 256 ^ 2), UInt8.ofNat (x.toNat / 256), UInt8.ofNat x.toNat]

/-- **SHA-256.** -/
def digest (m : List UInt8) : List UInt8 :=
  output ((blocks (m ++ padding m.length)).foldl compress initial)

/-! ## The transformation -/

lemma toNat_shifted (x : UInt8) {n : UInt32} (hn : n.toNat ≤ 24) :
    (x.toUInt32 <<< n).toNat = x.toNat <<< n.toNat := by
  have hx := x.toNat_lt
  have hpow : 2 ^ n.toNat ≤ 2 ^ 24 := Nat.pow_le_pow_right (by decide) hn
  rw [UInt32.toNat_shiftLeft, UInt8.toNat_toUInt32, Nat.mod_eq_of_lt (show n.toNat < 32 by omega),
    Nat.shiftLeft_eq, Nat.mod_eq_of_lt]
  calc x.toNat * 2 ^ n.toNat < 2 ^ 8 * 2 ^ n.toNat := Nat.mul_lt_mul_of_pos_right hx (Nat.two_pow_pos _)
    _ ≤ 2 ^ 8 * 2 ^ 24 := Nat.mul_le_mul_left _ hpow

lemma word_eq (block : List UInt8) (i : Nat) : Sha256.blockWord block i = word block i := by
  have hshift : ∀ (x b : Nat), b < 2 ^ 8 → x * 2 ^ 8 + b = x <<< 8 ||| b := fun x b hb => by
    rw [Nat.shiftLeft_eq, Nat.mul_comm, ← Nat.two_pow_add_eq_or_of_lt hb]
  unfold Sha256.blockWord word
  generalize block.getD (i * 4) 0 = a
  generalize block.getD (i * 4 + 1) 0 = b
  generalize block.getD (i * 4 + 2) 0 = c
  generalize block.getD (i * 4 + 3) 0 = d
  have ha := a.toNat_lt
  have hb := b.toNat_lt
  have hc := c.toNat_lt
  have hd := d.toNat_lt
  have hbound : ((a.toNat * 2 ^ 8 + b.toNat) * 2 ^ 8 + c.toNat) * 2 ^ 8 + d.toNat < 2 ^ 32 := by omega
  rw [← UInt32.toNat_inj, UInt32.toNat_ofNat', Nat.mod_eq_of_lt hbound, hshift _ _ hb, hshift _ _ hc, hshift _ _ hd,
    UInt32.toNat_or, UInt32.toNat_or, UInt32.toNat_or, toNat_shifted a (by decide), toNat_shifted b (by decide),
    toNat_shifted c (by decide), UInt8.toNat_toUInt32, Nat.shiftLeft_or_distrib, Nat.shiftLeft_or_distrib,
    Nat.shiftLeft_or_distrib, ← Nat.shiftLeft_add, ← Nat.shiftLeft_add, ← Nat.shiftLeft_add]
  rfl

lemma schedule_eq (block : List UInt8) (n i : Nat) (hi : 16 ≤ i) :
    Sha256.schedule n i ((List.range i).map (schedule block)) = (List.range (i + n)).map (schedule block) := by
  have hget : ∀ j, j < i → ((List.range i).map (schedule block)).getD j 0 = schedule block j := fun j hj => by
    rw [List.getD_eq_getElem?_getD, List.getElem?_map, List.getElem?_range hj]
    rfl
  induction n generalizing i with
  | zero => rfl
  | succ n ih =>
    have hnext : schedule block i = Sha256.gam1 (schedule block (i - 2)) + schedule block (i - 7) +
        Sha256.gam0 (schedule block (i - 15)) + schedule block (i - 16) := by
      rw [schedule, if_neg (by omega)]
      rfl
    rw [Sha256.schedule, hget _ (by omega), hget _ (by omega), hget _ (by omega), hget _ (by omega), ← hnext,
      ← List.map_singleton, ← List.map_append, ← List.range_succ,
      ih (i + 1) (by omega) fun j hj => by
        rw [List.getD_eq_getElem?_getD, List.getElem?_map, List.getElem?_range hj]
        rfl]
    rw [Nat.add_assoc, Nat.add_comm 1]

/-- **A block** is taken in as the standard says. -/
theorem transform_eq (h : Words) (block : List UInt8) : Sha256.transform h block = compress h block := by
  have hfirst : (List.range 16).map (Sha256.blockWord block) = (List.range 16).map (schedule block) := by
    refine List.map_congr_left fun t ht => ?_
    rw [schedule, if_pos (List.mem_range.mp ht), word_eq]
  have hk : Sha256.k = (List.range 64).map fun t => constants.getD t 0 := by decide
  have hrounds : (Sha256.k.zip (Sha256.schedule 48 16 ((List.range 16).map (Sha256.blockWord block)))).foldl
      Sha256.round h = (List.range 64).foldl (fun s t => step s (constants.getD t 0) (schedule block t)) h := by
    rw [hfirst, schedule_eq block 48 16 (Nat.le_refl 16), hk, List.zip_map', List.foldl_map]
    rfl
  unfold Sha256.transform compress
  dsimp only
  rw [hrounds]

/-! ## Taking in a message -/

variable {h : Words} {rest m p : List UInt8}

lemma blocks_flatten {bs : List (List UInt8)} (hbs : ∀ b ∈ bs, b.length = 64) : blocks bs.flatten = bs := by
  induction bs with
  | nil => rfl
  | cons b bs ih =>
    have hb := hbs b List.mem_cons_self
    have hlen : (b ++ bs.flatten).length / 64 = bs.flatten.length / 64 + 1 := by
      rw [List.length_append, hb]
      omega
    have hrest := ih fun c hc => hbs c (List.mem_cons_of_mem b hc)
    unfold blocks at hrest ⊢
    rw [List.flatten_cons, hlen, List.range_succ_eq_map, List.map_cons, List.map_map]
    refine congrArg₂ List.cons ?_ (Eq.trans (List.map_congr_left fun i _ => ?_) hrest)
    · rw [Nat.mul_zero, List.drop_zero, List.take_left' hb]
    · change ((b ++ bs.flatten).drop (64 * (i + 1))).take 64 = _
      rw [Nat.mul_succ, Nat.add_comm, ← List.drop_drop, List.drop_left' hb]

/-- The message is blocks that were taken in, and less than a block. -/
structure Absorbed (h : Words) (rest m : List UInt8) : Prop where
  short : rest.length < 64
  split : ∃ bs : List (List UInt8), (∀ b ∈ bs, b.length = 64) ∧ m = bs.flatten ++ rest ∧ h = bs.foldl compress initial

lemma absorbed_nil : Absorbed initial [] [] := ⟨by decide, [], by simp, rfl, rfl⟩

lemma Absorbed.push (ha : Absorbed h rest m) (hp : (rest ++ p).length < 64) : Absorbed h (rest ++ p) (m ++ p) := by
  obtain ⟨bs, hbs, rfl, hh⟩ := ha.split
  exact ⟨hp, bs, hbs, List.append_assoc _ _ _, hh⟩

lemma Absorbed.block (ha : Absorbed h rest m) (hp : (rest ++ p).length = 64) :
    Absorbed (compress h (rest ++ p)) [] (m ++ p) := by
  obtain ⟨bs, hbs, rfl, hh⟩ := ha.split
  refine ⟨by decide, bs ++ [rest ++ p], fun b hb => ?_, by simp, by rw [List.foldl_append, ← hh]; rfl⟩
  rcases List.mem_append.mp hb with hb | hb
  · exact hbs b hb
  · rw [List.mem_singleton.mp hb, hp]

lemma Absorbed.length_rest (ha : Absorbed h rest m) : rest.length = m.length % 64 := by
  obtain ⟨bs, hbs, rfl, -⟩ := ha.split
  have hsum : bs.flatten.length = 64 * bs.length := by
    clear ha
    induction bs with
    | nil => rfl
    | cons b bs ih =>
      rw [List.flatten_cons, List.length_append, hbs b List.mem_cons_self,
        ih fun c hc => hbs c (List.mem_cons_of_mem b hc), List.length_cons]
      omega
  have hshort := ha.short
  rw [List.length_append, hsum]
  omega

/-- **Once the padding is taken in**, the hash value is that of the message. -/
theorem Absorbed.digest (ha : Absorbed h [] (m ++ padding m.length)) : output h = Fips.digest m := by
  obtain ⟨bs, hbs, hm, hh⟩ := ha.split
  unfold Fips.digest
  rw [hm, List.append_nil, blocks_flatten hbs, hh]

lemma padding_short (ha : Absorbed h rest m) (hrest : rest.length < 56) :
    padding m.length = 0x80 :: List.replicate (55 - rest.length) 0 ++ bigEndian (8 * m.length) := by
  have hlen := ha.length_rest
  rw [padding, show (119 - m.length % 64) % 64 = 55 - rest.length by omega]

lemma padding_long (ha : Absorbed h rest m) (hrest : ¬ rest.length < 56) :
    padding m.length = (0x80 :: List.replicate (63 - rest.length) 0) ++
      (List.replicate 56 0 ++ bigEndian (8 * m.length)) := by
  have hlen := ha.length_rest
  rw [padding, show (119 - m.length % 64) % 64 = (63 - rest.length) + 56 by omega, ← List.replicate_append_replicate]
  simp

@[simp] lemma length_bigEndian (n : Nat) : (bigEndian n).length = 8 := by simp [bigEndian]

lemma output_eq (h : Words) : [h.a, h.b, h.c, h.d, h.e, h.f, h.g, h.h].flatMap Sha256.wordBytesBe = output h := by
  have hbyte : ∀ (x n : UInt32), (x >>> n).toUInt8 = UInt8.ofNat (x.toNat / 2 ^ (n.toNat % 32)) := fun x n => by
    rw [← UInt8.toNat_inj, UInt32.toNat_toUInt8, UInt32.toNat_shiftRight, Nat.shiftRight_eq_div_pow, UInt8.toNat_ofNat']
  have hlast : ∀ x : UInt32, x.toUInt8 = UInt8.ofNat x.toNat := fun x => by
    rw [← UInt8.toNat_inj, UInt32.toNat_toUInt8, UInt8.toNat_ofNat']
  refine List.flatMap_congr fun x _ => ?_
  rw [Sha256.wordBytesBe, hbyte, hbyte, hbyte, hlast]
  rfl

lemma lengthBytes_eq (n : Nat) : Sha256.lengthBytes (UInt64.ofNat n) = bigEndian n := by
  have hbyte : ∀ k : UInt64, k.toNat ≤ 56 →
      (UInt64.ofNat n >>> k).toUInt8 = UInt8.ofNat (n / 2 ^ k.toNat) := fun k hk => by
    have hsplit : (2 : Nat) ^ 64 = 2 ^ k.toNat * (2 ^ 8 * 2 ^ (56 - k.toNat)) := by
      rw [← Nat.pow_add, ← Nat.pow_add]
      congr 1
      omega
    rw [← UInt8.toNat_inj, UInt64.toNat_toUInt8, UInt64.toNat_shiftRight, Nat.shiftRight_eq_div_pow, UInt8.toNat_ofNat',
      UInt64.toNat_ofNat', Nat.mod_eq_of_lt (show k.toNat < 64 by omega), hsplit, Nat.mod_mul_right_div_self,
      Nat.mod_mul_right_mod]
  have hlast : (UInt64.ofNat n).toUInt8 = UInt8.ofNat n := by
    rw [← UInt8.toNat_inj, UInt64.toNat_toUInt8, UInt8.toNat_ofNat', UInt64.toNat_ofNat',
      Nat.mod_mod_of_dvd n (show 2 ^ 8 ∣ 2 ^ 64 by decide)]
  rw [Sha256.lengthBytes, hbyte 56 (by decide), hbyte 48 (by decide), hbyte 40 (by decide), hbyte 32 (by decide),
    hbyte 24 (by decide), hbyte 16 (by decide), hbyte 8 (by decide), hlast]
  simp [bigEndian, List.range_succ]

end Fips

end AAAos
