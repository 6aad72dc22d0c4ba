import Mathlib.Logic.Function.Basic
import Mathlib.Algebra.Group.Nat.Defs
import Mathlib.Data.UInt

/-!
# Byte memory

A memory is a function from addresses to bytes.  Machine words are little endian: `readLE` and
`writeLE` move `n` bytes, and two accesses either do not overlap (`readLE_writeLE_apart`) or are
the same one (`readLE_writeLE_self`).  `fillBytes` and `copyBytes` are the byte loops that C
programs write for `memset` and `memcpy`; `slice` and `paste` move a whole block between a
memory and a buffer.
-/

namespace AAAos

/-- A byte at every address. -/
abbrev Mem := Nat → UInt8

/-- The little-endian number in the `n` bytes at `a`. -/
def readLE (m : Mem) (a : Nat) : Nat → Nat
  | 0 => 0
  | n + 1 => (m a).toNat + 256 * readLE m (a + 1) n

/-- Store the low `n` bytes of `v` at `a`. -/
def writeLE (m : Mem) (a : Nat) : Nat → Nat → Mem
  | 0, _ => m
  | n + 1, v => writeLE (Function.update m a (UInt8.ofNat v)) (a + 1) n (v / 256)

/-- Store `n` copies of a byte at `a`. -/
def fillBytes (m : Mem) (a : Nat) (v : UInt8) : Nat → Mem
  | 0 => m
  | n + 1 => fillBytes (Function.update m a v) (a + 1) v n

/-- Copy `n` bytes upwards from `s` to `d`, one at a time. -/
def copyBytes (m : Mem) (d s : Nat) : Nat → Mem
  | 0 => m
  | n + 1 => copyBytes (Function.update m d (m s)) (d + 1) (s + 1) n

/-- The `n` bytes at `a` as a buffer of their own, zero past its end. -/
def slice (m : Mem) (a n : Nat) : Mem := fun j => if j < n then m (a + j) else 0

/-- Store the first `n` bytes of a buffer at `a`. -/
def paste (m : Mem) (a n : Nat) (src : Mem) : Mem :=
  fun x => if a ≤ x ∧ x < a + n then src (x - a) else m x

lemma readLE_succ (m : Mem) (a n : Nat) : readLE m a (n + 1) = (m a).toNat + 256 * readLE m (a + 1) n := rfl

lemma writeLE_outside {m : Mem} {a n v x : Nat} (h : x < a ∨ a + n ≤ x) : writeLE m a n v x = m x := by
  induction n generalizing m a v with
  | zero => rfl
  | succ n ih =>
    rw [writeLE, ih (by omega), Function.update_of_ne (by omega)]

lemma fillBytes_outside {m : Mem} {a n x : Nat} {v : UInt8} (h : x < a ∨ a + n ≤ x) : fillBytes m a v n x = m x := by
  induction n generalizing m a with
  | zero => rfl
  | succ n ih =>
    rw [fillBytes, ih (by omega), Function.update_of_ne (by omega)]

lemma copyBytes_outside {m : Mem} {d s n x : Nat} (h : x < d ∨ d + n ≤ x) : copyBytes m d s n x = m x := by
  induction n generalizing m d s with
  | zero => rfl
  | succ n ih =>
    rw [copyBytes, ih (by omega), Function.update_of_ne (by omega)]

lemma copyBytes_apply {m : Mem} {d s n i : Nat} (h : d + n ≤ s ∨ s + n ≤ d) (hi : i < n) :
    copyBytes m d s n (d + i) = m (s + i) := by
  induction n generalizing m d s i with
  | zero => omega
  | succ n ih =>
    change copyBytes (Function.update m d (m s)) (d + 1) (s + 1) n _ = _
    cases i with
    | zero =>
      rw [copyBytes_outside (by omega)]
      exact Function.update_self _ _ _
    | succ i =>
      rw [show d + (i + 1) = d + 1 + i by omega, ih (by omega) (by omega),
        Function.update_of_ne (by omega), show s + 1 + i = s + (i + 1) by omega]

lemma readLE_congr {m m' : Mem} {a n : Nat} (h : ∀ x, a ≤ x → x < a + n → m' x = m x) :
    readLE m' a n = readLE m a n := by
  induction n generalizing a with
  | zero => rfl
  | succ n ih =>
    rw [readLE_succ, readLE_succ, h a (by omega) (by omega)]
    rw [ih fun x hlo hhi => h x (by omega) (by omega)]

lemma readLE_writeLE_apart {m : Mem} {a b n k v : Nat} (h : a + n ≤ b ∨ b + k ≤ a) :
    readLE (writeLE m b k v) a n = readLE m a n :=
  readLE_congr fun x _ _ => writeLE_outside (by omega)

lemma readLE_writeLE_self {m : Mem} {a n v : Nat} : readLE (writeLE m a n v) a n = v % 256 ^ n := by
  induction n generalizing m a v with
  | zero => simp [readLE, Nat.mod_one]
  | succ n ih =>
    rw [readLE_succ, writeLE, ih, writeLE_outside (by omega), Function.update_self,
      UInt8.toNat_ofNat', Nat.pow_succ 256, Nat.mul_comm (256 ^ n) 256, Nat.mod_mul]

lemma slice_eq_slice {m m' : Mem} {a a' n : Nat} (h : ∀ j < n, m (a + j) = m' (a' + j)) :
    slice m a n = slice m' a' n := by
  funext j
  unfold slice
  split_ifs with hj
  · exact h j hj
  · rfl

lemma slice_of_lt {m : Mem} {a n j : Nat} (h : j < n) : slice m a n j = m (a + j) := if_pos h

lemma slice_paste_self (m src : Mem) (a n : Nat) : slice (paste m a n src) a n = slice src 0 n :=
  slice_eq_slice fun j hj => by simp [paste, hj]

lemma paste_inside {m src : Mem} {a n x : Nat} (h : a ≤ x ∧ x < a + n) : paste m a n src x = src (x - a) := if_pos h

lemma paste_outside {m src : Mem} {a n x : Nat} (h : x < a ∨ a + n ≤ x) : paste m a n src x = m x := if_neg (by omega)

lemma slice_paste_apart {m src : Mem} {a b n k : Nat} (h : a + n ≤ b ∨ b + k ≤ a) :
    slice (paste m b k src) a n = slice m a n :=
  slice_eq_slice fun j hj => paste_outside (by omega)

lemma slice_slice (m : Mem) (a n : Nat) : slice (slice m a n) 0 n = slice m a n := by
  funext j
  by_cases hj : j < n
  · simp [slice, hj]
  · simp [slice, hj]

lemma readLE_lt (m : Mem) (a n : Nat) : readLE m a n < 256 ^ n := by
  induction n generalizing a with
  | zero => simp [readLE]
  | succ n ih =>
    have hbyte := (m a).toNat_lt
    have hrest := ih (a + 1)
    rw [readLE_succ, Nat.pow_succ 256]
    omega

end AAAos
