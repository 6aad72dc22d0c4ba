import Mathlib.Data.List.Infix
import AAAos.Lib.CString
import AAAos.Lib.FirstHit
import AAAos.Lib.Memory

/-!
# Memory and string functions

`memmove`, `strncmp` and `strstr` of `lib/libc/string.c`.

`memmove` works on the one memory of the machine.  It goes upwards, or downwards where the destination begins inside of
the source.  The invariant of both loops is that the bytes that are still to be read are the old ones: a store that
goes upwards is below them, and one that goes downwards is above them (`memmove_overlapSafe`).

A string is given by what is in memory from its first byte to the end of the object it is in, and a pointer into it by
what is left of that.  Reading behind the end of the object has no result, so a function that has a result has stopped
at the NUL.  `strstr` tries the needle at every byte of the haystack in order, and the inner loop answers whether the
needle is a prefix of what is left (`strstrRun_eq`), so that the first hit is the smallest index (`strstr_exact`).
-/

namespace AAAos

/-! ## memmove -/

section Memmove

variable {m : Mem} {d s n i x : Nat}

/-- The loop of `memmove` that goes downwards, from the ends of both ranges. -/
def copyBytesDown (m : Mem) (d s : Nat) : Nat → Mem
  | 0 => m
  | n + 1 => copyBytesDown (Function.update m (d - 1) (m (s - 1))) (d - 1) (s - 1) n

/-- `memmove`, by what it returns and what it does. -/
def memmove (m : Mem) (dest src n : Nat) : Nat × Mem :=
  if n = 0 ∨ dest = src then (dest, m)
  else if dest < src ∨ src + n ≤ dest then (dest, copyBytes m dest src n)
  else (dest, copyBytesDown m (dest + n) (src + n) n)

/-- Going upwards, no byte is stored to before it is read, unless the destination begins inside of the source. -/
lemma copyBytes_up (h : d ≤ s ∨ s + n ≤ d) (hi : i < n) : copyBytes m d s n (d + i) = m (s + i) := by
  induction n generalizing m d s i with
  | zero => omega
  | succ n ih =>
    rw [copyBytes]
    cases i with
    | zero =>
      rw [copyBytes_outside (by omega)]
      exact Function.update_self _ _ _
    | succ i =>
      have hunread : s + 1 + i ≠ d := by omega
      rw [show d + (i + 1) = d + 1 + i by omega, ih (by omega) (by omega), Function.update_of_ne hunread,
        show s + 1 + i = s + (i + 1) by omega]

lemma copyBytesDown_outside (h : x < d ∨ d + n ≤ x) : copyBytesDown m (d + n) s n x = m x := by
  induction n generalizing m s with
  | zero => rfl
  | succ n ih =>
    rw [copyBytesDown, show d + (n + 1) - 1 = d + n by omega, ih (by omega)]
    exact Function.update_of_ne (by omega) _ _

/-- Going downwards, no byte is stored to before it is read, if the source does not begin inside of the destination. -/
lemma copyBytesDown_down (h : s ≤ d) (hi : i < n) : copyBytesDown m (d + n) (s + n) n (d + i) = m (s + i) := by
  induction n generalizing m with
  | zero => omega
  | succ n ih =>
    rw [copyBytesDown, show d + (n + 1) - 1 = d + n by omega, show s + (n + 1) - 1 = s + n by omega]
    by_cases hlast : i = n
    · subst hlast
      rw [copyBytesDown_outside (.inr le_rfl)]
      exact Function.update_self _ _ _
    · have hunread : s + i ≠ d + n := by omega
      rw [ih (by omega), Function.update_of_ne hunread]

/-- **`memmove` is safe for ranges that overlap.** -/
theorem memmove_overlapSafe (m : Mem) (dest src n : Nat) :
    (memmove m dest src n).1 = dest ∧
      (∀ i < n, (memmove m dest src n).2 (dest + i) = m (src + i)) ∧
      ∀ x, x < dest ∨ dest + n ≤ x → (memmove m dest src n).2 x = m x := by
  unfold memmove
  split_ifs with hnothing hup
  · refine ⟨rfl, fun i hi => ?_, fun x _ => rfl⟩
    obtain rfl | rfl := hnothing
    · omega
    · rfl
  · refine ⟨rfl, fun i hi => ?_, fun x hx => copyBytes_outside hx⟩
    exact copyBytes_up (by omega) hi
  · refine ⟨rfl, fun i hi => ?_, fun x hx => copyBytesDown_outside hx⟩
    exact copyBytesDown_down (by omega) hi

end Memmove

/-! ## Strings in memory -/

/-- `strlen`. -/
def strlen : List UInt8 → Option Nat
  | [] => none
  | c :: s => if c = 0 then some 0 else (strlen s).map (· + 1)

/-- The loop of `strncmp`. -/
def strncmpLoop : List UInt8 → List UInt8 → Nat → Option Int
  | c :: s1, d :: s2, n =>
    if 1 < n ∧ c ≠ 0 ∧ c = d then strncmpLoop s1 s2 (n - 1) else some ((c.toNat : Int) - d.toNat)
  | _, _, _ => none

/-- `strncmp`. -/
def strncmp (s1 s2 : List UInt8) (n : Nat) : Option Int := if n = 0 then some 0 else strncmpLoop s1 s2 n

/-- The inner loop of `strstr`: where `h` and `n` are behind it. -/
def strstrRun : List UInt8 → List UInt8 → Option (List UInt8 × List UInt8)
  | c :: h, d :: n => if c ≠ 0 ∧ d ≠ 0 ∧ c = d then strstrRun h n else some (c :: h, d :: n)
  | _, _ => none

/-- The outer loop of `strstr`, `i` bytes into the haystack. -/
def strstrLoop (needle : List UInt8) : List UInt8 → Nat → Option (Option Nat)
  | [], _ => none
  | c :: haystack, i =>
    if c = 0 then some none
    else do
      let (_, n) ← strstrRun (c :: haystack) needle
      if (← n.head?) = 0 then some (some i) else strstrLoop needle haystack (i + 1)

/-- `strstr`, with the index of the pointer it returns, and the inner `none` for `NULL`. -/
def strstr (haystack needle : List UInt8) : Option (Option Nat) := do
  if (← needle.head?) = 0 then some (some 0) else strstrLoop needle haystack 0

/-! ## What the loops answer -/

section Search

variable {h n t t' : List UInt8} {c : UInt8} {i j : Nat}

/-- `n` stands in `h` at index `i`. -/
def OccursAt (n h : List UInt8) (i : Nat) : Prop := ∃ pre post, h = pre ++ (n ++ post) ∧ pre.length = i

lemma occursAt_zero : OccursAt n h 0 ↔ n <+: h := by
  constructor
  · rintro ⟨pre, post, rfl, hlen⟩
    obtain rfl := List.length_eq_zero_iff.mp hlen
    exact List.prefix_append n post
  · rintro ⟨post, rfl⟩
    exact ⟨[], post, rfl, rfl⟩

lemma occursAt_succ : OccursAt n (c :: h) (i + 1) ↔ OccursAt n h i := by
  constructor
  · rintro ⟨_ | ⟨d, pre⟩, post, heq, hlen⟩
    · cases hlen
    · exact ⟨pre, post, (List.cons.inj heq).2, Nat.succ.inj hlen⟩
  · rintro ⟨pre, post, rfl, rfl⟩
    exact ⟨c :: pre, post, rfl, rfl⟩

lemma not_occursAt_nil (hn : n ≠ []) (i : Nat) : ¬ OccursAt n [] i := by
  rintro ⟨pre, post, heq, -⟩
  exact hn (List.append_eq_nil_iff.mp (List.append_eq_nil_iff.mp heq.symm).2).1

lemma strlen_append (hn : (0 : UInt8) ∉ n) : strlen (n ++ 0 :: t) = some n.length := by
  induction n with
  | nil => rfl
  | cons d n ih =>
    rw [List.mem_cons, not_or] at hn
    rw [List.cons_append, strlen, if_neg (Ne.symm hn.1), ih hn.2]
    rfl

/-- **The inner loop** is at the end of the needle if and only if the needle is a prefix of what is left. -/
lemma strstrRun_eq (hh : (0 : UInt8) ∉ h) (hn : (0 : UInt8) ∉ n) :
    ∃ h' d n', strstrRun (h ++ 0 :: t) (n ++ 0 :: t') = some (h', d :: n') ∧ (d = 0 ↔ n <+: h) := by
  induction h generalizing n with
  | nil =>
    cases n with
    | nil => exact ⟨_, _, _, if_neg (by simp), by simp⟩
    | cons d n =>
      refine ⟨_, _, _, if_neg (by simp), ?_⟩
      exact iff_of_false (fun h => hn (h ▸ List.mem_cons_self)) (by simp)
  | cons c h ih =>
    rw [List.mem_cons, not_or] at hh
    cases n with
    | nil => exact ⟨_, _, _, if_neg (by simp), by simp⟩
    | cons d n =>
      rw [List.mem_cons, not_or] at hn
      rw [List.cons_append, List.cons_append, strstrRun, List.cons_prefix_cons]
      by_cases hcd : c = d
      · rw [if_pos ⟨Ne.symm hh.1, Ne.symm hn.1, hcd⟩]
        obtain ⟨h', e, n', heq, hiff⟩ := ih hh.2 hn.2
        exact ⟨h', e, n', heq, hiff.trans ⟨fun hp => ⟨hcd.symm, hp⟩, And.right⟩⟩
      · rw [if_neg (fun hc => hcd hc.2.2)]
        refine ⟨_, _, _, rfl, iff_of_false (Ne.symm hn.1) fun hp => hcd hp.1.symm⟩

/-- **The outer loop** finds the smallest index. -/
lemma strstrLoop_eq (hh : (0 : UInt8) ∉ h) (hn : (0 : UInt8) ∉ n) (hne : n ≠ []) (i : Nat) :
    ∃ r, strstrLoop (n ++ 0 :: t') (h ++ 0 :: t) i = some (r.map (i + ·)) ∧ FirstIndex (OccursAt n h) r := by
  induction h generalizing i with
  | nil => exact ⟨none, if_pos rfl, firstIndex_none (not_occursAt_nil hne)⟩
  | cons c h ih =>
    have hc : c ≠ 0 := fun h => hh (h ▸ List.mem_cons_self)
    obtain ⟨h', d, n', hrun, hiff⟩ := @strstrRun_eq (c :: h) n t t' hh hn
    rw [List.cons_append] at hrun ⊢
    rw [strstrLoop, if_neg hc, hrun]
    by_cases hd : d = 0
    · refine ⟨some 0, ?_, firstIndex_zero (occursAt_zero.mpr (hiff.mp hd))⟩
      simp [hd]
    · obtain ⟨r, hloop, hleast⟩ := ih (fun hmem => hh (List.mem_cons_of_mem c hmem)) (i + 1)
      refine ⟨r.map (· + 1), ?_, FirstIndex.succ ?_ fun hocc => hd (hiff.mpr (occursAt_zero.mp hocc))⟩
      · simp [hd, hloop, Function.comp_def, Nat.add_comm, Nat.add_left_comm]
      · simpa only [occursAt_succ] using hleast

lemma toNat_sub_eq_zero {c d : UInt8} : (c.toNat : Int) - d.toNat = 0 ↔ c = d := by
  rw [Int.sub_eq_zero, Int.ofNat_inj, UInt8.toNat_inj]

/-- **`strncmp`** of as many bytes as the needle has compares with a prefix. -/
lemma strncmpLoop_eq (hh : (0 : UInt8) ∉ h) (hn : (0 : UInt8) ∉ n) (hne : n ≠ []) :
    ∃ v, strncmpLoop (h ++ 0 :: t) (n ++ 0 :: t') n.length = some v ∧ (v = 0 ↔ n <+: h) := by
  induction h generalizing n with
  | nil =>
    cases n with
    | nil => exact absurd rfl hne
    | cons d n =>
      rw [List.mem_cons, not_or] at hn
      refine ⟨_, if_neg (by simp), ?_⟩
      rw [toNat_sub_eq_zero]
      exact iff_of_false hn.1 (by simp)
  | cons c h ih =>
    rw [List.mem_cons, not_or] at hh
    cases n with
    | nil => exact absurd rfl hne
    | cons d n =>
      rw [List.mem_cons, not_or] at hn
      rw [List.cons_append, List.cons_append, strncmpLoop, List.cons_prefix_cons, List.length_cons,
        Nat.add_sub_cancel]
      by_cases hcd : c = d
      · -- the last character of the needle is compared behind the loop
        rcases List.eq_nil_or_concat n with rfl | hlonger
        · refine ⟨_, if_neg (by simp), ?_⟩
          rw [toNat_sub_eq_zero]
          exact iff_of_true hcd ⟨hcd.symm, List.nil_prefix⟩
        · have hrest : n ≠ [] := by
            obtain ⟨l, e, rfl⟩ := hlonger
            simp
          rw [if_pos ⟨Nat.succ_lt_succ (List.length_pos_of_ne_nil hrest), Ne.symm hh.1, hcd⟩]
          obtain ⟨v, hv, hiff⟩ := ih hh.2 hn.2 hrest
          exact ⟨v, hv, hiff.trans ⟨fun hp => ⟨hcd.symm, hp⟩, And.right⟩⟩
      · refine ⟨_, if_neg fun hc => hcd hc.2.2, ?_⟩
        rw [toNat_sub_eq_zero]
        exact iff_of_false hcd fun hp => hcd hp.1.symm

lemma occursAt_iff : OccursAt n h i ↔ i ≤ h.length ∧ n <+: h.drop i := by
  constructor
  · rintro ⟨pre, post, rfl, rfl⟩
    refine ⟨by simp, ?_⟩
    rw [List.drop_left]
    exact List.prefix_append n post
  · rintro ⟨hi, post, hpost⟩
    exact ⟨h.take i, post, by rw [hpost, List.take_append_drop], List.length_take_of_le hi⟩

/-- What `strncmp` answers where the needle may stand. -/
lemma strncmp_occursAt (hh : (0 : UInt8) ∉ h) (hn : (0 : UInt8) ∉ n) (hi : i ≤ h.length) :
    ∃ v, strncmp ((h ++ 0 :: t).drop i) (n ++ 0 :: t') n.length = some v ∧ (v = 0 ↔ OccursAt n h i) := by
  rw [occursAt_iff, List.drop_append_of_le_length hi]
  rcases eq_or_ne n [] with rfl | hne
  · exact ⟨0, if_pos rfl, iff_of_true rfl ⟨hi, List.nil_prefix⟩⟩
  · obtain ⟨v, hv, hiff⟩ := @strncmpLoop_eq (h.drop i) n t t'
      (fun hmem => hh (List.mem_of_mem_drop hmem)) hn hne
    rw [strncmp, if_neg (fun hzero => hne (List.length_eq_zero_iff.mp hzero))]
    exact ⟨v, hv, hiff.trans (iff_and_self.mpr fun _ => hi)⟩

end Search

/-- **The search for a substring is exact**, and `strncmp` agrees with it: at each index of the haystack up to its end it
answers zero exactly where the needle stands. -/
theorem strstr_exact (h n : CString) (t t' : List UInt8) :
    ∃ r, strstr (h.1 ++ 0 :: t) (n.1 ++ 0 :: t') = some r ∧ FirstIndex (OccursAt n.1 h.1) r ∧
      ∀ i ≤ h.1.length, ∃ k v, strlen (n.1 ++ 0 :: t') = some k ∧
        strncmp ((h.1 ++ 0 :: t).drop i) (n.1 ++ 0 :: t') k = some v ∧ (v = 0 ↔ OccursAt n.1 h.1 i) := by
  obtain ⟨r, hfound, hfirst⟩ : ∃ r, strstr (h.1 ++ 0 :: t) (n.1 ++ 0 :: t') = some r ∧
      FirstIndex (OccursAt n.1 h.1) r := by
    rcases eq_or_ne n.1 [] with hnil | hne
    · rw [hnil]
      exact ⟨some 0, rfl, firstIndex_zero (occursAt_zero.mpr List.nil_prefix)⟩
    · obtain ⟨r, hloop, hfirst⟩ := @strstrLoop_eq h.1 n.1 t t' h.2 n.2 hne 0
      refine ⟨r, ?_, hfirst⟩
      obtain ⟨d, rest, hcons⟩ := List.exists_cons_of_ne_nil hne
      have hd : d ≠ 0 := fun hzero => n.2 (by rw [hcons, hzero]; exact List.mem_cons_self)
      have hhead : (n.1 ++ 0 :: t').head? = some d := by rw [hcons]; rfl
      unfold strstr
      simpa [hhead, hd] using hloop
  refine ⟨r, hfound, hfirst, fun i hi => ?_⟩
  obtain ⟨v, hv, hiff⟩ := @strncmp_occursAt h.1 n.1 t t' i h.2 n.2 hi
  exact ⟨_, v, strlen_append n.2, hv, hiff⟩

end AAAos
