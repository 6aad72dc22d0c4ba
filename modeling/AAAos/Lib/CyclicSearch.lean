import Mathlib.Logic.Function.Iterate
import Mathlib.Tactic.SplitIfs

/-!
# Searching round a cycle

A cursor goes from place to place with `next`, and the first free place is taken.  One kind of search gives up after a
number of places (`tryUpTo`), the other where it is back at its start (`searchFrom`).  On a cycle of `n` places they are
the same, and the second comes to an end.  The numbers of a range are such a cycle, with the first after the last.
-/

namespace CyclicSearch

variable {α : Type*} (free : α → Bool) (next : α → α)

/-- The first free place among so many, and where the cursor is then. -/
def tryUpTo : Nat → α → Option α × α
  | 0, a => (none, a)
  | attempts + 1, a => if free a then (some a, next a) else tryUpTo attempts (next a)

/-- The first free place before the cursor is back, and where it is then. -/
def searchFrom [DecidableEq α] (start : α) : Nat → α → Option α × α
  | 0, a => (none, a)
  | fuel + 1, a =>
    if free a then (some a, next a)
    else if next a ≠ start then searchFrom start fuel (next a)
    else (none, next a)

variable {free next}

/-- **What is found.**  The first free place, or that there is none. -/
theorem tryUpTo_spec (n : Nat) (a : α) : (∃ i < n, free (next^[i] a) = true ∧ (∀ j < i, free (next^[j] a) = false) ∧
        tryUpTo free next n a = (some (next^[i] a), next^[i + 1] a)) ∨
      ((∀ i < n, free (next^[i] a) = false) ∧ tryUpTo free next n a = (none, next^[n] a)) := by
  induction n generalizing a with
  | zero => exact Or.inr ⟨fun i hi => absurd hi (Nat.not_lt_zero i), rfl⟩
  | succ n ih =>
    by_cases hfree : free a = true
    · refine Or.inl ⟨0, Nat.succ_pos n, hfree, fun j hj => absurd hj (Nat.not_lt_zero j), ?_⟩
      rw [tryUpTo, if_pos hfree]
      rfl
    · have htaken : free a = false := Bool.eq_false_iff.mpr hfree
      have hrest : tryUpTo free next (n + 1) a = tryUpTo free next n (next a) := by
        rw [tryUpTo, if_neg hfree]
      rcases ih (next a) with ⟨i, hi, hfound, hbefore, heq⟩ | ⟨hnone, heq⟩
      · refine Or.inl ⟨i + 1, Nat.succ_lt_succ hi, hfound, fun j hj => ?_, hrest.trans heq⟩
        cases j with
        | zero => exact htaken
        | succ j => exact hbefore j (Nat.lt_of_succ_lt_succ hj)
      · refine Or.inr ⟨fun i hi => ?_, hrest.trans heq⟩
        cases i with
        | zero => exact htaken
        | succ i => exact hnone i (Nat.lt_of_succ_lt_succ hi)

/-- **Coming round.**  On a cycle of `n` places, any fuel from `n` on is enough. -/
theorem searchFrom_eq [DecidableEq α] {n : Nat} {start : α} (hn : 0 < n) (hround : next^[n] start = start)
    (hfirst : ∀ i, 0 < i → i < n → next^[i] start ≠ start) {fuel : Nat} (hfuel : n ≤ fuel) :
    searchFrom free next start fuel start = tryUpTo free next n start := by
  -- after `k` places `n - k` are left
  suffices hrest : ∀ m k fuel, k + m = n → 0 < m → m ≤ fuel →
      searchFrom free next start fuel (next^[k] start) = tryUpTo free next m (next^[k] start) from
    hrest n 0 fuel (Nat.zero_add n) hn hfuel
  intro m
  induction m with
  | zero => exact fun _ _ _ hm => absurd hm (Nat.lt_irrefl 0)
  | succ m ih =>
    intro k fuel hk _ hfuel
    obtain ⟨fuel, rfl⟩ : ∃ f, fuel = f + 1 := ⟨fuel - 1, by omega⟩
    rw [searchFrom, tryUpTo, ← Function.iterate_succ_apply' next k start]
    by_cases hfree : free (next^[k] start) = true
    · rw [if_pos hfree, if_pos hfree]
    · rw [if_neg hfree, if_neg hfree]
      by_cases hm : m = 0
      · subst hm
        have hback : next^[k + 1] start = start := by rw [hk, hround]
        rw [if_neg (not_not.mpr hback), tryUpTo]
      · rw [if_pos (hfirst (k + 1) (Nat.succ_pos k) (by omega))]
        exact ih (k + 1) fuel (by omega) (by omega) (by omega)

/-! ## A range of numbers -/

/-- The number after `c` among the `n` from `lo` on. -/
def nextIn (lo n c : Nat) : Nat := if lo + n ≤ c + 1 then lo else c + 1

section Range

variable {lo n c start : Nat} {free : Nat → Bool}

lemma iterate_nextIn (hlow : lo ≤ c) (hhigh : c < lo + n) (i : Nat) : (nextIn lo n)^[i] c = lo + (c - lo + i) % n := by
  induction i with
  | zero =>
    rw [Function.iterate_zero_apply, Nat.add_zero, Nat.mod_eq_of_lt (by omega)]
    omega
  | succ i ih =>
    have hlt := Nat.mod_lt (c - lo + i) (by omega : n > 0)
    have hstep : (c - lo + i + 1) % n = ((c - lo + i) % n + 1) % n := (Nat.mod_add_mod _ n 1).symm
    rw [Function.iterate_succ_apply', ih, nextIn, ← Nat.add_assoc, hstep]
    split_ifs with hlast
    · rw [show (c - lo + i) % n + 1 = n by omega, Nat.mod_self, Nat.add_zero]
    · rw [Nat.mod_eq_of_lt (show (c - lo + i) % n + 1 < n by omega), Nat.add_assoc]

lemma iterate_nextIn_round (hlow : lo ≤ c) (hhigh : c < lo + n) : (nextIn lo n)^[n] c = c := by
  rw [iterate_nextIn hlow hhigh, Nat.add_mod_right, Nat.mod_eq_of_lt (by omega)]
  omega

lemma iterate_nextIn_ne (hlow : lo ≤ c) (hhigh : c < lo + n) {i : Nat} (hi : 0 < i) (hn : i < n) :
    (nextIn lo n)^[i] c ≠ c := by
  rw [iterate_nextIn hlow hhigh]
  rcases Nat.lt_or_ge (c - lo + i) n with hlt | hge
  · rw [Nat.mod_eq_of_lt hlt]
    omega
  · rw [Nat.mod_eq_sub_mod hge, Nat.mod_eq_of_lt (by omega)]
    omega

/-- The search through a range comes to an end. -/
theorem searchFrom_nextIn (hlow : lo ≤ start) (hhigh : start < lo + n) {fuel : Nat} (hfuel : n ≤ fuel) :
    searchFrom free (nextIn lo n) start fuel start = tryUpTo free (nextIn lo n) n start :=
  searchFrom_eq (by omega) (iterate_nextIn_round hlow hhigh) (fun _ hi hn => iterate_nextIn_ne hlow hhigh hi hn) hfuel

/-- What is found in a range is free, and of the range. -/
theorem tryUpTo_nextIn_sound (hlow : lo ≤ start) (hhigh : start < lo + n) {d : Nat}
    (h : (tryUpTo free (nextIn lo n) n start).1 = some d) : lo ≤ d ∧ d < lo + n ∧ free d = true := by
  rcases @tryUpTo_spec Nat free (nextIn lo n) n start with ⟨i, -, hfree, -, heq⟩ | ⟨-, heq⟩
  · rw [heq] at h
    obtain rfl := Option.some.inj h
    have hlt := Nat.mod_lt (start - lo + i) (by omega : n > 0)
    refine ⟨?_, ?_, hfree⟩
    all_goals rw [iterate_nextIn hlow hhigh]; omega
  · rw [heq] at h
    cases h

/-- Where something in the range is free, the search finds it or something before it. -/
theorem tryUpTo_nextIn_complete (hlow : lo ≤ start) (hhigh : start < lo + n) (hc : lo ≤ c) (hc' : c < lo + n)
    (hfree : free c = true) : ∃ d, (tryUpTo free (nextIn lo n) n start).1 = some d := by
  rcases @tryUpTo_spec Nat free (nextIn lo n) n start with ⟨i, -, -, -, heq⟩ | ⟨hnone, -⟩
  · exact ⟨_, congrArg Prod.fst heq⟩
  · -- the cursor comes to `c` after as many places as there are between
    have hpos : n > 0 := by omega
    have hat : (nextIn lo n)^[(c + n - start) % n] start = c := by
      rw [iterate_nextIn hlow hhigh, Nat.add_mod_mod, show start - lo + (c + n - start) = c - lo + n by omega,
        Nat.add_mod_right, Nat.mod_eq_of_lt (by omega)]
      omega
    have htaken := hnone _ (Nat.mod_lt (c + n - start) hpos)
    rw [hat, hfree] at htaken
    cases htaken

end Range

end CyclicSearch
