import AAAos.Lib.Tally
import Mathlib.Data.List.FinRange
import Mathlib.Logic.Function.Basic

/-!
# Tables of slots

A fixed number of slots, some of them in use, each of those under a key.  A search takes the first slot
with a property, and what is written goes into one slot.  If a key is only written where no other slot
in use has it, no two slots in use ever have the same key, and a search for a key finds the one slot.

A counter of the slots in use moves by one with each slot that is taken or given back.  A loop over all
slots leaves each slot as its own round has left it, if the later rounds do not undo that (`visit`).
-/

namespace AAAos.SlotTable

universe u v

variable {n : Nat} {α : Type u} {κ : Type v}
variable {t t' : Fin n → α} {p live : α → Bool} {key : α → κ} {i j : Fin n} {a : α}

/-! ## Searching -/

/-- The first slot with a property. -/
def find (t : Fin n → α) (p : α → Bool) : Option (Fin n) := (List.finRange n).find? fun i => p (t i)

lemma find_spec (h : find t p = some i) : p (t i) = true := by
  simpa using List.find?_some h

lemma find_eq_none : find t p = none ↔ ∀ i, p (t i) = false := by
  simp [find, List.find?_eq_none]

lemma find_congr (h : ∀ i, p (t' i) = p (t i)) : find t' p = find t p := by
  unfold find
  simp only [h]

lemma find_isSome (h : p (t i) = true) : ∃ j, find t p = some j := by
  cases hfind : find t p with
  | none => exact absurd (h.symm.trans (find_eq_none.mp hfind i)) (by decide)
  | some j => exact ⟨j, rfl⟩

/-! ## Keys -/

/-- No two slots in use have the same key. -/
def Distinct (live : α → Bool) (key : α → κ) (t : Fin n → α) : Prop :=
  ∀ ⦃i j⦄, live (t i) = true → live (t j) = true → key (t i) = key (t j) → i = j

lemma Distinct.put (h : Distinct live key t)
    (hfresh : live a = true → ∀ j, j ≠ i → live (t j) = true → key (t j) ≠ key a) :
    Distinct live key (Function.update t i a) := by
  intro j k hj hk hkey
  by_cases hji : j = i
  · by_cases hki : k = i
    · rw [hji, hki]
    · subst hji
      rw [Function.update_self] at hj hkey
      rw [Function.update_of_ne hki] at hk hkey
      exact absurd hkey.symm (hfresh hj k hki hk)
  · rw [Function.update_of_ne hji] at hj hkey
    by_cases hki : k = i
    · subst hki
      rw [Function.update_self] at hk hkey
      exact absurd hkey (hfresh hk j hji hj)
    · rw [Function.update_of_ne hki] at hk hkey
      exact h hj hk hkey

lemma Distinct.mono (h : Distinct live key t)
    (hsub : ∀ i, live (t' i) = true → live (t i) = true ∧ key (t' i) = key (t i)) :
    Distinct live key t' := by
  intro i j hi hj hkey
  obtain ⟨hi, hkeyi⟩ := hsub i hi
  obtain ⟨hj, hkeyj⟩ := hsub j hj
  exact h hi hj (hkeyi.symm.trans (hkey.trans hkeyj))

lemma Distinct.find_eq [DecidableEq κ] (h : Distinct live key t) (hi : live (t i) = true) {k : κ}
    (hkey : key (t i) = k) : find t (fun a => live a && key a = k) = some i := by
  obtain ⟨j, hj⟩ := find_isSome (t := t) (p := fun a => live a && key a = k) (i := i)
    (by simp [hi, hkey])
  have hspec := find_spec hj
  simp only [Bool.and_eq_true, decide_eq_true_eq] at hspec
  rw [hj, h hspec.1 hi (hspec.2.trans hkey.symm)]

lemma ne_of_find_eq_none [DecidableEq κ] {k : κ}
    (h : find t (fun a => live a && key a = k) = none) (hi : live (t i) = true) : key (t i) ≠ k := by
  intro hkey
  have hmiss := find_eq_none.mp h i
  simp [hi, hkey] at hmiss

/-! ## Counting -/

/-- The number of slots in use. -/
def count (live : α → Bool) (t : Fin n → α) : Nat := (Finset.univ.filter fun i => live (t i) = true).card

lemma count_le (live : α → Bool) (t : Fin n → α) : count live t ≤ n :=
  (Finset.card_le_univ _).trans_eq (Fintype.card_fin n)

lemma count_eq_zero (h : ∀ i, live (t i) = false) : count live t = 0 := by
  rw [count, Finset.card_eq_zero, Finset.filter_eq_empty_iff]
  intro i _
  rw [h i]
  exact Bool.noConfusion

lemma count_congr (h : ∀ i, live (t' i) = live (t i)) : count live t' = count live t := by
  unfold count
  simp only [h]

lemma count_eq_tally (live : α → Bool) (t : Fin n → α) :
    count live t = tally (fun i => if live (t i) then some () else none) () := by
  unfold count tally
  congr 1
  ext i
  simp

lemma count_update (live : α → Bool) (t : Fin n → α) (i : Fin n) (a : α) :
    count live (Function.update t i a) + (if live (t i) then 1 else 0) =
      count live t + (if live a then 1 else 0) := by
  have hcomp : (fun j => if live (Function.update t i a j) then some () else none) =
      Function.update (fun j => if live (t j) then some () else none) i
        (if live a then some () else none) := by
    funext j
    by_cases hj : j = i
    · rw [hj, Function.update_self, Function.update_self]
    · rw [Function.update_of_ne hj, Function.update_of_ne hj]
  have htally := tally_update (fun j => if live (t j) then some () else none) i
    (if live a then some () else none) ()
  rw [count_eq_tally, count_eq_tally, hcomp]
  simpa using htally

lemma count_take (hi : live (t i) = false) (ha : live a = true) :
    count live (Function.update t i a) = count live t + 1 := by
  simpa [hi, ha] using count_update live t i a

lemma count_free (hi : live (t i) = true) (ha : live a = false) :
    count live (Function.update t i a) + 1 = count live t := by
  simpa [hi, ha] using count_update live t i a

lemma counter_take {c : UInt32} (hn : n < 2 ^ 32) (h : c.toNat = count live t)
    (hi : live (t i) = false) (ha : live a = true) :
    (c + 1).toNat = count live (Function.update t i a) := by
  have hcount := count_take hi ha
  have hle := count_le live (Function.update t i a)
  rw [UInt32.toNat_add, h, show (1 : UInt32).toNat = 1 from rfl, Nat.mod_eq_of_lt (by omega), hcount]

lemma counter_free {c : UInt32} (h : c.toNat = count live t) (hi : live (t i) = true)
    (ha : live a = false) : (c - 1).toNat = count live (Function.update t i a) := by
  have hcount := count_free hi ha
  have hpos : (1 : UInt32) ≤ c := by
    rw [UInt32.le_iff_toNat_le, h]
    exact hcount ▸ Nat.succ_pos _
  rw [UInt32.toNat_sub_of_le c 1 hpos, h, show (1 : UInt32).toNat = 1 from rfl, ← hcount, Nat.add_sub_cancel]

/-! ## Loops over all slots -/

/-- What each round keeps, the loop keeps, and what a round does to its own slot holds at the end. -/
theorem visit {σ : Type v} {f : σ → Fin n → σ} {J : σ → Prop} {D : Fin n → σ → Prop}
    (hkeep : ∀ s i, J s → J (f s i)) (hself : ∀ s i, J s → D i (f s i))
    (hother : ∀ s i j, J s → D j s → D j (f s i)) {s : σ} (hs : J s) :
    J ((List.finRange n).foldl f s) ∧ ∀ i, D i ((List.finRange n).foldl f s) := by
  have hlist : ∀ (l : List (Fin n)) (s : σ), J s → J (l.foldl f s) ∧ ∀ i, i ∈ l ∨ D i s → D i (l.foldl f s) := by
    intro l
    induction l with
    | nil => exact fun s hs => ⟨hs, fun i hi => hi.resolve_left List.not_mem_nil⟩
    | cons j l ih =>
      intro s hs
      obtain ⟨hJ, hD⟩ := ih (f s j) (hkeep s j hs)
      refine ⟨hJ, fun i hi => hD i ?_⟩
      rcases hi with hmem | hdone
      · rcases List.mem_cons.mp hmem with rfl | hmem
        · exact .inr (hself s i hs)
        · exact .inl hmem
      · exact .inr (hother s j i hs hdone)
  exact ⟨(hlist _ s hs).1, fun i => (hlist _ s hs).2 i (.inl (List.mem_finRange i))⟩

lemma foldl_invariant {σ : Type v} {f : σ → Fin n → σ} {J : σ → Prop}
    (hkeep : ∀ s i, J s → J (f s i)) {s : σ} (hs : J s) : J ((List.finRange n).foldl f s) :=
  (visit (D := fun _ _ => True) hkeep (fun _ _ _ => trivial) (fun _ _ _ _ _ => trivial) hs).1

end AAAos.SlotTable
