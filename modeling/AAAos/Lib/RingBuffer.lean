import Mathlib.Data.List.Basic
import Mathlib.Data.Nat.ModEq
import Mathlib.Logic.Function.Basic

/-!
# Ring buffers

A ring buffer keeps a queue in `size` cells: the oldest value stands at position `r`, and the
positions go round at `size`.  `ringContents size buf r n` is the queue of the `n` values from `r`
on.  The two loops of a ring buffer copy values in one by one (`ringPut`) and copy values out one
by one (`ringTake`), each moving its own position; what they do to the queue is
`ringContents_ringPut` and `ringContents_ringTake`.  Nothing here looks at the values.
-/

namespace AAAos

universe u

variable {β : Type u} {size : Nat} {buf : Nat → β} {r w n m : Nat}

/-- The `n` values from position `r` on, oldest first. -/
def ringContents (size : Nat) (buf : Nat → β) (r n : Nat) : List β :=
  (List.range n).map fun i => buf ((r + i) % size)

/-- The copying-in loop: the cells and the write position after the values. -/
def ringPut (size : Nat) : (Nat → β) → Nat → List β → (Nat → β) × Nat
  | buf, w, [] => (buf, w)
  | buf, w, b :: bs => ringPut size (Function.update buf w b) ((w + 1) % size) bs

/-- The copying-out loop: the values and the read position after them. -/
def ringTake (size : Nat) (buf : Nat → β) : Nat → Nat → List β × Nat
  | r, 0 => ([], r)
  | r, m + 1 =>
    let rest := ringTake size buf ((r + 1) % size) m
    (buf r :: rest.1, rest.2)

@[simp] lemma ringContents_zero (buf : Nat → β) (r : Nat) : ringContents size buf r 0 = [] := rfl

@[simp] lemma length_ringContents (buf : Nat → β) (r n : Nat) : (ringContents size buf r n).length = n := by
  simp [ringContents]

lemma ringContents_succ (buf : Nat → β) (r n : Nat) :
    ringContents size buf r (n + 1) = ringContents size buf r n ++ [buf ((r + n) % size)] := by
  simp [ringContents, List.range_succ]

lemma ringContents_add (buf : Nat → β) (r n m : Nat) : ringContents size buf r (n + m) =
      ringContents size buf r n ++ ringContents size buf ((r + n) % size) m := by
  simp only [ringContents, List.range_add, List.map_append, List.map_map]
  congr 1
  refine List.map_congr_left fun i _ => ?_
  simp [Nat.add_assoc]

lemma ring_ne {i j : Nat} (hij : i < j) (hj : j < r + size) (hi : r ≤ i) : i % size ≠ j % size := by
  intro heq
  have hdvd : size ∣ j - i := (Nat.modEq_iff_dvd' hij.le).mp heq
  have := Nat.le_of_dvd (by omega) hdvd
  omega

lemma ringContents_update (hn : n < size) (b : β) :
    ringContents size (Function.update buf ((r + n) % size) b) r n = ringContents size buf r n := by
  refine List.map_congr_left fun i hi => ?_
  have hlt : r + i < r + n := by simpa using hi
  exact Function.update_of_ne (ring_ne hlt (by omega) (Nat.le_add_right r i)) _ _

/-- **Copying in.**  Values that fit are appended to the queue. -/
theorem ringContents_ringPut {bs : List β} (hw : w = (r + n) % size) (hfit : n + bs.length ≤ size) :
    ringContents size (ringPut size buf w bs).1 r (n + bs.length) = ringContents size buf r n ++ bs ∧
      (ringPut size buf w bs).2 = (r + (n + bs.length)) % size := by
  induction bs generalizing buf w n with
  | nil => exact ⟨by simp [ringPut], by simpa [ringPut] using hw⟩
  | cons b bs ih =>
    have hlen : n + (b :: bs).length = (n + 1) + bs.length := by
      simp only [List.length_cons]
      omega
    rw [hlen] at hfit ⊢
    obtain ⟨hqueue, hpos⟩ := @ih (Function.update buf w b) ((w + 1) % size) (n + 1)
      (by rw [hw]; simp [Nat.add_assoc]) hfit
    refine ⟨?_, hpos⟩
    rw [ringPut, hqueue, ringContents_succ, ← hw, Function.update_self, hw,
      ringContents_update (by omega), List.append_assoc]
    rfl

/-- **Copying out.**  The values come from the front of the queue, in order. -/
theorem ringTake_eq (hr : r < size) : ringTake size buf r m = (ringContents size buf r m, (r + m) % size) := by
  induction m generalizing r with
  | zero => simp [ringTake, Nat.mod_eq_of_lt hr]
  | succ m ih =>
    have hone : ringContents size buf r 1 = [buf r] := by
      simp [ringContents, Nat.mod_eq_of_lt hr]
    rw [ringTake, ih (Nat.mod_lt _ (by omega)), Nat.add_comm m 1, ringContents_add, hone]
    simp [Nat.add_assoc]

lemma length_ringTake (buf : Nat → β) (r m : Nat) : (ringTake size buf r m).1.length = m := by
  induction m generalizing r with
  | zero => rfl
  | succ m ih => rw [ringTake, List.length_cons, ih]

/-- Copying `m` of `n` values out leaves the others. -/
theorem ringContents_ringTake (hr : r < size) (hm : m ≤ n) : ringContents size buf r n =
      (ringTake size buf r m).1 ++ ringContents size buf (ringTake size buf r m).2 (n - m) := by
  rw [ringTake_eq hr, ← ringContents_add, Nat.add_sub_cancel' hm]

/-! ## Closing a gap -/

/-- The loop that closes a gap: each of the `m` cells from position `w` on takes the value of the next. -/
def ringShift (size : Nat) : (Nat → β) → Nat → Nat → (Nat → β)
  | buf, _, 0 => buf
  | buf, w, m + 1 =>
    ringShift size (Function.update buf w (buf ((w + 1) % size))) ((w + 1) % size) m

lemma ringContents_set {k : Nat} (hk : k < n) (hn : n ≤ size) (b : β) :
    ringContents size (Function.update buf ((r + k) % size) b) r n = (ringContents size buf r n).set k b := by
  refine List.ext_getElem (by simp) fun i hi hi' => ?_
  have hlt : i < n := by simpa using hi
  rw [List.getElem_set]
  simp only [ringContents, List.getElem_map, List.getElem_range]
  split_ifs with heq
  · rw [heq, Function.update_self]
  · refine Function.update_of_ne ?_ _ _
    rcases Nat.lt_or_gt_of_ne heq with hki | hik
    · exact (ring_ne (by omega) (by omega) (Nat.le_add_right r k)).symm
    · exact ring_ne (by omega) (by omega) (Nat.le_add_right r i)

lemma ringContents_getElem {k : Nat} (hk : k < (ringContents size buf r n).length) :
    (ringContents size buf r n)[k] = buf ((r + k) % size) := by
  simp [ringContents]

/-- **Closing a gap** takes one value out of the queue. -/
theorem ringContents_ringShift {xs ys : List β} {x : β} (hw : w = (r + xs.length) % size)
    (hn : xs.length + (ys.length + 1) ≤ size)
    (hqueue : ringContents size buf r (xs.length + (ys.length + 1)) = xs ++ x :: ys) :
    ringContents size (ringShift size buf w ys.length) r (xs.length + ys.length) = xs ++ ys := by
  induction ys generalizing buf xs x w with
  | nil =>
    have hlast : ringContents size buf r (xs.length + 1) = xs ++ [x] := hqueue
    rw [ringContents_succ] at hlast
    rw [List.append_nil]
    exact (List.append_inj' hlast rfl).1
  | cons y ys ih =>
    have hnext : buf ((w + 1) % size) = y := by
      have hcell : (ringContents size buf r (xs.length + ((y :: ys).length + 1)))[xs.length + 1]? = some y := by
        rw [hqueue, List.getElem?_append_right (Nat.le_add_right _ _), Nat.add_sub_cancel_left]
        rfl
      obtain ⟨hlt, hget⟩ := List.getElem?_eq_some_iff.mp hcell
      rw [hw, Nat.mod_add_mod, Nat.add_assoc, ← ringContents_getElem hlt]
      exact hget
    have hlen : (xs ++ [y]).length = xs.length + 1 := by simp
    have hset : ringContents size (Function.update buf w y) r ((xs ++ [y]).length + (ys.length + 1)) =
        (xs ++ [y]) ++ y :: ys := by
      rw [hlen, hw, show xs.length + 1 + (ys.length + 1) = xs.length + ((y :: ys).length + 1) by
        rw [List.length_cons]
        omega, ringContents_set (by omega) hn, hqueue]
      simp
    rw [List.length_cons, ringShift, hnext]
    have hrest := @ih (Function.update buf w y) ((w + 1) % size) (xs ++ [y]) y
      (by rw [hw, hlen, Nat.mod_add_mod, Nat.add_assoc]) (by rw [List.length_cons] at hn; omega) hset
    rw [hlen, show xs.length + 1 + ys.length = xs.length + (ys.length + 1) by omega, List.append_assoc] at hrest
    exact hrest

end AAAos
