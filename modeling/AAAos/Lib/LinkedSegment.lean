import Mathlib.Logic.Function.Basic
import Mathlib.Data.List.Basic
import Mathlib.Data.Finset.Card
import Mathlib.Tactic.Common

/-!
# Linked-list segments

A singly linked list in memory is a function `next` from a cell to the cell after it.
`Seg next p xs q` says that following `next` from `p` visits exactly the cells `xs` and arrives
at `q`; a null-terminated list is a segment that arrives at null.  Splicing a cell in or out
rewrites one or two `next` pointers, and the lemmas here say what that does to the segment; the
frame rule `Seg.congr` says that pointers of other cells do not matter.
-/

namespace AAAos

universe u

variable {α : Type u} {next next' : α → α} {p q r : α} {xs ys : List α}

/-- From `p`, the cells `xs` in order, then `q`. -/
def Seg (next : α → α) : α → List α → α → Prop
  | p, [], q => p = q
  | p, x :: xs, q => p = x ∧ Seg next (next x) xs q

namespace Seg

/-- **The frame rule.**  A segment reads only the pointers of its own cells. -/
lemma congr (h : Seg next p xs q) (hnext : ∀ x ∈ xs, next' x = next x) : Seg next' p xs q := by
  induction xs generalizing p with
  | nil => exact h
  | cons x xs ih =>
    obtain ⟨rfl, hrest⟩ := h
    refine ⟨rfl, ?_⟩
    rw [hnext p (by simp)]
    exact ih hrest fun y hy => hnext y (by simp [hy])

lemma append : Seg next p (xs ++ ys) r ↔ ∃ q, Seg next p xs q ∧ Seg next q ys r := by
  induction xs generalizing p with
  | nil => simp [Seg]
  | cons x xs ih => simp [Seg, ih, and_assoc]

lemma head_mem (h : Seg next p xs q) (hne : xs ≠ []) : p ∈ xs := by
  cases xs with
  | nil => exact absurd rfl hne
  | cons x xs => exact h.1 ▸ List.mem_cons_self

lemma redirect {l : α} (h : Seg next p (xs ++ [l]) q)
    (hkeep : ∀ x ∈ xs, next' x = next x) (hl : next' l = r) : Seg next' p (xs ++ [l]) r := by
  obtain ⟨s, hxs, hs⟩ := append.1 h
  refine append.2 ⟨s, hxs.congr hkeep, hs.1, ?_⟩
  exact hs.1 ▸ hl

lemma push {y : α} (h : Seg next p xs q) (hkeep : ∀ x ∈ xs, next' x = next x)
    (hy : next' y = p) : Seg next' y (y :: xs) q :=
  ⟨rfl, hy ▸ h.congr hkeep⟩

/-- Taking the cell after `l` out: `l` now points where that cell pointed. -/
lemma unlink {l y : α} (h : Seg next p (xs ++ [l] ++ y :: ys) q)
    (hkeep : ∀ x ∈ xs ++ ys, next' x = next x) (hl : next' l = next y) :
    Seg next' p (xs ++ [l] ++ ys) q := by
  obtain ⟨s, hfront, rfl, hback⟩ := append.1 h
  have hfront' : Seg next' p (xs ++ [l]) (next s) :=
    hfront.redirect (fun x hx => hkeep x (List.mem_append_left ys hx)) hl
  exact append.2 ⟨next s, hfront', hback.congr fun x hx => hkeep x (List.mem_append_right xs hx)⟩

/-- Putting a cell in after `l`: it points where `l` pointed. -/
lemma link {l y : α} (h : Seg next p (xs ++ [l] ++ ys) q)
    (hkeep : ∀ x ∈ xs ++ ys, next' x = next x) (hl : next' l = y) (hy : next' y = next l) :
    Seg next' p (xs ++ [l] ++ y :: ys) q := by
  obtain ⟨s, hfront, hback⟩ := append.1 h
  obtain ⟨t, hxs, rfl, hs⟩ := append.1 hfront
  have hfront' : Seg next' p (xs ++ [t]) y :=
    hfront.redirect (fun x hx => hkeep x (List.mem_append_left ys hx)) hl
  have hback' : Seg next' (next' y) ys q :=
    hy ▸ hs ▸ hback.congr fun x hx => hkeep x (List.mem_append_right xs hx)
  exact append.2 ⟨y, hfront', rfl, hback'⟩

lemma end_mem (h : Seg next p xs q) (h' : Seg next p ys r) (hlen : xs.length < ys.length) : q ∈ ys := by
  induction xs generalizing p ys with
  | nil =>
    cases ys with
    | nil => exact absurd hlen (Nat.lt_irrefl _)
    | cons y ys =>
      obtain rfl : p = q := h
      obtain ⟨rfl, -⟩ := h'
      exact List.mem_cons_self
  | cons x xs ih =>
    cases ys with
    | nil => exact absurd hlen (Nat.not_lt_zero _)
    | cons y ys =>
      obtain ⟨rfl, hrest⟩ := h
      obtain ⟨rfl, hrest'⟩ := h'
      exact List.mem_cons_of_mem _ (ih hrest hrest' (Nat.lt_of_succ_lt_succ hlen))

lemma nodup (h : Seg next p xs q) (hq : q ∉ xs) : xs.Nodup := by
  induction xs generalizing p with
  | nil => exact List.nodup_nil
  | cons x xs ih =>
    obtain ⟨rfl, hrest⟩ := h
    refine List.nodup_cons.mpr ⟨fun hmem => hq ?_, ih hrest fun hmem => hq (List.mem_cons_of_mem _ hmem)⟩
    -- from its second visit on, the cell leads to the end in fewer steps
    obtain ⟨ys, zs, rfl⟩ := List.append_of_mem hmem
    obtain ⟨s, -, rfl, hback⟩ := append.1 hrest
    refine end_mem (show Seg next _ (_ :: zs) q from ⟨rfl, hback⟩) ⟨rfl, hrest⟩ ?_
    simp only [List.length_cons, List.length_append]
    omega

/-- **The trail.**  Inside a finite set the cells are followed out of the set, or back to one of them. -/
theorem exists_trail [DecidableEq α] (next : α → α) (S : Finset α) (p : α) :
    ∃ xs q, Seg next p xs q ∧ xs.Nodup ∧ (∀ x ∈ xs, x ∈ S) ∧ (q ∉ S ∨ q ∈ xs) := by
  -- a trail can be made longer until it does so, and no trail is longer than the set
  suffices h : ∀ n xs q, Seg next p xs q → xs.Nodup → (∀ x ∈ xs, x ∈ S) → S.card = xs.length + n →
      ∃ xs q, Seg next p xs q ∧ xs.Nodup ∧ (∀ x ∈ xs, x ∈ S) ∧ (q ∉ S ∨ q ∈ xs) from
    h S.card [] p rfl List.nodup_nil (fun x hx => absurd hx List.not_mem_nil) (Nat.zero_add _).symm
  intro n
  induction n with
  | zero =>
    intro xs q hseg hnodup hsub hcard
    refine ⟨xs, q, hseg, hnodup, hsub, ?_⟩
    by_contra hout
    obtain ⟨hq, hfresh⟩ := not_or.mp hout
    rw [not_not] at hq
    have hlt : (q :: xs).toFinset.card ≤ S.card := by
      refine Finset.card_le_card fun x hx => ?_
      rcases List.mem_cons.mp (List.mem_toFinset.mp hx) with rfl | hx
      · exact hq
      · exact hsub x hx
    rw [List.toFinset_card_of_nodup (List.nodup_cons.mpr ⟨hfresh, hnodup⟩), List.length_cons] at hlt
    omega
  | succ n ih =>
    intro xs q hseg hnodup hsub hcard
    by_cases hout : q ∉ S ∨ q ∈ xs
    · exact ⟨xs, q, hseg, hnodup, hsub, hout⟩
    · obtain ⟨hq, hfresh⟩ := not_or.mp hout
      rw [not_not] at hq
      refine ih (xs ++ [q]) (next q) (append.2 ⟨q, hseg, rfl, rfl⟩) ?_ ?_ ?_
      · exact List.nodup_append.mpr ⟨hnodup, List.nodup_singleton q, fun x hx y hy hxy =>
          hfresh (List.mem_singleton.mp hy ▸ hxy ▸ hx)⟩
      · intro x hx
        rcases List.mem_append.mp hx with hx | hx
        · exact hsub x hx
        · exact List.mem_singleton.mp hx ▸ hq
      · rw [List.length_append, List.length_singleton]
        omega

end Seg

end AAAos
