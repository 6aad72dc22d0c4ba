import AAAos.Lib.LinkedSegment
import Mathlib.Data.List.Nodup

/-!
# Doubly linked lists

A list in memory that can be followed from both ends: `next` from its head and `prev` from its tail visit the same
cells, in opposite orders.  There are three changes.  A cell is taken out (`remove`), or put at an end
(`pushBack`, `pushFront`).  The new pointers are given by what changed, so that the lemmas apply however they are
stored; the two directions are each other's mirror image (`mirror`).
-/

namespace AAAos

universe u

variable {α : Type u}

namespace Seg

variable {null p p' x : α} {next next' : α → α} {xs l r : List α}

lemma entry (h : Seg next p xs null) : p = xs.head?.getD null := by
  cases xs with
  | nil => exact h
  | cons x xs => exact h.1

lemma after (h : Seg next p (l ++ x :: r) null) : next x = r.head?.getD null := by
  obtain ⟨s, -, rfl, hr⟩ := append.1 h
  exact hr.entry

/-- A cell is taken out of one direction, where `before` is the cell before it. -/
lemma remove [DecidableEq α] {before : α} (h : Seg next p (l ++ x :: r) null)
    (hbefore : before = l.getLast?.getD null) (hnull : null ∉ l ++ x :: r) (hnodup : (l ++ x :: r).Nodup)
    (hp : p' = if before = null then next x else p)
    (hnext : ∀ y ∈ l ++ r, next' y = if y = before then next x else next y) :
    Seg next' p' (l ++ r) null := by
  rcases List.eq_nil_or_concat l with rfl | ⟨front, last, rfl⟩
  · obtain ⟨rfl, hr⟩ := h
    rw [List.getLast?_nil, Option.getD_none] at hbefore
    subst hbefore
    rw [if_pos rfl] at hp
    subst hp
    apply hr.congr
    intro y hy
    have hne : y ≠ before := by
      rintro rfl
      exact hnull (List.mem_cons_of_mem _ hy)
    rw [hnext y hy, if_neg hne]
  · rw [List.concat_eq_append] at *
    rw [List.getLast?_concat, Option.getD_some] at hbefore
    subst hbefore
    have hlast : before ≠ null := by
      rintro rfl
      exact hnull (by simp)
    rw [if_neg hlast] at hp
    subst hp
    apply h.unlink
    · intro y hy
      have hmem : y ∈ (front ++ [before]) ++ r := by
        simp only [List.mem_append] at hy ⊢
        tauto
      have hne : y ≠ before := by
        rintro rfl
        simp only [List.append_assoc, List.singleton_append, List.nodup_append, List.nodup_cons,
          List.mem_cons] at hnodup
        rcases List.mem_append.mp hy with hy | hy
        · exact hnodup.2.2 y hy y (Or.inl rfl) rfl
        · exact hnodup.2.1.1 (Or.inr hy)
      rw [hnext y hmem, if_neg hne]
    · rw [hnext before (by simp), if_pos rfl]

/-- A cell is put at the far end of one direction, where `last` is the cell there. -/
lemma pushLast [DecidableEq α] {last : α} (h : Seg next p xs null) (hlast : last = xs.getLast?.getD null)
    (hnull : null ∉ xs) (hnodup : xs.Nodup) (hp : p' = if last = null then x else p)
    (hnext : ∀ y ∈ xs, next' y = if y = last then x else next y) (hx : next' x = null) :
    Seg next' p' (xs ++ [x]) null := by
  rcases List.eq_nil_or_concat xs with rfl | ⟨front, final, rfl⟩
  · rw [List.getLast?_nil, Option.getD_none] at hlast
    rw [if_pos hlast] at hp
    exact ⟨hp, hx⟩
  · rw [List.concat_eq_append] at *
    rw [List.getLast?_concat, Option.getD_some] at hlast
    subst hlast
    have hne : last ≠ null := by
      rintro rfl
      exact hnull (by simp)
    rw [if_neg hne] at hp
    subst hp
    have hfront : Seg next' p' (front ++ [last]) x := by
      apply h.redirect
      · intro y hy
        have hyl : y ≠ last := by
          rintro rfl
          rw [List.nodup_append] at hnodup
          exact hnodup.2.2 y hy y (List.mem_singleton.mpr rfl) rfl
        rw [hnext y (List.mem_append_left _ hy), if_neg hyl]
      · rw [hnext last (by simp), if_pos rfl]
    exact append.2 ⟨x, hfront, rfl, hx⟩

end Seg

/-- The cells `xs`, from head to tail and from tail to head. -/
structure DoublyLinked (null : α) (next prev : α → α) (head tail : α) (xs : List α) : Prop where
  forward : Seg next head xs null
  backward : Seg prev tail xs.reverse null
  nodup : xs.Nodup
  notNull : null ∉ xs

namespace DoublyLinked

variable {null head tail head' tail' x : α} {next prev next' prev' : α → α} {xs l r : List α}

lemma mirror (h : DoublyLinked null next prev head tail xs) : DoublyLinked null prev next tail head xs.reverse where
  forward := h.backward
  backward := by
    rw [List.reverse_reverse]
    exact h.forward
  nodup := List.nodup_reverse.mpr h.nodup
  notNull := by
    rw [List.mem_reverse]
    exact h.notNull

lemma congr (h : DoublyLinked null next prev head tail xs) (hnext : ∀ y ∈ xs, next' y = next y)
    (hprev : ∀ y ∈ xs, prev' y = prev y) : DoublyLinked null next' prev' head tail xs where
  forward := h.forward.congr hnext
  backward := h.backward.congr fun y hy => hprev y (List.mem_reverse.mp hy)
  nodup := h.nodup
  notNull := h.notNull

lemma head_eq (h : DoublyLinked null next prev head tail xs) : head = xs.head?.getD null := h.forward.entry

lemma tail_eq (h : DoublyLinked null next prev head tail xs) : tail = xs.getLast?.getD null := by
  rw [h.backward.entry, List.head?_reverse]

lemma head_mem (h : DoublyLinked null next prev head tail xs) (hne : head ≠ null) : head ∈ xs := by
  cases xs with
  | nil => exact absurd h.head_eq hne
  | cons y ys =>
    obtain rfl : head = y := h.head_eq
    exact List.mem_cons_self

lemma tail_mem (h : DoublyLinked null next prev head tail xs) (hne : tail ≠ null) : tail ∈ xs :=
  List.mem_reverse.mp (h.mirror.head_mem hne)

lemma head_eq_null (h : DoublyLinked null next prev head tail xs) : head = null ↔ xs = [] := by
  constructor
  · intro hnull
    cases xs with
    | nil => rfl
    | cons y ys =>
      obtain rfl : head = y := h.head_eq
      exact absurd (hnull ▸ List.mem_cons_self) h.notNull
  · rintro rfl
    exact h.head_eq

lemma tail_eq_null (h : DoublyLinked null next prev head tail xs) : tail = null ↔ xs = [] :=
  h.mirror.head_eq_null.trans List.reverse_eq_nil_iff

lemma reverse_split : (l ++ x :: r).reverse = r.reverse ++ x :: l.reverse := by simp

lemma prev_eq (h : DoublyLinked null next prev head tail (l ++ x :: r)) : prev x = l.getLast?.getD null := by
  have hback := h.backward
  rw [reverse_split] at hback
  rw [hback.after, List.head?_reverse]

variable [DecidableEq α]

/-- **A cell is taken out.** -/
theorem remove (h : DoublyLinked null next prev head tail (l ++ x :: r))
    (hhead : head' = if prev x = null then next x else head)
    (htail : tail' = if next x = null then prev x else tail)
    (hnext : ∀ y ∈ l ++ r, next' y = if y = prev x then next x else next y)
    (hprev : ∀ y ∈ l ++ r, prev' y = if y = next x then prev x else prev y) :
    DoublyLinked null next' prev' head' tail' (l ++ r) where
  forward := h.forward.remove h.prev_eq h.notNull h.nodup hhead hnext
  backward := by
    have hm := h.mirror
    rw [reverse_split] at hm
    rw [List.reverse_append]
    apply hm.forward.remove hm.prev_eq hm.notNull hm.nodup htail
    intro y hy
    apply hprev y
    simp only [List.mem_append, List.mem_reverse] at hy ⊢
    exact hy.symm
  nodup := (List.nodup_middle.mp h.nodup).of_cons
  notNull := by
    intro hmem
    apply h.notNull
    simp only [List.mem_append, List.mem_cons] at hmem ⊢
    tauto

/-- **A cell is put at the end.** -/
theorem pushBack (h : DoublyLinked null next prev head tail xs) (hx : x ∉ xs) (hne : x ≠ null)
    (hhead : head' = if tail = null then x else head) (htail : tail' = x)
    (hnext : ∀ y ∈ xs, next' y = if y = tail then x else next y) (hlast : next' x = null)
    (hprev : ∀ y ∈ xs, prev' y = prev y) (hbefore : prev' x = tail) :
    DoublyLinked null next' prev' head' tail' (xs ++ [x]) where
  forward := h.forward.pushLast h.tail_eq h.notNull h.nodup hhead hnext hlast
  backward := by
    rw [List.reverse_append, List.reverse_singleton, List.singleton_append, htail]
    exact h.backward.push (fun y hy => hprev y (List.mem_reverse.mp hy)) hbefore
  nodup := List.nodup_append.mpr
    ⟨h.nodup, List.nodup_singleton x, fun a ha b hb hab => hx (List.mem_singleton.mp hb ▸ hab ▸ ha)⟩
  notNull := by
    simp only [List.mem_append, List.mem_singleton, not_or]
    exact ⟨h.notNull, hne.symm⟩

/-- **A cell is put at the front.** -/
theorem pushFront (h : DoublyLinked null next prev head tail xs) (hx : x ∉ xs) (hne : x ≠ null)
    (hhead : head' = x) (htail : tail' = if head = null then x else tail)
    (hprev : ∀ y ∈ xs, prev' y = if y = head then x else prev y) (hfirst : prev' x = null)
    (hnext : ∀ y ∈ xs, next' y = next y) (hafter : next' x = head) :
    DoublyLinked null next' prev' head' tail' (x :: xs) := by
  have hpushed : DoublyLinked null prev' next' tail' head' (xs.reverse ++ [x]) :=
    h.mirror.pushBack (by rwa [List.mem_reverse]) hne htail hhead
      (fun y hy => hprev y (List.mem_reverse.mp hy)) hfirst
      (fun y hy => hnext y (List.mem_reverse.mp hy)) hafter
  have hlist := hpushed.mirror
  rwa [List.reverse_append, List.reverse_reverse, List.reverse_singleton, List.singleton_append] at hlist

end DoublyLinked

end AAAos
