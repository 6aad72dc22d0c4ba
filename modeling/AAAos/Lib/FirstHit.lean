import Mathlib.Data.List.Basic

/-!
# The first hit in a list

A search looks at one place after the other, and stops at the first hit.  `firstHit` also says whether every place
that it looked at was one that it may look at.  `FirstIndex` is the answer of a search that counts.
-/

namespace AAAos

universe u v

variable {α : Type u} {β : Type v} (hit inside : α → Bool)

/-- Whether all places looked at were inside, and the first hit. -/
def firstHit : List α → Bool × Option α
  | [] => (true, none)
  | a :: l => if hit a then (inside a, some a) else (inside a && (firstHit l).1, (firstHit l).2)

variable {hit inside} {a : α} {l l' : List α}

lemma firstHit_cons (a : α) (l : List α) : firstHit hit inside (a :: l) =
    if hit a then (inside a, some a) else (inside a && (firstHit hit inside l).1, (firstHit hit inside l).2) := rfl

lemma firstHit_snd (l : List α) : (firstHit hit inside l).2 = l.find? hit := by
  induction l with
  | nil => rfl
  | cons a l ih =>
    rw [firstHit_cons, List.find?_cons]
    cases hit a with
    | true => rfl
    | false => exact ih

/-- The search through two lists goes through the second where there is no hit in the first. -/
lemma firstHit_append (l l' : List α) : firstHit hit inside (l ++ l') =
    match (firstHit hit inside l).2 with
    | some a => ((firstHit hit inside l).1, some a)
    | none => ((firstHit hit inside l).1 && (firstHit hit inside l').1, (firstHit hit inside l').2) := by
  induction l with
  | nil => rfl
  | cons a l ih =>
    rw [List.cons_append, firstHit_cons, firstHit_cons, ih]
    cases hit a with
    | true => rfl
    | false =>
      simp only [Bool.false_eq_true, if_false]
      cases (firstHit hit inside l).2 with
      | none => simp only [Bool.and_assoc]
      | some b => rfl

lemma firstHit_map {hit' inside' : β → Bool} (f : β → α) (l : List β) (hhit : ∀ b ∈ l, hit (f b) = hit' b)
    (hinside : ∀ b ∈ l, inside (f b) = inside' b) : firstHit hit inside (l.map f) =
      ((firstHit hit' inside' l).1, (firstHit hit' inside' l).2.map f) := by
  induction l with
  | nil => rfl
  | cons b l ih =>
    rw [List.map_cons, firstHit_cons, firstHit_cons, hhit b List.mem_cons_self, hinside b List.mem_cons_self,
      ih (fun c hc => hhit c (List.mem_cons_of_mem b hc)) fun c hc => hinside c (List.mem_cons_of_mem b hc)]
    cases hit' b with
    | true => rfl
    | false => rfl

lemma firstHit_fst_iff (l : List α) : (firstHit hit inside l).1 = true ↔
    ∀ as a bs, l = as ++ a :: bs → (∀ x ∈ as, hit x = false) → inside a = true := by
  induction l with
  | nil =>
    refine iff_of_true rfl fun as a bs h => ?_
    exact absurd h.symm (List.append_ne_nil_of_right_ne_nil as (List.cons_ne_nil a bs))
  | cons b l ih =>
    constructor
    · rintro h (_ | ⟨c, as⟩) a bs heq hnone
      · obtain ⟨rfl, rfl⟩ := List.cons.inj heq
        rw [firstHit_cons] at h
        split_ifs at h
        · exact h
        · exact (Bool.and_eq_true_iff.mp h).1
      · obtain ⟨rfl, rfl⟩ := List.cons.inj heq
        rw [firstHit_cons, hnone b List.mem_cons_self] at h
        simp only [Bool.false_eq_true, if_false, Bool.and_eq_true] at h
        exact ih.mp h.2 as a bs rfl fun x hx => hnone x (List.mem_cons_of_mem b hx)
    · intro h
      have hb := h [] b l rfl fun x hx => absurd hx List.not_mem_nil
      rw [firstHit_cons]
      split_ifs with hhit
      · exact hb
      · refine Bool.and_eq_true_iff.mpr ⟨hb, ih.mpr fun as a bs heq hnone => ?_⟩
        refine h (b :: as) a bs (by rw [heq]; rfl) fun x hx => ?_
        rcases List.mem_cons.mp hx with rfl | hx
        · exact Bool.eq_false_iff.mpr hhit
        · exact hnone x hx

/-- **The first hit** comes before every other, in whatever order the list is. -/
lemma find?_first {r : α → α → Prop} (hr : l.Pairwise r) (h : l.find? hit = some a) :
    a ∈ l ∧ hit a = true ∧ ∀ b ∈ l, hit b = true → b ≠ a → r a b := by
  obtain ⟨hhit, as, bs, rfl, hnone⟩ := List.find?_eq_some_iff_append.mp h
  refine ⟨by simp, hhit, fun b hb hhitb hne => ?_⟩
  rcases List.mem_append.mp hb with hb | hb
  · exact absurd hhitb (by simpa using hnone b hb)
  · rcases List.mem_cons.mp hb with rfl | hb
    · exact absurd rfl hne
    · exact List.rel_of_pairwise_cons (List.pairwise_append.mp hr).2.1 hb

/-! ## The smallest index -/

section Index

variable {P : Nat → Prop} {r : Option Nat}

/-- The smallest index at which something holds, or `none` where there is no such index. -/
def FirstIndex (P : Nat → Prop) (r : Option Nat) : Prop :=
  (∀ i, r = some i ↔ P i ∧ ∀ j < i, ¬ P j) ∧ (r = none ↔ ∀ i, ¬ P i)

lemma firstIndex_none (h : ∀ i, ¬ P i) : FirstIndex P none :=
  ⟨fun i => ⟨fun hi => (nomatch hi), fun hi => absurd hi.1 (h i)⟩, fun _ => h, fun _ => rfl⟩

lemma firstIndex_zero (h : P 0) : FirstIndex P (some 0) := by
  refine ⟨fun i => ⟨fun hi => ?_, fun hi => ?_⟩, fun hi => (nomatch hi), fun hi => absurd h (hi 0)⟩
  · obtain rfl := Option.some.inj hi
    exact ⟨h, fun j hj => absurd hj (Nat.not_lt_zero j)⟩
  · rcases Nat.eq_zero_or_pos i with rfl | hpos
    · rfl
    · exact absurd h (hi.2 0 hpos)

lemma FirstIndex.succ (h : FirstIndex (fun i => P (i + 1)) r) (hzero : ¬ P 0) :
    FirstIndex P (r.map (· + 1)) := by
  obtain ⟨hsome, hnone⟩ := h
  refine ⟨fun i => ?_, ?_⟩
  · cases i with
    | zero => exact ⟨fun hi => by simp at hi, fun hi => absurd hi.1 hzero⟩
    | succ i =>
      have hmap : r.map (· + 1) = some (i + 1) ↔ r = some i := by
        rw [Option.map_eq_some_iff]
        exact ⟨fun ⟨k, hk, heq⟩ => by rw [hk, Nat.succ.inj heq], fun hr => ⟨i, hr, rfl⟩⟩
      rw [hmap, hsome i]
      refine and_congr_right fun _ => ⟨fun hall j hj => ?_, fun hall j hj => hall (j + 1) (by omega)⟩
      cases j with
      | zero => exact hzero
      | succ j => exact hall j (by omega)
  · rw [Option.map_eq_none_iff, hnone]
    refine ⟨fun hall i => ?_, fun hall i => hall (i + 1)⟩
    cases i with
    | zero => exact hzero
    | succ i => exact hall i

end Index

end AAAos
