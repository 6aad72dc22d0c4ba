import Mathlib.Logic.Function.Basic
import Mathlib.Data.List.Basic

/-!
# Radix trees of tables in a memory

A memory of tables, each an array of words; a word may hold the address of another table.  The
tables reached from a root by a list of indices form a tree as long as no table is reached in two
ways (`Separate`).  A path is written from its last index to its first, so that the induction
over a path goes down the tree one table at a time.

Two stores keep a tree a tree, and both change exactly one entry of it: overwriting an entry of a
table at the bottom (`entryAt_leaf`), and hanging a table without entries into an empty entry
(`entryAt_link`).  A second root whose entries are copied from the first is a root of a tree as well
(`Separate.graft`); the two trees share what the copied entries point to.
-/

namespace AAAos

namespace RadixTable

universe u v w

variable {A : Type u} {ι : Type v} {W : Type w} (child : W → Option A)

/-- The table reached from `root` along a path, last index first. -/
def tableAt (mem : A → ι → W) (root : A) : List ι → Option A
  | [] => some root
  | i :: q => (tableAt mem root q).bind fun t => child (mem t i)

/-- A word that points nowhere is no entry. -/
def live (w : W) : Option W := if (child w).isSome then some w else none

/-- The entry at the end of a path. -/
def entryAt (mem : A → ι → W) (root : A) : List ι → Option W
  | [] => none
  | i :: q => (tableAt child mem root q).bind fun t => live child (mem t i)

/-- Down to depth `d`, no table is reached in two ways. -/
def Separate (mem : A → ι → W) (root : A) (d : Nat) : Prop :=
  ∀ p q t, p.length ≤ d → q.length ≤ d → tableAt child mem root p = some t → tableAt child mem root q = some t → p = q

variable {child} {mem mem' : A → ι → W} {root t a : A} {d : Nat} {p q : List ι} {i : ι} {w : W}

lemma live_of_child (h : child w = some a) : live child w = some w := by
  simp [live, h]

lemma live_of_none (h : child w = none) : live child w = none := by
  simp [live, h]

lemma live_bind_child (w : W) : (live child w).bind child = child w := by
  cases h : child w with
  | none => simp [live_of_none h]
  | some a => simp [live_of_child h, h]

lemma tableAt_cons (i : ι) (q : List ι) :
    tableAt child mem root (i :: q) = (entryAt child mem root (i :: q)).bind child := by
  rw [tableAt, entryAt]
  cases tableAt child mem root q with
  | none => rfl
  | some t => exact (live_bind_child (mem t i)).symm

lemma entryAt_of_table (ht : tableAt child mem root q = some t) (i : ι) :
    entryAt child mem root (i :: q) = live child (mem t i) := by
  change (tableAt child mem root q).bind _ = _
  rw [ht, Option.bind_some]

lemma tableAt_cons_none (h : tableAt child mem root q = none) (i : ι) : tableAt child mem root (i :: q) = none := by
  change (tableAt child mem root q).bind _ = none
  rw [h, Option.bind_none]

/-! ## A second root -/

/-- Below a root whose entries are copied, or point nowhere, are the tables of the first root. -/
lemma tableAt_graft {b : A} (hb : ∀ q, q.length ≤ d → tableAt child mem root q ≠ some b)
    (hsame : ∀ t, t ≠ b → mem' t = mem t)
    (hcopy : ∀ i, mem' b i = mem root i ∨ child (mem' b i) = none) (hq : q.length ≤ d) (hne : q ≠ [])
    (ht : tableAt child mem' b q = some t) : tableAt child mem root q = some t := by
  induction q generalizing t with
  | nil => exact absurd rfl hne
  | cons i q ih =>
    simp only [List.length_cons] at hq
    obtain ⟨s, hs, hst⟩ := Option.bind_eq_some_iff.mp ht
    by_cases hnil : q = []
    · subst hnil
      obtain rfl : b = s := Option.some.inj hs
      rcases hcopy i with heq | hnone
      · rw [tableAt, tableAt, Option.bind_some, ← heq, hst]
      · rw [hnone] at hst
        cases hst
    · have hold := ih (by omega) hnil hs
      have hsb : s ≠ b := fun h => hb q (by omega) (h ▸ hold)
      rw [tableAt, hold, Option.bind_some, ← hsame s hsb, hst]

lemma Separate.graft {b : A} (hsep : Separate child mem root d)
    (hb : ∀ q, q.length ≤ d → tableAt child mem root q ≠ some b)
    (hsame : ∀ t, t ≠ b → mem' t = mem t)
    (hcopy : ∀ i, mem' b i = mem root i ∨ child (mem' b i) = none) : Separate child mem' b d := by
  -- the new root is not below itself, since it was not in the first tree
  have hroot : ∀ q, q.length ≤ d → q ≠ [] → tableAt child mem' b q ≠ some b := fun q hq hne h =>
    hb q hq (tableAt_graft hb hsame hcopy hq hne h)
  intro p q t hp hq hpt hqt
  by_cases hpn : p = []
  · subst hpn
    obtain rfl : b = t := Option.some.inj hpt
    by_contra hne
    exact hroot q hq (Ne.symm hne) hqt
  by_cases hqn : q = []
  · subst hqn
    obtain rfl : b = t := Option.some.inj hqt
    exact absurd hpt (hroot p hp hpn)
  · exact hsep p q t hp hq (tableAt_graft hb hsame hcopy hp hpn hpt)
      (tableAt_graft hb hsame hcopy hq hqn hqt)

/-! ## Stores -/

section Stores

variable [DecidableEq A] [DecidableEq ι]

/-- `mem[t][i] = w`. -/
def store (mem : A → ι → W) (t : A) (i : ι) (w : W) : A → ι → W :=
  Function.update mem t (Function.update (mem t) i w)

lemma store_self : store mem t i w t i = w := by
  simp [store]

lemma store_other {s : A} {j : ι} (h : s ≠ t ∨ j ≠ i) : store mem t i w s j = mem s j := by
  by_cases hs : s = t
  · subst hs
    rw [store, Function.update_self, Function.update_of_ne (h.resolve_left (by simp))]
  · rw [store, Function.update_of_ne hs]

/-- A table filled with one word. -/
def fill (mem : A → ι → W) (a : A) (w : W) : A → ι → W := Function.update mem a fun _ => w

lemma tableAt_leaf (hsep : Separate child mem root d) (ht : tableAt child mem root p = some t)
    (hp : p.length = d) (hq : q.length ≤ d) :
    tableAt child (store mem t i w) root q = tableAt child mem root q := by
  induction q with
  | nil => rfl
  | cons j q ih =>
    simp only [List.length_cons] at hq
    rw [tableAt, tableAt, ih (by omega)]
    cases hs : tableAt child mem root q with
    | none => rfl
    | some s =>
      -- the tables above the bottom are other tables
      have hne : s ≠ t := by
        rintro rfl
        have := hsep p q s (by omega) (by omega) ht hs
        rw [this] at hp
        omega
      rw [Option.bind_some, Option.bind_some, store_other (.inl hne)]

/-- **A store into a table at the bottom** changes that entry and no other. -/
lemma entryAt_leaf (hsep : Separate child mem root d) (ht : tableAt child mem root p = some t)
    (hp : p.length = d) (hq : q.length ≤ d + 1) :
    entryAt child (store mem t i w) root q =
      if q = i :: p then live child w else entryAt child mem root q := by
  cases q with
  | nil => rfl
  | cons j q =>
    simp only [List.length_cons] at hq
    rw [entryAt, entryAt, tableAt_leaf hsep ht hp (by omega)]
    cases hs : tableAt child mem root q with
    | none =>
      have hne : j :: q ≠ i :: p := by
        rintro h
        rw [(List.cons.inj h).2, ht] at hs
        cases hs
      rw [if_neg hne]
      rfl
    | some s =>
      simp only [Option.bind_some]
      by_cases hst : s = t
      · subst hst
        obtain rfl := hsep p q s (by omega) (by omega) ht hs
        by_cases hij : j = i
        · rw [hij, if_pos rfl, store_self]
        · rw [if_neg (by simp [hij]), store_other (.inr hij)]
      · have hne : j :: q ≠ i :: p := by
          rintro h
          rw [(List.cons.inj h).2, ht] at hs
          exact hst (Option.some.inj hs).symm
        rw [if_neg hne, store_other (.inl hst)]

lemma Separate.leaf (hsep : Separate child mem root d) (ht : tableAt child mem root p = some t)
    (hp : p.length = d) : Separate child (store mem t i w) root d := by
  intro q r s hq hr hqs hrs
  rw [tableAt_leaf hsep ht hp hq] at hqs
  rw [tableAt_leaf hsep ht hp hr] at hrs
  exact hsep q r s hq hr hqs hrs

section Link

variable {w₀ : W} {B : Type*}

/-- What is read at the end of a path once a table without entries, which is not in the tree, hangs
in the empty entry `i` of the table at `p`; `f` is any reading that sees nothing in an empty
entry. -/
lemma read_link (f : W → Option B) (hf : f w₀ = none) (hsep : Separate child mem root d)
    (ht : tableAt child mem root p = some t) (hp : p.length ≤ d) (hempty : child (mem t i) = none)
    (hfresh : ∀ q, q.length ≤ d → tableAt child mem root q ≠ some a) (hq : q.length ≤ d) (j : ι)
    (hlink : tableAt child (store (fill mem a w₀) t i w) root q =
      if q = i :: p then some a else tableAt child mem root q) :
    ((tableAt child (store (fill mem a w₀) t i w) root q).bind fun s =>
      f (store (fill mem a w₀) t i w s j)) =
      if j :: q = i :: p then f w else (tableAt child mem root q).bind fun s => f (mem s j) := by
  have hta : t ≠ a := fun h => hfresh p hp (h ▸ ht)
  rw [hlink]
  by_cases hqp : q = i :: p
  · -- below the new table there is nothing, as there was nothing before
    have hold : tableAt child mem root q = none := by
      rw [hqp, tableAt, ht, Option.bind_some, hempty]
    have hne : j :: q ≠ i :: p := by
      intro h
      have := congrArg List.length hqp
      rw [(List.cons.inj h).2] at this
      simp at this
    rw [if_pos hqp, if_neg hne, hold, Option.bind_some, Option.bind_none,
      store_other (.inl (Ne.symm hta)), fill, Function.update_self, hf]
  · rw [if_neg hqp]
    cases hs : tableAt child mem root q with
    | none =>
      have hne : j :: q ≠ i :: p := by
        intro h
        rw [(List.cons.inj h).2, ht] at hs
        cases hs
      rw [if_neg hne]
      rfl
    | some s =>
      have hsa : s ≠ a := fun h => hfresh q hq (h ▸ hs)
      simp only [Option.bind_some]
      by_cases hst : s = t
      · subst hst
        obtain rfl := hsep p q s hp hq ht hs
        by_cases hij : j = i
        · rw [hij, if_pos rfl, store_self]
        · rw [if_neg (by simp [hij]), store_other (.inr hij), fill, Function.update_of_ne hsa]
      · have hne : j :: q ≠ i :: p := by
          intro h
          rw [(List.cons.inj h).2, ht] at hs
          exact hst (Option.some.inj hs).symm
        rw [if_neg hne, store_other (.inl hst), fill, Function.update_of_ne hsa]

variable (hsep : Separate child mem root d) (ht : tableAt child mem root p = some t)
  (hp : p.length ≤ d) (hempty : child (mem t i) = none) (h₀ : child w₀ = none)
  (hw : child w = some a) (hfresh : ∀ q, q.length ≤ d → tableAt child mem root q ≠ some a)

include hsep ht hp hempty h₀ hw hfresh

lemma tableAt_link (hq : q.length ≤ d + 1) : tableAt child (store (fill mem a w₀) t i w) root q =
      if q = i :: p then some a else tableAt child mem root q := by
  induction q with
  | nil => rfl
  | cons j q ih =>
    simp only [List.length_cons] at hq
    have hread := read_link child h₀ hsep ht hp hempty hfresh (by omega) j (ih (by omega))
    rw [tableAt, hread, hw]
    rfl

/-- **Hanging in a table without entries** adds its entry and no other. -/
lemma entryAt_link (hq : q.length ≤ d + 1) : entryAt child (store (fill mem a w₀) t i w) root q =
      if q = i :: p then some w else entryAt child mem root q := by
  cases q with
  | nil => rfl
  | cons j q =>
    simp only [List.length_cons] at hq
    have hlink := tableAt_link hsep ht hp hempty h₀ hw hfresh (q := q) (by omega)
    have hread := read_link (live child) (live_of_none h₀) hsep ht hp hempty hfresh (by omega) j
      hlink
    rw [entryAt, hread, live_of_child hw]
    rfl

lemma Separate.link : Separate child (store (fill mem a w₀) t i w) root d := by
  have hlink : ∀ q, q.length ≤ d → tableAt child (store (fill mem a w₀) t i w) root q =
      if q = i :: p then some a else tableAt child mem root q :=
    fun q hq => tableAt_link hsep ht hp hempty h₀ hw hfresh (by omega)
  intro q r s hq hr hqs hrs
  rw [hlink q hq] at hqs
  rw [hlink r hr] at hrs
  split_ifs at hqs hrs with hqp hrp hrp
  · rw [hqp, hrp]
  · exact absurd (hqs ▸ hrs) (hfresh r hr)
  · exact absurd (hrs ▸ hqs) (hfresh q hq)
  · exact hsep q r s hq hr hqs hrs

end Link

end Stores

end RadixTable

end AAAos
