import AAAos.Kernel.Mm.VmmTree

/-!
# The tables a walk asks for

`vmm_walk` with creation asks for one page for every table that is missing on the way, and stops at
the first refusal.  So whether a walk succeeds can be told before it: the tables that are missing
(`missing`) are counted, and the page allocator can give that many in a row (`PageSource.Supplies`)
or cannot.  `Grows` composes, so that the same is true of a sequence of walks.
-/

namespace AAAos

namespace Vmm

/-- The next `n` requests are all answered with a page. -/
def PageSource.Supplies {α : Type} (src : PageSource α) (a : α) (n : Nat) : Prop :=
  ∀ k < n, (src.alloc ((fun a => (src.alloc a).2)^[k] a)).1 ≠ 0

namespace PageSource

variable {α : Type} {src : PageSource α} {a : α} {m n : Nat}

lemma Supplies.anti (h : src.Supplies a n) (hmn : m ≤ n) : src.Supplies a m :=
  fun k hk => h k (hk.trans_le hmn)

lemma supplies_zero : src.Supplies a 0 := fun k hk => absurd hk (Nat.not_lt_zero k)

lemma supplies_one : src.Supplies a 1 ↔ (src.alloc a).1 ≠ 0 :=
  ⟨fun h => h 0 Nat.one_pos, fun h k hk => by rwa [Nat.lt_one_iff.mp hk]⟩

/-- The first `m` requests and the `n` after them. -/
lemma supplies_add : src.Supplies a (m + n) ↔
    src.Supplies a m ∧ src.Supplies ((fun a => (src.alloc a).2)^[m] a) n := by
  refine ⟨fun h => ⟨h.anti (Nat.le_add_right m n), fun k hk => ?_⟩, fun ⟨hm, hn⟩ k hk => ?_⟩
  · rw [← Function.iterate_add_apply, Nat.add_comm]
    exact h (m + k) (by omega)
  · by_cases hkm : k < m
    · exact hm k hkm
    · have hlater := hn (k - m) (by omega)
      rwa [← Function.iterate_add_apply, Nat.sub_add_cancel (by omega)] at hlater

end PageSource

variable {α : Type} {src : PageSource α} {s s' s'' : Vmm α} {root virt flags t : UInt64}
  {q : List (Fin 512)} {i : Fin 512} {P Q : Finset (List (Fin 512))}

/-- The paths of `P` at whose end there is no table. -/
def missing (s : Vmm α) (root : UInt64) (P : Finset (List (Fin 512))) : Finset (List (Fin 512)) :=
  P.filter fun q => s.tableAt root q = none

/-- From `s` to `s'` the tables at the ends of the paths `P` have been made where they were missing,
each in the next page that the source gave. -/
structure Grows (src : PageSource α) (root : UInt64) (s s' : Vmm α)
    (P : Finset (List (Fin 512))) : Prop where
  tables : ∀ q, q.length ≤ 3 → (s'.tableAt root q = none ↔ s.tableAt root q = none ∧ q ∉ P)
  pages : s'.pages = (fun a => (src.alloc a).2)^[(s.missing root P).card] s.pages
  given : src.Supplies s.pages (s.missing root P).card

/-- The paths are those of tables. -/
def Short (P : Finset (List (Fin 512))) : Prop := ∀ q ∈ P, q.length ≤ 3

lemma Grows.refl (s : Vmm α) : Grows src root s s ∅ :=
  ⟨fun _ _ => by simp, rfl, PageSource.supplies_zero⟩

/-- What is still missing for `Q` is what was missing for it beside `P`. -/
lemma Grows.card_missing (h : Grows src root s s' P) (hQ : Short Q) :
    (s.missing root (P ∪ Q)).card = (s.missing root P).card + (s'.missing root Q).card := by
  rw [← Finset.card_union_of_disjoint]
  · congr 1
    ext q
    simp only [missing, Finset.mem_filter, Finset.mem_union]
    constructor
    · rintro ⟨hq, hnone⟩
      by_cases hP : q ∈ P
      · exact .inl ⟨hP, hnone⟩
      · have hmem := hq.resolve_left hP
        exact .inr ⟨hmem, (h.tables q (hQ q hmem)).mpr ⟨hnone, hP⟩⟩
    · rintro (⟨hq, hnone⟩ | ⟨hq, hnone⟩)
      · exact ⟨.inl hq, hnone⟩
      · exact ⟨.inr hq, ((h.tables q (hQ q hq)).mp hnone).1⟩
  · refine Finset.disjoint_left.mpr fun q hq hq' => ?_
    obtain ⟨hmem, hnone⟩ := Finset.mem_filter.mp hq'
    exact ((h.tables q (hQ q hmem)).mp hnone).2 (Finset.mem_filter.mp hq).1

lemma Grows.trans (h₁ : Grows src root s s' P) (h₂ : Grows src root s' s'' Q) (hQ : Short Q) :
    Grows src root s s'' (P ∪ Q) := by
  have hcard := h₁.card_missing hQ
  refine ⟨fun q hq => ?_, ?_, ?_⟩
  · rw [h₂.tables q hq, h₁.tables q hq, Finset.mem_union, not_or, and_assoc]
  · rw [h₂.pages, h₁.pages, hcard, Nat.add_comm, Function.iterate_add_apply]
  · rw [hcard, PageSource.supplies_add]
    exact ⟨h₁.given, h₁.pages ▸ h₂.given⟩

lemma Grows.not_supplies (h : Grows src root s s' P) (hQ : Short Q)
    (hfail : ¬ src.Supplies s'.pages (s'.missing root Q).card) :
    ¬ src.Supplies s.pages (s.missing root (P ∪ Q)).card := by
  rw [h.card_missing hQ, PageSource.supplies_add, ← h.pages]
  exact fun hall => hfail hall.2

lemma missing_mono (h : P ⊆ Q) : (s.missing root P).card ≤ (s.missing root Q).card :=
  Finset.card_le_card (Finset.filter_subset_filter _ h)

/-! ## One walk -/

lemma tableAt_congr_entry (h : ∀ q, q.length ≤ 3 → s'.entryAt root q = s.entryAt root q)
    (hq : q.length ≤ 3) : s'.tableAt root q = s.tableAt root q := by
  cases q with
  | nil => rfl
  | cons i q =>
    rw [tableAt, tableAt, RadixTable.tableAt_cons, RadixTable.tableAt_cons]
    exact congrArg (·.bind child) (h (i :: q) hq)

/-- Setting the entry of a page changes neither the tables nor the page allocator. -/
lemma Grows.setEntry (h : Grows src root s s' P) {pt : UInt64} {e : UInt64} (htree : Tree src s' root)
    (hpt : s'.tableAt root (tablePath virt) = some pt) :
    Grows src root s (s'.setEntry pt (ptIndex virt) e) P := by
  refine ⟨fun q hq => ?_, h.pages, h.given⟩
  rw [tableAt_congr_entry (fun p hp => ?_) hq, h.tables q hq]
  rw [(htree.setEntry hpt e).2 p (by omega), if_neg]
  rintro rfl
  simp [path] at hp

/-- `get_or_create_entry` makes the one table that is asked for. -/
lemma Tree.getOrCreateEntry_grows (h : Tree src s root) (ht : s.tableAt root q = some t)
    (hq : q.length ≤ 2) {r : UInt64 × Vmm α}
    (hr : Vmm.getOrCreateEntry src.alloc s t i true flags = r) :
    r.1 ≠ 0 ∧ Grows src root s r.2 {i :: q} ∨ r.1 = 0 ∧ ¬ src.Supplies s.pages (s.missing root {i :: q}).card := by
  have htable := Tree.child_table ht i
  unfold Vmm.getOrCreateEntry at hr
  by_cases hpres : present (s.mem t i) = true
  · rw [if_pos hpres] at hr
    subst hr
    rw [child_of_present hpres] at htable
    have hnone : s.missing root {i :: q} = ∅ :=
      Finset.filter_eq_empty_iff.mpr fun p hp => by
        rw [Finset.mem_singleton.mp hp, htable]
        simp
    refine .inl ⟨h.nonzero (i :: q) _ (by simp; omega) htable, fun p _ => ?_, ?_, ?_⟩
    · rw [Finset.mem_singleton, iff_self_and]
      rintro hp rfl
      rw [htable] at hp
      cases hp
    · rw [hnone]
      rfl
    · rw [hnone]
      exact PageSource.supplies_zero
  · rw [if_neg hpres, Bool.not_true, if_neg (by decide)] at hr
    have hempty : child (s.mem t i) = none := child_eq_none.mpr (by simpa using hpres)
    rw [hempty] at htable
    have hone : (s.missing root {i :: q}).card = 1 := by
      rw [missing, Finset.filter_singleton, if_pos htable, Finset.card_singleton]
    by_cases hfail : (src.alloc s.pages).1 = 0
    · have hr' : (0, { s with pages := (src.alloc s.pages).2 }) = r := by
        simpa [allocPageTable, hfail] using hr
      subst hr'
      rw [hone, PageSource.supplies_one]
      exact .inr ⟨rfl, fun h => h hfail⟩
    · obtain ⟨a, ha⟩ : ∃ a, (src.alloc s.pages).1 = a := ⟨_, rfl⟩
      obtain ⟨-, hentry, hnew⟩ := h.link flags ht hq hempty hfail ha rfl
      have haz : a ≠ 0 := ha ▸ hfail
      have hr' : (a, Vmm.mk (RadixTable.store (RadixTable.fill s.mem a 0) t i (a ||| entryFlags flags))
          s.kernelPml4 s.cr3 (src.alloc s.pages).2) = r := by
        simpa [allocPageTable, ha, haz, Vmm.setEntry] using hr
      subst hr'
      refine .inl ⟨haz, fun p hp => ?_, ?_, ?_⟩
      · rw [Finset.mem_singleton]
        by_cases hpq : p = i :: q
        · rw [hpq, hnew]
          simp
        · simp only [hpq, not_false_eq_true, and_true]
          cases p with
          | nil => rfl
          | cons j p =>
            have hsame := hentry (j :: p) (by omega)
            rw [if_neg hpq] at hsame
            rw [tableAt, tableAt, RadixTable.tableAt_cons, RadixTable.tableAt_cons]
            exact iff_of_eq (congrArg (fun e => e.bind child = none) hsame)
      · rw [hone]
        rfl
      · rw [hone, PageSource.supplies_one]
        exact hfail

/-- The tables on the way to a page, from the first below the root to its page table. -/
def wayTables (virt : UInt64) : Finset (List (Fin 512)) :=
  {[pml4Index virt]} ∪ {[pdptIndex virt, pml4Index virt]} ∪ {tablePath virt}

lemma wayTables_short (virt : UInt64) : Short (wayTables virt) := by
  intro q hq
  simp only [wayTables, Finset.mem_union, Finset.mem_singleton] at hq
  rcases hq with (rfl | rfl) | rfl
  all_goals simp [tablePath]

/-- **What a walk takes from the page allocator.**  It succeeds exactly when the tables missing on
the way can be supplied, and then has made them. -/
lemma Tree.vmmWalk_grows (h : Tree src s root) {r : Option (UInt64 × Fin 512) × Vmm α}
    (hr : Vmm.vmmWalk src.alloc s root virt true flags = r) :
    r.1 ≠ none ∧ Grows src root s r.2 (wayTables virt) ∨
      r.1 = none ∧ ¬ src.Supplies s.pages (s.missing root (wayTables virt)).card := by
  have hfirst : {[pml4Index virt]} ⊆ wayTables virt :=
    Finset.subset_union_left.trans Finset.subset_union_left
  have hsecond : {[pml4Index virt]} ∪ {[pdptIndex virt, pml4Index virt]} ⊆ wayTables virt :=
    Finset.subset_union_left
  have hshort₂ : Short {[pdptIndex virt, pml4Index virt]} := by simp [Short]
  have hshort₃ : Short {tablePath virt} := by simp [Short, tablePath]
  unfold Vmm.vmmWalk at hr
  obtain ⟨pdpt, hpdpt⟩ : ∃ r, Vmm.getOrCreateEntry src.alloc s root (pml4Index virt) true flags = r :=
    ⟨_, rfl⟩
  simp only [hpdpt] at hr
  obtain ⟨h₁, -, ht₁⟩ := h.getOrCreateEntry virt (Tree.root_table s root)
    (by simp [tablePath, List.suffix_cons_iff]) hpdpt
  rcases h.getOrCreateEntry_grows (Tree.root_table s root) (by simp) hpdpt with
    ⟨hz₁, hg₁⟩ | ⟨hz₁, hfail⟩
  swap
  · rw [if_pos hz₁] at hr
    subst hr
    exact .inr ⟨rfl, fun hall => hfail (hall.anti (missing_mono hfirst))⟩
  replace ht₁ := (ht₁.resolve_left fun h => hz₁ h.1).2
  rw [if_neg hz₁] at hr
  obtain ⟨pd, hpd⟩ : ∃ r, Vmm.getOrCreateEntry src.alloc pdpt.2 pdpt.1 (pdptIndex virt) true flags = r :=
    ⟨_, rfl⟩
  simp only [hpd] at hr
  obtain ⟨h₂, -, ht₂⟩ := h₁.getOrCreateEntry virt ht₁ (by simp [tablePath]) hpd
  rcases h₁.getOrCreateEntry_grows ht₁ (by simp) hpd with ⟨hz₂, hg₂⟩ | ⟨hz₂, hfail⟩
  swap
  · rw [if_pos hz₂] at hr
    subst hr
    refine .inr ⟨rfl, fun hall => hg₁.not_supplies hshort₂ hfail ?_⟩
    exact hall.anti (missing_mono hsecond)
  replace ht₂ := (ht₂.resolve_left fun h => hz₂ h.1).2
  rw [if_neg hz₂] at hr
  have hg₁₂ := hg₁.trans hg₂ hshort₂
  obtain ⟨pt, hpt⟩ : ∃ r, Vmm.getOrCreateEntry src.alloc pd.2 pd.1 (pdIndex virt) true flags = r :=
    ⟨_, rfl⟩
  simp only [hpt] at hr
  rcases h₂.getOrCreateEntry_grows ht₂ (by simp) hpt with ⟨hz₃, hg₃⟩ | ⟨hz₃, hfail⟩
  · rw [if_neg hz₃] at hr
    subst hr
    exact .inl ⟨by simp, hg₁₂.trans hg₃ hshort₃⟩
  · rw [if_pos hz₃] at hr
    subst hr
    exact .inr ⟨rfl, hg₁₂.not_supplies hshort₃ hfail⟩

/-- **What mapping a page takes**, at aligned addresses. -/
lemma Tree.vmmMapIn_grows (h : Tree src s root) {phys : UInt64} {r : Bool × Vmm α}
    (hv : isAligned virt 4096 = true) (hp : isAligned phys 4096 = true)
    (hr : Vmm.vmmMapIn src.alloc s root virt phys flags = r) :
    r.1 = true ∧ Grows src root s r.2 (wayTables virt) ∨
      r.1 = false ∧ ¬ src.Supplies s.pages (s.missing root (wayTables virt)).card := by
  unfold Vmm.vmmMapIn at hr
  rw [hv, hp, Bool.not_true, Bool.or_self, if_neg (by decide)] at hr
  obtain ⟨w, hw⟩ : ∃ w, Vmm.vmmWalk src.alloc s root virt true flags = w := ⟨_, rfl⟩
  obtain ⟨htree, -, hfound⟩ := h.vmmWalk hw
  have hgrows := h.vmmWalk_grows hw
  rw [hw] at hr
  obtain ⟨found, s₁⟩ := w
  rcases hfound with ⟨rfl, -⟩ | ⟨pt, rfl, hpt⟩
  · subst hr
    exact .inr ⟨rfl, (hgrows.resolve_left fun h => h.1 rfl).2⟩
  · subst hr
    refine .inl ⟨rfl, Grows.setEntry ?_ htree hpt⟩
    exact (hgrows.resolve_right fun h => by cases h.1).2

end Vmm

end AAAos
