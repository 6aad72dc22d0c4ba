import AAAos.Kernel.Mm.Vmm
import Mathlib.Data.List.Infix

/-!
# The page tables as a radix tree

Three layers of facts about `vmm.c`.

**Words.**  An entry is an address in bits 12 to 51 and flags around it; the masks take the two
apart.  The four indices of a virtual address are its bits 12 to 47, so two addresses have the same
path exactly when they are in the same page (`path_eq_iff`).

**Pages.**  `PageSource` is what `alloc_page_table` relies on: an answer other than `0` is a page
that is not in use.

**The tree.**  `Tree` says that the tables under a root form a tree without sharing.  Each function
gets one lemma that says which entries it changes: `get_or_create_entry` and with it `vmm_walk` only
ever add entries on the way to the page (`Extends`), and the mapping calls change the one entry of
their page.
-/

namespace AAAos

lemma or_and_mask (a b m : UInt64) : (a ||| b) &&& m = (a &&& m) ||| (b &&& m) :=
  UInt64.toBitVec_inj.1 BitVec.and_or_distrib_right

namespace Vmm

/-! ## Words -/

/-- The address in an entry that is present. -/
def child (entry : UInt64) : Option UInt64 :=
  if present entry then some (entry &&& vmmAddrMask) else none

lemma child_of_present {e : UInt64} (h : present e = true) : child e = some (e &&& vmmAddrMask) := by
  rw [child, if_pos h]

lemma child_eq_none {e : UInt64} : child e = none ↔ present e = false := by
  cases h : present e <;> simp [child, h]

lemma live_of_present {e : UInt64} (h : present e = true) : RadixTable.live child e = some e :=
  RadixTable.live_of_child (child_of_present h)

lemma live_of_absent {e : UInt64} (h : present e = false) : RadixTable.live child e = none :=
  RadixTable.live_of_none (child_eq_none.mpr h)

lemma vmmAddrMask_eq : vmmAddrMask = ~~~(4096 - 1) &&& 0xFFFFFFFFFFFFF := by decide

lemma toNat_and_addrMask (x : UInt64) : (x &&& vmmAddrMask).toNat = x.toNat / 2 ^ 12 * 2 ^ 12 % 2 ^ 52 := by
  rw [vmmAddrMask_eq, ← UInt64.and_assoc, toNat_and_mask _ _ 52 (by decide),
    toNat_and_not_mask x (4096 - 1) 12 (by omega) (by decide)]

/-- A page-aligned address below `2 ^ 52` is all address. -/
lemma and_addrMask_of_aligned {x : UInt64} (hal : x.toNat % 4096 = 0) (hlt : x.toNat < 2 ^ 52) :
    x &&& vmmAddrMask = x := by
  rw [← UInt64.toNat_inj, toNat_and_addrMask]
  omega

lemma and_eq_zero_of_addr {t m : UInt64} (ht : t &&& vmmAddrMask = t) (hm : vmmAddrMask &&& m = 0) : t &&& m = 0 := by
  rw [← ht, UInt64.and_assoc, hm, UInt64.and_zero]

lemma tableEntry_and {t m : UInt64} (ht : t &&& vmmAddrMask = t) (hm : vmmAddrMask &&& m = 0)
    (flags : UInt64) : (t ||| entryFlags flags) &&& m = entryFlags flags &&& m := by
  rw [or_and_mask, and_eq_zero_of_addr ht hm, UInt64.zero_or]

lemma entryFlags_cases (flags : UInt64) : entryFlags flags = 3 ∧ flags &&& vmmFlagUser = 0 ∨
      entryFlags flags = 7 ∧ flags &&& vmmFlagUser ≠ 0 := by
  unfold entryFlags
  split_ifs with h
  · exact .inr ⟨by decide, h⟩
  · exact .inl ⟨by decide, not_not.mp h⟩

lemma child_tableEntry {t : UInt64} (ht : t &&& vmmAddrMask = t) (flags : UInt64) :
    child (t ||| entryFlags flags) = some t := by
  have hpresent : present (t ||| entryFlags flags) = true := by
    rw [present, tableEntry_and ht (by decide)]
    rcases entryFlags_cases flags with ⟨h, -⟩ | ⟨h, -⟩
    all_goals
      rw [h]
      decide
  have haddr : entryFlags flags &&& vmmAddrMask = 0 := by
    rcases entryFlags_cases flags with ⟨h, -⟩ | ⟨h, -⟩
    all_goals
      rw [h]
      decide
  rw [child_of_present hpresent, or_and_mask, ht, haddr, UInt64.or_zero]

lemma pageEntry_addr (phys flags : UInt64) : pageEntry phys flags &&& vmmAddrMask = phys &&& vmmAddrMask := by
  have hpresent : vmmFlagPresent &&& vmmAddrMask = 0 := by decide
  have hflags : (flags &&& ~~~vmmAddrMask) &&& vmmAddrMask = 0 := by
    rw [UInt64.and_assoc, UInt64.not_and_self, UInt64.and_zero]
  rw [pageEntry, or_and_mask, or_and_mask, UInt64.and_assoc, hpresent, hflags, UInt64.and_self,
    UInt64.or_zero, UInt64.or_zero]

/-- The flags of a page's entry are those asked for, and `PRESENT`. -/
lemma pageEntry_flag {m : UInt64} (hm : vmmAddrMask &&& m = 0) (hn : ~~~vmmAddrMask &&& m = m) (phys flags : UInt64) :
    pageEntry phys flags &&& m = (flags &&& m) ||| (vmmFlagPresent &&& m) := by
  rw [pageEntry, or_and_mask, or_and_mask, UInt64.and_assoc, hm, UInt64.and_zero, UInt64.zero_or,
    UInt64.and_assoc, hn]

lemma pageEntry_present (phys flags : UInt64) : present (pageEntry phys flags) = true := by
  rw [present, pageEntry_flag (by decide) (by decide), bne_iff_ne, ← UInt64.toNat_inj.ne]
  have : vmmFlagPresent &&& vmmFlagPresent = 1 := by decide
  rw [this, UInt64.toNat_or]
  exact fun h => absurd (Nat.or_eq_zero_iff.mp h).2 (by decide)

/-! ## Paths -/

/-- The indices on the way to the page of `virt`, the last one first. -/
def path (virt : UInt64) : List (Fin 512) :=
  [ptIndex virt, pdIndex virt, pdptIndex virt, pml4Index virt]

/-- The indices on the way to its page table. -/
def tablePath (virt : UInt64) : List (Fin 512) := [pdIndex virt, pdptIndex virt, pml4Index virt]

/-- Bits 12 to 47 of an address: the page it is in. -/
def pageNumber (virt : UInt64) : Nat := virt.toNat / 4096 % 2 ^ 36

lemma tableIndex_val (virt : UInt64) {shift : UInt64} (hs : shift.toNat < 64) :
    (tableIndex virt shift).val = virt.toNat / 2 ^ shift.toNat % 512 := by
  rw [tableIndex]
  dsimp only
  rw [toNat_and_mask _ _ 9 (by decide), UInt64.toNat_shiftRight, Nat.mod_eq_of_lt hs,
    Nat.shiftRight_eq_div_pow]
  omega

lemma mod_mul_eq_iff (a b n m : Nat) : n % (a * b) = m % (a * b) ↔ n % a = m % a ∧ n / a % b = m / a % b := by
  constructor
  · intro h
    refine ⟨?_, ?_⟩
    · rw [← Nat.mod_mul_right_mod n a b, h, Nat.mod_mul_right_mod]
    · rw [← Nat.mod_mul_right_div_self, h, Nat.mod_mul_right_div_self]
  · rintro ⟨hlow, hhigh⟩
    rw [Nat.mod_mul, Nat.mod_mul, hlow, hhigh]

/-- **Two addresses have the same path exactly when they are in the same page.** -/
lemma path_eq_iff {v w : UInt64} : path v = path w ↔ pageNumber v = pageNumber w := by
  simp only [path, ptIndex, pdIndex, pdptIndex, pml4Index, List.cons.injEq, and_true, Fin.ext_iff,
    tableIndex_val _ (show (12 : UInt64).toNat < 64 by decide),
    tableIndex_val _ (show (21 : UInt64).toNat < 64 by decide),
    tableIndex_val _ (show (30 : UInt64).toNat < 64 by decide),
    tableIndex_val _ (show (39 : UInt64).toNat < 64 by decide), pageNumber,
    show (12 : UInt64).toNat = 12 from rfl, show (21 : UInt64).toNat = 21 from rfl,
    show (30 : UInt64).toNat = 30 from rfl, show (39 : UInt64).toNat = 39 from rfl]
  rw [show (2 ^ 36 : Nat) = 512 * (512 * (512 * 512)) from rfl, mod_mul_eq_iff, mod_mul_eq_iff, mod_mul_eq_iff,
    Nat.div_div_eq_div_mul, Nat.div_div_eq_div_mul, Nat.div_div_eq_div_mul, Nat.div_div_eq_div_mul,
    Nat.div_div_eq_div_mul, Nat.div_div_eq_div_mul]
  exact Iff.rfl

/-! ## Pages -/

/-- A source of pages: what it answers is `0` or a page that was not taken and now is. -/
structure PageSource (α : Type) where
  alloc : α → UInt64 × α
  Ok : α → Prop
  Taken : α → UInt64 → Prop
  ok : ∀ {a}, Ok a → Ok (alloc a).2
  address : ∀ {a}, Ok a → (alloc a).1 ≠ 0 → (alloc a).1 &&& vmmAddrMask = (alloc a).1
  fresh : ∀ {a}, Ok a → (alloc a).1 ≠ 0 → ¬ Taken a (alloc a).1
  taken : ∀ {a}, Ok a → (alloc a).1 ≠ 0 → Taken (alloc a).2 (alloc a).1
  keeps : ∀ {a q}, Ok a → Taken a q → Taken (alloc a).2 q

/-- A request has just been refused. -/
def PageSource.Refused {α : Type} (src : PageSource α) (b : α) : Prop :=
  ∃ a, src.Ok a ∧ (src.alloc a).1 = 0 ∧ (src.alloc a).2 = b

/-! ## The tree -/

variable {α : Type} {src : PageSource α} {s s' s'' : Vmm α} {root virt flags t : UInt64}
  {q : List (Fin 512)} {i : Fin 512}

/-- The table at the end of a path. -/
def tableAt (s : Vmm α) (root : UInt64) (q : List (Fin 512)) : Option UInt64 :=
  RadixTable.tableAt child s.mem root q

/-- The entry at the end of a path. -/
def entryAt (s : Vmm α) (root : UInt64) (q : List (Fin 512)) : Option UInt64 :=
  RadixTable.entryAt child s.mem root q

/-- The tables under `root` form a tree of pages that are taken. -/
structure Tree (src : PageSource α) (s : Vmm α) (root : UInt64) : Prop where
  ok : src.Ok s.pages
  separate : RadixTable.Separate child s.mem root 3
  nonzero : ∀ q t, q.length ≤ 3 → s.tableAt root q = some t → t ≠ 0
  taken : ∀ q t, q.length ≤ 3 → s.tableAt root q = some t → src.Taken s.pages t

/-- From `s` to `s'` nothing has changed but that entries on the way to the page table of `virt`
which were missing have been added, each for a table and with the flags asked for. -/
structure Extends (root virt flags : UInt64) (s s' : Vmm α) : Prop where
  kernelPml4 : s'.kernelPml4 = s.kernelPml4
  cr3 : s'.cr3 = s.cr3
  entry : ∀ q, q.length ≤ 4 → s'.entryAt root q = s.entryAt root q ∨ q <:+ tablePath virt ∧ s.entryAt root q = none ∧
      ∃ t, t &&& vmmAddrMask = t ∧ s'.entryAt root q = some (t ||| entryFlags flags)

lemma Extends.refl (s : Vmm α) : Extends root virt flags s s := ⟨rfl, rfl, fun _ _ => .inl rfl⟩

lemma Extends.trans (h₁ : Extends root virt flags s s') (h₂ : Extends root virt flags s' s'') :
    Extends root virt flags s s'' := by
  refine ⟨h₂.kernelPml4.trans h₁.kernelPml4, h₂.cr3.trans h₁.cr3, fun q hq => ?_⟩
  rcases h₂.entry q hq with h | ⟨hway, hnone, t, ht, hnew⟩
  · rw [h]
    exact h₁.entry q hq
  · rcases h₁.entry q hq with h | ⟨-, -, t', -, hsome⟩
    · exact .inr ⟨hway, h ▸ hnone, t, ht, hnew⟩
    · rw [hsome] at hnone
      cases hnone

lemma Extends.keeps (h : Extends root virt flags s s') {e : UInt64} (hq : q.length ≤ 4)
    (he : s.entryAt root q = some e) : s'.entryAt root q = some e := by
  rcases h.entry q hq with heq | ⟨-, hnone, -⟩
  · rw [heq, he]
  · rw [he] at hnone
    cases hnone

lemma Extends.page (h : Extends root virt flags s s') (w : UInt64) :
    s'.entryAt root (path w) = s.entryAt root (path w) := by
  rcases h.entry (path w) (by simp [path]) with heq | ⟨hway, -⟩
  · exact heq
  · have := hway.length_le
    simp [path, tablePath] at this

lemma Tree.root_table (s : Vmm α) (root : UInt64) : s.tableAt root [] = some root := rfl

lemma tableAt_empty (h : s.mem root = fun _ => 0) (hq : q ≠ []) : s.tableAt root q = none := by
  induction q with
  | nil => exact absurd rfl hq
  | cons i q ih =>
    by_cases hnil : q = []
    · rw [hnil, tableAt, RadixTable.tableAt, RadixTable.tableAt, Option.bind_some, h]
      exact child_eq_none.mpr (show present 0 = false by decide)
    · exact RadixTable.tableAt_cons_none (ih hnil) i

lemma entryAt_empty (h : s.mem root = fun _ => 0) : s.entryAt root q = none := by
  cases q with
  | nil => rfl
  | cons i q =>
    rw [entryAt, RadixTable.entryAt]
    by_cases hnil : q = []
    · rw [hnil, RadixTable.tableAt, Option.bind_some, h]
      exact live_of_absent (show present 0 = false by decide)
    · rw [show RadixTable.tableAt child s.mem root q = none from tableAt_empty h hnil, Option.bind_none]

lemma Tree.of_empty (hok : src.Ok s.pages) (hroot : root ≠ 0) (htaken : src.Taken s.pages root)
    (h : s.mem root = fun _ => 0) : Tree src s root := by
  have honly : ∀ q t, s.tableAt root q = some t → q = [] ∧ root = t := by
    intro q t ht
    by_cases hq : q = []
    · subst hq
      exact ⟨rfl, Option.some.inj ht⟩
    · rw [tableAt_empty h hq] at ht
      cases ht
  refine ⟨hok, fun p q t _ _ hp hq => ?_, fun q t _ ht => ?_, fun q t _ ht => ?_⟩
  · rw [(honly p t hp).1, (honly q t hq).1]
  · exact (honly q t ht).2 ▸ hroot
  · exact (honly q t ht).2 ▸ htaken

lemma Tree.withPages (h : Tree src s root) : Tree src { s with pages := (src.alloc s.pages).2 } root :=
  ⟨src.ok h.ok, h.separate, h.nonzero, fun q t hq ht => src.keeps h.ok (h.taken q t hq ht)⟩

lemma Tree.child_table (ht : s.tableAt root q = some t) (i : Fin 512) :
    s.tableAt root (i :: q) = child (s.mem t i) := by
  rw [tableAt, RadixTable.tableAt]
  rw [tableAt] at ht
  rw [ht, Option.bind_some]

/-- Hanging a page that was not taken into an empty entry above the page tables. -/
lemma Tree.link (h : Tree src s root) (flags : UInt64) (ht : s.tableAt root q = some t) (hq : q.length ≤ 2)
    (hempty : child (s.mem t i) = none) (hgiven : (src.alloc s.pages).1 ≠ 0) {a : UInt64}
    (ha : (src.alloc s.pages).1 = a)
    (hs' : s' = { s with
      mem := RadixTable.store (RadixTable.fill s.mem a 0) t i (a ||| entryFlags flags)
      pages := (src.alloc s.pages).2 }) :
    Tree src s' root ∧ (∀ p, p.length ≤ 4 → s'.entryAt root p =
        if p = i :: q then some (a ||| entryFlags flags) else s.entryAt root p) ∧
      s'.tableAt root (i :: q) = some a := by
  subst hs'
  have haddr : a &&& vmmAddrMask = a := ha ▸ src.address h.ok hgiven
  have hfresh : ∀ p, p.length ≤ 3 → RadixTable.tableAt child s.mem root p ≠ some a := by
    intro p hp hpa
    subst ha
    exact src.fresh h.ok hgiven (h.taken p _ hp hpa)
  have hzero : child 0 = none := by decide
  have hchild := child_tableEntry haddr flags
  have hlink := fun p => RadixTable.tableAt_link (q := p) h.separate ht (by omega) hempty hzero
    hchild hfresh
  refine ⟨⟨src.ok h.ok, ?_, ?_, ?_⟩, ?_, ?_⟩
  · exact h.separate.link ht (by omega) hempty hzero hchild hfresh
  · intro p b hp hb
    rw [tableAt, hlink p (by omega)] at hb
    split_ifs at hb with hpq
    · obtain rfl : a = b := Option.some.inj hb
      exact ha ▸ hgiven
    · exact h.nonzero p b hp hb
  · intro p b hp hb
    rw [tableAt, hlink p (by omega)] at hb
    split_ifs at hb with hpq
    · obtain rfl : a = b := Option.some.inj hb
      exact ha ▸ src.taken h.ok hgiven
    · exact src.keeps h.ok (h.taken p b hp hb)
  · exact fun p hp => RadixTable.entryAt_link h.separate ht (by omega) hempty hzero hchild hfresh hp
  · rw [tableAt, hlink _ (by simp; omega), if_pos rfl]

/-- What `get_or_create_entry` does on the way to a page table. -/
lemma Tree.getOrCreateEntry (h : Tree src s root) (virt : UInt64) (ht : s.tableAt root q = some t)
    (hway : i :: q <:+ tablePath virt) {r : UInt64 × Vmm α}
    (hr : Vmm.getOrCreateEntry src.alloc s t i true flags = r) :
    Tree src r.2 root ∧ Extends root virt flags s r.2 ∧ (r.1 = 0 ∧ src.Refused r.2.pages ∨
        r.1 ≠ 0 ∧ r.2.tableAt root (i :: q) = some r.1) := by
  have hlen : q.length ≤ 2 := by
    have hle := hway.length_le
    simp only [tablePath, List.length_cons, List.length_nil] at hle
    omega
  unfold Vmm.getOrCreateEntry at hr
  by_cases hpres : present (s.mem t i) = true
  · rw [if_pos hpres] at hr
    subst hr
    have htable : s.tableAt root (i :: q) = some (s.mem t i &&& vmmAddrMask) := by
      rw [Tree.child_table ht, child_of_present hpres]
    exact ⟨h, .refl s, .inr ⟨h.nonzero (i :: q) _ (by simp; omega) htable, htable⟩⟩
  rw [if_neg hpres, Bool.not_true, if_neg (by decide)] at hr
  have hempty : child (s.mem t i) = none := child_eq_none.mpr (by simpa using hpres)
  by_cases hfail : (src.alloc s.pages).1 = 0
  · have hr' : (0, { s with pages := (src.alloc s.pages).2 }) = r := by
      simpa [allocPageTable, hfail] using hr
    subst hr'
    exact ⟨h.withPages, ⟨rfl, rfl, fun _ _ => .inl rfl⟩, .inl ⟨rfl, s.pages, h.ok, hfail, rfl⟩⟩
  · obtain ⟨a, ha⟩ : ∃ a, (src.alloc s.pages).1 = a := ⟨_, rfl⟩
    obtain ⟨htree, hentry, htable⟩ := h.link flags ht hlen hempty hfail ha rfl
    rw [ha] at hfail
    have hr' : (a, Vmm.mk (RadixTable.store (RadixTable.fill s.mem a 0) t i (a ||| entryFlags flags))
        s.kernelPml4 s.cr3 (src.alloc s.pages).2) = r := by
      simpa [allocPageTable, ha, hfail, setEntry] using hr
    subst hr'
    refine ⟨htree, ⟨rfl, rfl, fun p hp => ?_⟩, .inr ⟨hfail, htable⟩⟩
    rw [hentry p hp]
    split_ifs with hpq
    · have hnone : s.entryAt root (i :: q) = none := by
        rw [entryAt, RadixTable.entryAt_of_table ht, RadixTable.live_of_none hempty]
      have haddr : a &&& vmmAddrMask = a := by
        subst ha
        exact src.address h.ok hfail
      exact .inr ⟨hpq ▸ hway, hpq ▸ hnone, a, haddr, rfl⟩
    · exact .inl rfl

/-- **What `vmm_walk` does when it may create tables.** -/
lemma Tree.vmmWalk (h : Tree src s root) {r : Option (UInt64 × Fin 512) × Vmm α}
    (hr : Vmm.vmmWalk src.alloc s root virt true flags = r) :
    Tree src r.2 root ∧ Extends root virt flags s r.2 ∧
      (r.1 = none ∧ src.Refused r.2.pages ∨ ∃ pt, r.1 = some (pt, ptIndex virt) ∧
        r.2.tableAt root (tablePath virt) = some pt) := by
  unfold Vmm.vmmWalk at hr
  obtain ⟨pdpt, hpdpt⟩ : ∃ r, Vmm.getOrCreateEntry src.alloc s root (pml4Index virt) true flags = r :=
    ⟨_, rfl⟩
  obtain ⟨h₁, he₁, ht₁⟩ := h.getOrCreateEntry virt (Tree.root_table s root)
    (by simp [tablePath, List.suffix_cons_iff]) hpdpt
  simp only [hpdpt] at hr
  rcases ht₁ with ⟨hz₁, href⟩ | ⟨hz₁, ht₁⟩
  · rw [if_pos hz₁] at hr
    subst hr
    exact ⟨h₁, he₁, .inl ⟨rfl, href⟩⟩
  rw [if_neg hz₁] at hr
  obtain ⟨pd, hpd⟩ : ∃ r, Vmm.getOrCreateEntry src.alloc pdpt.2 pdpt.1 (pdptIndex virt) true flags = r :=
    ⟨_, rfl⟩
  obtain ⟨h₂, he₂, ht₂⟩ := h₁.getOrCreateEntry virt ht₁
    (by simp [tablePath]) hpd
  simp only [hpd] at hr
  rcases ht₂ with ⟨hz₂, href⟩ | ⟨hz₂, ht₂⟩
  · rw [if_pos hz₂] at hr
    subst hr
    exact ⟨h₂, he₁.trans he₂, .inl ⟨rfl, href⟩⟩
  rw [if_neg hz₂] at hr
  obtain ⟨pt, hpt⟩ : ∃ r, Vmm.getOrCreateEntry src.alloc pd.2 pd.1 (pdIndex virt) true flags = r :=
    ⟨_, rfl⟩
  obtain ⟨h₃, he₃, ht₃⟩ := h₂.getOrCreateEntry virt ht₂
    (by simp [tablePath]) hpt
  simp only [hpt] at hr
  rcases ht₃ with ⟨hz₃, href⟩ | ⟨hz₃, ht₃⟩
  · rw [if_pos hz₃] at hr
    subst hr
    exact ⟨h₃, (he₁.trans he₂).trans he₃, .inl ⟨rfl, href⟩⟩
  · rw [if_neg hz₃] at hr
    subst hr
    exact ⟨h₃, (he₁.trans he₂).trans he₃, .inr ⟨pt.1, rfl, ht₃⟩⟩

/-! ## Looking up -/

/-- Without creation, `get_or_create_entry` only reads. -/
lemma getOrCreateEntry_false (palloc : α → UInt64 × α) (s : Vmm α) (t : UInt64) (i : Fin 512) (flags : UInt64) :
    Vmm.getOrCreateEntry palloc s t i false flags = ((child (s.mem t i)).getD 0, s) := by
  unfold Vmm.getOrCreateEntry child
  split_ifs <;> simp_all

lemma Tree.next (h : Tree src s root) (hq : q.length ≤ 2) (ht : s.tableAt root q = some t) (i : Fin 512) :
    (child (s.mem t i)).getD 0 = 0 ∧ s.tableAt root (i :: q) = none ∨ (child (s.mem t i)).getD 0 ≠ 0 ∧
        s.tableAt root (i :: q) = some ((child (s.mem t i)).getD 0) := by
  have htable := Tree.child_table ht i
  cases hc : child (s.mem t i) with
  | none => exact .inl ⟨rfl, htable.trans hc⟩
  | some a =>
    rw [hc] at htable
    exact .inr ⟨h.nonzero (i :: q) a (by simp; omega) htable, htable⟩

/-- **The walk that only reads** ends at the page table of the tree. -/
lemma Tree.lookupEntry (h : Tree src s s.root) (virt : UInt64) : Vmm.lookupEntry src.alloc s virt =
      (s.tableAt s.root (tablePath virt)).map fun pt => (pt, ptIndex virt) := by
  simp only [Vmm.lookupEntry, Vmm.vmmWalk, getOrCreateEntry_false]
  rcases h.next (by simp) (Tree.root_table s s.root) (pml4Index virt) with ⟨hz, hnone⟩ | ⟨hz, ht⟩
  · have : s.tableAt s.root (tablePath virt) = none :=
      RadixTable.tableAt_cons_none (RadixTable.tableAt_cons_none hnone _) _
    rw [if_pos hz, this]
    rfl
  rw [if_neg hz]
  rcases h.next (by simp) ht (pdptIndex virt) with ⟨hz, hnone⟩ | ⟨hz, ht⟩
  · have : s.tableAt s.root (tablePath virt) = none := RadixTable.tableAt_cons_none hnone _
    rw [if_pos hz, this]
    rfl
  rw [if_neg hz]
  rcases h.next (by simp) ht (pdIndex virt) with ⟨hz, hnone⟩ | ⟨hz, ht⟩
  · rw [if_pos hz, tablePath, hnone]
    rfl
  · rw [if_neg hz, tablePath, ht]
    rfl

lemma entryAt_path (s : Vmm α) (root virt : UInt64) :
    s.entryAt root (path virt) = (s.tableAt root (tablePath virt)).bind fun pt =>
      RadixTable.live child (s.mem pt (ptIndex virt)) := rfl

lemma Tree.vmmIsMapped (h : Tree src s s.root) (virt : UInt64) :
    Vmm.vmmIsMapped src.alloc s virt = (s.entryAt s.root (path virt)).isSome := by
  rw [Vmm.vmmIsMapped, h.lookupEntry, entryAt_path]
  cases s.tableAt s.root (tablePath virt) with
  | none => rfl
  | some pt =>
    simp only [Option.map_some, Option.bind_some]
    cases hp : present (s.mem pt (ptIndex virt)) with
    | false => simp [live_of_absent hp]
    | true => simp [live_of_present hp]

lemma Tree.vmmGetPhysical (h : Tree src s s.root) (virt : UInt64) : Vmm.vmmGetPhysical src.alloc s virt =
      (s.entryAt s.root (path virt)).elim 0 fun e => (e &&& vmmAddrMask) ||| pageOffset virt := by
  rw [Vmm.vmmGetPhysical, h.lookupEntry, entryAt_path]
  cases s.tableAt s.root (tablePath virt) with
  | none => rfl
  | some pt =>
    simp only [Option.map_some, Option.bind_some]
    cases hp : present (s.mem pt (ptIndex virt)) with
    | false => simp [live_of_absent hp]
    | true => simp [live_of_present hp]

/-! ## Mapping and unmapping -/

lemma Tree.setEntry (h : Tree src s root) {pt : UInt64}
    (hpt : s.tableAt root (tablePath virt) = some pt) (e : UInt64) :
    Tree src (s.setEntry pt (ptIndex virt) e) root ∧
      ∀ q, q.length ≤ 4 → (s.setEntry pt (ptIndex virt) e).entryAt root q =
        if q = path virt then RadixTable.live child e else s.entryAt root q := by
  have htable : ∀ q, q.length ≤ 3 → (s.setEntry pt (ptIndex virt) e).tableAt root q = s.tableAt root q :=
    fun q hq => RadixTable.tableAt_leaf h.separate hpt rfl hq
  refine ⟨⟨h.ok, h.separate.leaf hpt rfl, fun q t hq ht => ?_, fun q t hq ht => ?_⟩, fun q hq => ?_⟩
  · exact h.nonzero q t hq ((htable q hq).symm.trans ht)
  · exact h.taken q t hq ((htable q hq).symm.trans ht)
  · exact RadixTable.entryAt_leaf h.separate hpt rfl hq

/-- **What mapping a page does**: on failure no page's entry changes; on success there is a way to
the page, and its entry is the one asked for. -/
lemma Tree.vmmMapIn (h : Tree src s root) {phys : UInt64} {r : Bool × Vmm α}
    (hr : Vmm.vmmMapIn src.alloc s root virt phys flags = r) :
    Tree src r.2 root ∧ (r.1 = false ∧ Extends root virt flags s r.2 ∧
          (isAligned virt 4096 = true → isAligned phys 4096 = true → src.Refused r.2.pages) ∨
        r.1 = true ∧ isAligned virt 4096 = true ∧ isAligned phys 4096 = true ∧
          ∃ s₁ pt, Extends root virt flags s s₁ ∧ s₁.tableAt root (tablePath virt) = some pt ∧
            r.2 = s₁.setEntry pt (ptIndex virt) (pageEntry phys flags) ∧
            ∀ q, q.length ≤ 4 → r.2.entryAt root q =
              if q = path virt then some (pageEntry phys flags) else s₁.entryAt root q) := by
  unfold Vmm.vmmMapIn at hr
  by_cases hal : (!isAligned virt 4096 || !isAligned phys 4096) = true
  · rw [if_pos hal] at hr
    subst hr
    exact ⟨h, .inl ⟨rfl, .refl s, fun hv hp => by simp [hv, hp] at hal⟩⟩
  rw [if_neg hal] at hr
  have hal : isAligned virt 4096 = true ∧ isAligned phys 4096 = true := by simpa using hal
  obtain ⟨w, hw⟩ : ∃ w, Vmm.vmmWalk src.alloc s root virt true flags = w := ⟨_, rfl⟩
  obtain ⟨htree, hext, hfound⟩ := h.vmmWalk hw
  rw [hw] at hr
  obtain ⟨found, s₁⟩ := w
  rcases hfound with ⟨rfl, hrefused⟩ | ⟨pt, rfl, hpt⟩
  · subst hr
    exact ⟨htree, .inl ⟨rfl, hext, fun _ _ => hrefused⟩⟩
  · subst hr
    obtain ⟨htree', hentry⟩ := htree.setEntry hpt (pageEntry phys flags)
    rw [live_of_present (pageEntry_present phys flags)] at hentry
    exact ⟨htree', .inr ⟨rfl, hal.1, hal.2, s₁, pt, hext, hpt, rfl, hentry⟩⟩

/-- **What unmapping a page does.** -/
lemma Tree.vmmUnmapPage (h : Tree src s s.root) {r : UInt64 × Vmm α}
    (hr : Vmm.vmmUnmapPage src.alloc s virt = r) (hal : isAligned virt 4096 = true) :
    Tree src r.2 s.root ∧ r.2.kernelPml4 = s.kernelPml4 ∧ r.2.cr3 = s.cr3 ∧
      r.1 = (s.entryAt s.root (path virt)).elim 0 (· &&& vmmAddrMask) ∧
      ∀ q, q.length ≤ 4 → r.2.entryAt s.root q =
        if q = path virt then none else s.entryAt s.root q := by
  rw [Vmm.vmmUnmapPage, hal, Bool.not_true, if_neg (by decide), h.lookupEntry] at hr
  rw [entryAt_path]
  cases hpt : s.tableAt s.root (tablePath virt) with
  | none =>
    simp only [hpt, Option.map_none] at hr
    subst hr
    refine ⟨h, rfl, rfl, rfl, fun q _ => ?_⟩
    split_ifs with hq
    · rw [hq, entryAt_path, hpt]
      rfl
    · rfl
  | some pt =>
    rw [hpt] at hr
    simp only [Option.map_some] at hr
    cases hp : present (s.mem pt (ptIndex virt)) with
    | false =>
      rw [hp, Bool.not_false, if_pos rfl] at hr
      subst hr
      refine ⟨h, rfl, rfl, by simp [live_of_absent hp], fun q _ => ?_⟩
      split_ifs with hq
      · rw [hq, entryAt_path, hpt, Option.bind_some, live_of_absent hp]
      · rfl
    | true =>
      rw [hp, Bool.not_true, if_neg (by decide)] at hr
      subst hr
      obtain ⟨htree, hentry⟩ := h.setEntry hpt 0
      refine ⟨htree, rfl, rfl, by simp [live_of_present hp], ?_⟩
      rwa [live_of_absent (by decide)] at hentry

end Vmm

end AAAos
