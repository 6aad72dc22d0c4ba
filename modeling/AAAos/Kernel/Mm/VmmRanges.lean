import AAAos.Kernel.Mm.VmmSupply
import AAAos.Kernel.Mm.VmmMapping

/-!
# Mapping a range of pages

`vmm_map_pages` maps page after page, and when a page cannot be mapped it unmaps the pages before
it.

**What goes wrong.**  The pages of the range may have been mapped before the call.  The loop maps
them anew, and the rollback takes that away without putting back what was there: the call fails and
the pages that were mapped are no longer.

**What is proved.**  For every tree of tables, range and flags, the call is all or nothing if and
only if one of these holds (`allOrNothing_iff`): an address is not aligned; the missing tables can
all be supplied, and the range neither meets itself nor leaves the physical addresses of 52 bits;
or they cannot, and no page of the range up to where they run out was mapped before.
-/

namespace AAAos

namespace Vmm

variable {α : Type}

/-- `base + (i * VMM_PAGE_SIZE)`. -/
def rangePage (base : UInt64) (i : Nat) : UInt64 := base + UInt64.ofNat i * 4096

/-- The rollback of `vmm_map_pages`, from page `j` on for `n` pages. -/
def rollbackPages (palloc : α → UInt64 × α) (s : Vmm α) (virt : UInt64) (j : Nat) : Nat → Vmm α
  | 0 => s
  | n + 1 => rollbackPages palloc (vmmUnmapPage palloc s (rangePage virt j)).2 virt (j + 1) n

/-- The loop of `vmm_map_pages`: `n` pages are left and `i` is the next one. -/
def mapPagesLoop (palloc : α → UInt64 × α) (s : Vmm α) (virt phys flags : UInt64) (i : Nat) :
    Nat → Bool × Vmm α
  | 0 => (true, s)
  | n + 1 =>
    let r := vmmMapPage palloc s (rangePage virt i) (rangePage phys i) flags
    if !r.1 then (false, rollbackPages palloc r.2 virt 0 i)
    else mapPagesLoop palloc r.2 virt phys flags (i + 1) n

/-- `vmm_map_pages`. -/
def vmmMapPages (palloc : α → UInt64 × α) (s : Vmm α) (virt phys count flags : UInt64) :
    Bool × Vmm α :=
  mapPagesLoop palloc s virt phys flags 0 count.toNat

/-! ## The pages of a range -/

section Pages

variable {base virt phys : UInt64} {i j : Nat}

lemma toNat_rangePage (base : UInt64) (i : Nat) : (rangePage base i).toNat = (base.toNat + 4096 * i) % 2 ^ 64 := by
  rw [rangePage, UInt64.toNat_add, UInt64.toNat_mul, UInt64.toNat_ofNat', show (4096 : UInt64).toNat = 4096 from rfl]
  omega

@[simp] lemma rangePage_zero (base : UInt64) : rangePage base 0 = base := by
  simp [rangePage]

lemma aligned_rangePage (hal : isAligned base 4096 = true) (i : Nat) : isAligned (rangePage base i) 4096 = true := by
  rw [isAligned_page] at hal ⊢
  rw [toNat_rangePage]
  omega

lemma pageOffset_of_aligned (hal : isAligned base 4096 = true) : pageOffset base = 0 := by
  rw [← UInt64.toNat_inj, show (pageOffset base).toNat = base.toNat % 2 ^ 12 from
    toNat_and_mask base 0xFFF 12 (by decide), UInt64.toNat_zero]
  exact (isAligned_page base).mp hal

lemma pageNumber_rangePage (hal : isAligned virt 4096 = true) (i : Nat) :
    pageNumber (rangePage virt i) = (virt.toNat / 4096 + i) % 2 ^ 36 := by
  rw [isAligned_page] at hal
  rw [pageNumber, toNat_rangePage]
  omega

/-- The first `2 ^ 36` pages of a range are different ones. -/
lemma rangePage_inj (hal : isAligned virt 4096 = true) (hi : i < 2 ^ 36) (hj : j < 2 ^ 36)
    (h : pageNumber (rangePage virt i) = pageNumber (rangePage virt j)) : i = j := by
  rw [pageNumber_rangePage hal, pageNumber_rangePage hal] at h
  omega

lemma pageNumber_wrap (hal : isAligned virt 4096 = true) :
    pageNumber (rangePage virt (2 ^ 36)) = pageNumber (rangePage virt 0) := by
  rw [pageNumber_rangePage hal, pageNumber_rangePage hal]
  omega

/-- The tables on the way to the first `n` pages of a range. -/
def rangeTables (virt : UInt64) (n : Nat) : Finset (List (Fin 512)) :=
  (Finset.range n).biUnion fun i => wayTables (rangePage virt i)

lemma rangeTables_succ (virt : UInt64) (n : Nat) :
    rangeTables virt (n + 1) = rangeTables virt n ∪ wayTables (rangePage virt n) := by
  rw [rangeTables, Finset.range_add_one, Finset.biUnion_insert, Finset.union_comm]
  rfl

lemma rangeTables_mono (virt : UInt64) {m n : Nat} (h : m ≤ n) : rangeTables virt m ⊆ rangeTables virt n :=
  Finset.biUnion_subset_biUnion_of_subset_left _ (Finset.range_subset_range.mpr h)

end Pages

variable {src : PageSource α} {s₀ s s' : Vmm α} {virt phys flags w : UInt64} {i j k n : Nat}

/-- The page allocator can give the tables that are missing for the first `n` pages. -/
def Enough (src : PageSource α) (s : Vmm α) (virt : UInt64) (n : Nat) : Prop :=
  src.Supplies s.pages (s.missing s.root (rangeTables virt n)).card

lemma Enough.anti (h : Enough src s virt n) (hi : i ≤ n) : Enough src s virt i :=
  PageSource.Supplies.anti h (missing_mono (rangeTables_mono virt hi))

/-! ## What a call keeps -/

/-- The tables are a tree under the same root. -/
structure InSpace (src : PageSource α) (s₀ s : Vmm α) : Prop where
  tree : Tree src s s₀.root
  kernelPml4 : s.kernelPml4 = s₀.kernelPml4
  cr3 : s.cr3 = s₀.cr3

lemma InSpace.root (h : InSpace src s₀ s) : s.root = s₀.root := by
  simp only [Vmm.root, h.kernelPml4, h.cr3]

lemma InSpace.tree' (h : InSpace src s₀ s) : Tree src s s.root := by
  rw [h.root]
  exact h.tree

/-- `vmm_is_mapped` and `vmm_get_physical` answer the same for `w`. -/
def SameLookup (palloc : α → UInt64 × α) (s s' : Vmm α) (w : UInt64) : Prop :=
  vmmIsMapped palloc s' w = vmmIsMapped palloc s w ∧ vmmGetPhysical palloc s' w = vmmGetPhysical palloc s w

lemma InSpace.isMapped (h : InSpace src s₀ s) (w : UInt64) :
    vmmIsMapped src.alloc s w = (s.entryAt s₀.root (path w)).isSome := by
  rw [h.tree'.vmmIsMapped, h.root]

lemma InSpace.getPhysical (h : InSpace src s₀ s) (w : UInt64) : vmmGetPhysical src.alloc s w =
      (s.entryAt s₀.root (path w)).elim 0 fun e => (e &&& vmmAddrMask) ||| pageOffset w := by
  rw [h.tree'.vmmGetPhysical, h.root]

lemma InSpace.sameLookup (h₀ : Tree src s₀ s₀.root) (h : InSpace src s₀ s)
    (he : s.entryAt s₀.root (path w) = s₀.entryAt s₀.root (path w)) :
    SameLookup src.alloc s₀ s w := by
  rw [SameLookup, h.isMapped, h.getPhysical, he, h₀.vmmIsMapped, h₀.vmmGetPhysical]
  exact ⟨rfl, rfl⟩

lemma InSpace.unmap (h : InSpace src s₀ s) (hal : isAligned virt 4096 = true) {v : Vmm α}
    (hv : (vmmUnmapPage src.alloc s virt).2 = v) :
    InSpace src s₀ v ∧ ∀ w, v.entryAt s₀.root (path w) =
      if pageNumber w = pageNumber virt then none else s.entryAt s₀.root (path w) := by
  obtain ⟨htree, hk, hc, -, hentry⟩ := h.tree'.vmmUnmapPage rfl hal
  rw [hv, h.root] at htree hentry
  rw [hv] at hk hc
  refine ⟨⟨htree, hk.trans h.kernelPml4, hc.trans h.cr3⟩, fun w => ?_⟩
  rw [hentry _ (by simp [path])]
  simp only [path_eq_iff]

lemma InSpace.rollback (h : InSpace src s₀ s) (hal : isAligned virt 4096 = true) {v : Vmm α}
    (hv : rollbackPages src.alloc s virt j n = v) :
    InSpace src s₀ v ∧ (∀ w, (∃ l, j ≤ l ∧ l < j + n ∧ pageNumber w = pageNumber (rangePage virt l)) →
        v.entryAt s₀.root (path w) = none) ∧
      ∀ w, (∀ l, j ≤ l → l < j + n → pageNumber w ≠ pageNumber (rangePage virt l)) →
        v.entryAt s₀.root (path w) = s.entryAt s₀.root (path w) := by
  induction n generalizing s j with
  | zero =>
    subst hv
    exact ⟨h, fun w ⟨l, hlo, hhi, _⟩ => by omega, fun _ _ => rfl⟩
  | succ n ih =>
    obtain ⟨h₁, hfirst⟩ := h.unmap (aligned_rangePage hal j) rfl
    obtain ⟨hv', hnone, hsame⟩ := ih h₁ hv
    refine ⟨hv', fun w ⟨l, hlo, hhi, hl⟩ => ?_, fun w hw => ?_⟩
    · by_cases hlater : ∃ l, j + 1 ≤ l ∧ l < j + 1 + n ∧ pageNumber w = pageNumber (rangePage virt l)
      · exact hnone w hlater
      · -- the page is the first of these, and is not unmapped twice
        have hlj : l = j := by
          by_contra hne
          exact hlater ⟨l, by omega, by omega, hl⟩
        rw [hsame w fun l' hlo' hhi' heq => hlater ⟨l', hlo', hhi', heq⟩, hfirst, hlj.symm, if_pos hl]
    · rw [hsame w fun l hlo hhi => hw l (by omega) (by omega), hfirst, if_neg (hw j le_rfl (by omega))]

/-! ## The loop -/

/-- The first `i` pages of the range have been mapped. -/
structure Ranged (src : PageSource α) (s₀ s : Vmm α) (virt phys flags : UInt64) (i : Nat) : Prop where
  space : InSpace src s₀ s
  grows : Grows src s₀.root s₀ s (rangeTables virt i)
  own : i ≤ 2 ^ 36 → ∀ j < i, s.entryAt s₀.root (path (rangePage virt j)) = some (pageEntry (rangePage phys j) flags)
  other : ∀ w, (∀ j < i, pageNumber w ≠ pageNumber (rangePage virt j)) →
    s.entryAt s₀.root (path w) = s₀.entryAt s₀.root (path w)

lemma ranged_zero (h : Tree src s s.root) : Ranged src s s virt phys flags 0 :=
  ⟨⟨h, rfl, rfl⟩, .refl s, fun _ j hj => absurd hj (Nat.not_lt_zero j), fun _ _ => rfl⟩

/-- The next page is mapped as well, or its tables cannot be supplied and no page changes. -/
lemma Ranged.step (h : Ranged src s₀ s virt phys flags i) (hv : isAligned virt 4096 = true)
    (hp : isAligned phys 4096 = true) {r : Bool × Vmm α}
    (hr : vmmMapPage src.alloc s (rangePage virt i) (rangePage phys i) flags = r) :
    r.1 = true ∧ Ranged src s₀ r.2 virt phys flags (i + 1) ∨
      r.1 = false ∧ ¬ Enough src s₀ virt (i + 1) ∧ InSpace src s₀ r.2 ∧
        ∀ w, r.2.entryAt s₀.root (path w) = s.entryAt s₀.root (path w) := by
  rw [vmmMapPage, h.space.root] at hr
  obtain ⟨htree, hcases⟩ := h.space.tree.vmmMapIn hr
  have hgrows := h.space.tree.vmmMapIn_grows (aligned_rangePage hv i) (aligned_rangePage hp i) hr
  have hshort := wayTables_short (rangePage virt i)
  rcases hcases with ⟨hfail, hext, -⟩ | ⟨hok, -, -, s₁, pt, hext, -, heq, hentry⟩
  · refine .inr ⟨hfail, ?_, ⟨htree, hext.kernelPml4.trans h.space.kernelPml4, hext.cr3.trans h.space.cr3⟩, hext.page⟩
    rw [Enough, rangeTables_succ]
    refine h.grows.not_supplies hshort (hgrows.resolve_left fun h => ?_).2
    rw [hfail] at h
    cases h.1
  · have hgrown := (hgrows.resolve_right fun h => by rw [hok] at h; cases h.1).2
    have hpage : ∀ w, r.2.entryAt s₀.root (path w) =
        if pageNumber w = pageNumber (rangePage virt i) then
          some (pageEntry (rangePage phys i) flags) else s.entryAt s₀.root (path w) := fun w => by
      rw [hentry _ (by simp [path]), hext.page]
      simp only [path_eq_iff]
    refine .inl ⟨hok, ⟨htree, ?_, ?_⟩, ?_, fun hi j hj => ?_, fun w hw => ?_⟩
    · rw [heq]
      exact hext.kernelPml4.trans h.space.kernelPml4
    · rw [heq]
      exact hext.cr3.trans h.space.cr3
    · rw [rangeTables_succ]
      exact h.grows.trans hgrown hshort
    · rw [hpage]
      by_cases hji : j = i
      · rw [hji, if_pos rfl]
      · rw [if_neg fun heq => hji (rangePage_inj hv (by omega) (by omega) heq)]
        exact h.own (by omega) j (by omega)
    · rw [hpage, if_neg (hw i (by omega))]
      exact h.other w fun j hj => hw j (by omega)

/-- What a call leaves that ends at page `k`: this page's tables cannot be supplied, the pages
before it are not mapped, and the others are as they were. -/
structure RolledBack (src : PageSource α) (s₀ s : Vmm α) (virt : UInt64) (k : Nat) : Prop where
  space : InSpace src s₀ s
  enough : Enough src s₀ virt k
  short : ¬ Enough src s₀ virt (k + 1)
  own : ∀ j < k, s.entryAt s₀.root (path (rangePage virt j)) = none
  other : ∀ w, (∀ j < k, pageNumber w ≠ pageNumber (rangePage virt j)) →
    s.entryAt s₀.root (path w) = s₀.entryAt s₀.root (path w)

/-- **The loop of `vmm_map_pages`.** -/
lemma Ranged.mapPagesLoop (h : Ranged src s₀ s virt phys flags i) (hv : isAligned virt 4096 = true)
    (hp : isAligned phys 4096 = true) {r : Bool × Vmm α}
    (hr : Vmm.mapPagesLoop src.alloc s virt phys flags i n = r) :
    r.1 = true ∧ Ranged src s₀ r.2 virt phys flags (i + n) ∨
      r.1 = false ∧ ∃ k, k < i + n ∧ RolledBack src s₀ r.2 virt k := by
  induction n generalizing s i with
  | zero =>
    subst hr
    exact .inl ⟨rfl, h⟩
  | succ n ih =>
    obtain ⟨m, hm⟩ : ∃ m, vmmMapPage src.alloc s (rangePage virt i) (rangePage phys i) flags = m :=
      ⟨_, rfl⟩
    simp only [Vmm.mapPagesLoop, hm] at hr
    rcases h.step hv hp hm with ⟨hok, h'⟩ | ⟨hfail, hshort, hspace, hsame⟩
    · rw [hok, Bool.not_true, if_neg (by decide)] at hr
      rw [show i + (n + 1) = i + 1 + n by omega]
      exact ih h' hr
    · rw [hfail, Bool.not_false, if_pos rfl] at hr
      subst hr
      obtain ⟨hback, hnone, hkeep⟩ := hspace.rollback (j := 0) (n := i) hv rfl
      refine .inr ⟨rfl, i, by omega, hback, h.grows.given, hshort, fun j hj => ?_, fun w hw => ?_⟩
      · exact hnone _ ⟨j, Nat.zero_le j, by omega, rfl⟩
      · rw [hkeep w fun l _ hl => hw l (by omega), hsame, h.other w hw]

/-! ## All or nothing -/

/-- The range is mapped as a whole and nothing else has changed, or no page has. -/
structure AllOrNothing (src : PageSource α) (s : Vmm α) (virt phys count flags : UInt64) : Prop where
  fails : (vmmMapPages src.alloc s virt phys count flags).1 = false →
    ∀ w, SameLookup src.alloc s (vmmMapPages src.alloc s virt phys count flags).2 w
  maps : (vmmMapPages src.alloc s virt phys count flags).1 = true → ∀ i < count.toNat,
    vmmIsMapped src.alloc (vmmMapPages src.alloc s virt phys count flags).2 (rangePage virt i) = true ∧
      vmmGetPhysical src.alloc (vmmMapPages src.alloc s virt phys count flags).2 (rangePage virt i) = rangePage phys i
  others : (vmmMapPages src.alloc s virt phys count flags).1 = true →
    ∀ w, (∀ i < count.toNat, pageNumber w ≠ pageNumber (rangePage virt i)) →
      SameLookup src.alloc s (vmmMapPages src.alloc s virt phys count flags).2 w

/-- The tables can be supplied and the range is one that can be mapped; or they cannot, and the
pages up to where they run out were not mapped. -/
structure RangeOk (src : PageSource α) (s : Vmm α) (virt phys : UInt64) (count : Nat) : Prop where
  enough : Enough src s virt count → 0 < count → count ≤ 2 ^ 36 ∧ phys.toNat + 4096 * count ≤ 2 ^ 52
  short : ¬ Enough src s virt count → ∀ j < count, Enough src s virt (j + 1) →
    vmmIsMapped src.alloc s (rangePage virt j) = false

lemma vmmMapPages_unaligned (palloc : α → UInt64 × α) {count : UInt64}
    (hal : ¬ (isAligned virt 4096 = true ∧ isAligned phys 4096 = true)) :
    vmmMapPages palloc s virt phys count flags = (decide (count.toNat = 0), s) := by
  rw [vmmMapPages]
  cases count.toNat with
  | zero => rfl
  | succ n =>
    have hmap : vmmMapPage palloc s virt phys flags = (false, s) := by
      rw [vmmMapPage, vmmMapIn, if_pos]
      simpa [-not_and, not_and_or] using hal
    simp [mapPagesLoop, hmap, rollbackPages]

lemma InSpace.getPhysical_lt (h : InSpace src s₀ s) (hal : isAligned w 4096 = true) :
    (vmmGetPhysical src.alloc s w).toNat < 2 ^ 52 := by
  rw [h.getPhysical, pageOffset_of_aligned hal]
  cases s.entryAt s₀.root (path w) with
  | none => decide
  | some e =>
    rw [Option.elim_some, UInt64.or_zero, toNat_and_addrMask]
    omega

lemma Ranged.lookup (h : Ranged src s₀ s virt phys flags n) (hn : n ≤ 2 ^ 36) (hi : i < n)
    (hv : isAligned virt 4096 = true) (hp : isAligned phys 4096 = true)
    (hlt : phys.toNat + 4096 * n ≤ 2 ^ 52) :
    vmmIsMapped src.alloc s (rangePage virt i) = true ∧
      vmmGetPhysical src.alloc s (rangePage virt i) = rangePage phys i := by
  have hframe := (isAligned_page _).mp (aligned_rangePage hp i)
  rw [h.space.isMapped, h.space.getPhysical, h.own hn i hi, Option.elim_some, pageEntry_addr,
    pageOffset_of_aligned (aligned_rangePage hv i), UInt64.or_zero]
  exact ⟨rfl, and_addrMask_of_aligned hframe (by rw [toNat_rangePage]; omega)⟩

/-- A range that was mapped as asked for neither meets itself nor leaves the physical addresses. -/
lemma bounds_of_maps {count : Nat} (h : InSpace src s₀ s) (hv : isAligned virt 4096 = true)
    (hp : isAligned phys 4096 = true) (hcount : 0 < count)
    (hmaps : ∀ i < count, vmmGetPhysical src.alloc s (rangePage virt i) = rangePage phys i) :
    count ≤ 2 ^ 36 ∧ phys.toNat + 4096 * count ≤ 2 ^ 52 := by
  have hframe : ∀ i < count, (phys.toNat + 4096 * i) % 2 ^ 64 < 2 ^ 52 := fun i hi => by
    rw [← toNat_rangePage, ← hmaps i hi]
    exact h.getPhysical_lt (aligned_rangePage hv i)
  have hphys := (isAligned_page phys).mp hp
  have hle : count ≤ 2 ^ 36 := by
    by_contra hmore
    -- page `2 ^ 36` of the range is its first page again, and cannot have both frames
    have hpath : path (rangePage virt (2 ^ 36)) = path (rangePage virt 0) :=
      path_eq_iff.mpr (pageNumber_wrap hv)
    have hoff : ∀ i, pageOffset (rangePage virt i) = 0 := fun i =>
      pageOffset_of_aligned (aligned_rangePage hv i)
    have hsame : rangePage phys (2 ^ 36) = rangePage phys 0 := by
      rw [← hmaps _ (by omega), ← hmaps 0 hcount, h.getPhysical, h.getPhysical, hpath, hoff, hoff]
    rw [← UInt64.toNat_inj, toNat_rangePage, toNat_rangePage] at hsame
    omega
  have hfirst := hframe 0 hcount
  have hlast := hframe (count - 1) (by omega)
  have hlt : phys.toNat < 2 ^ 64 := phys.toNat_lt
  refine ⟨hle, ?_⟩
  omega

/-- **Mapping a range is all or nothing** exactly when the range is `RangeOk`, or not aligned. -/
theorem allOrNothing_iff (src : PageSource α) (s : Vmm α) (hs : Tree src s s.root) (virt phys count flags : UInt64) :
    AllOrNothing src s virt phys count flags ↔ (isAligned virt 4096 = true →
      isAligned phys 4096 = true → RangeOk src s virt phys count.toNat) := by
  by_cases hal : isAligned virt 4096 = true ∧ isAligned phys 4096 = true
  swap
  · have hrun : vmmMapPages src.alloc s virt phys count flags = (decide (count.toNat = 0), s) :=
      vmmMapPages_unaligned src.alloc hal
    refine ⟨fun _ hv hp => absurd ⟨hv, hp⟩ hal, fun _ => ⟨?_, ?_, ?_⟩⟩
    · rw [hrun]
      exact fun _ _ => ⟨rfl, rfl⟩
    · rw [hrun]
      intro hzero i hi
      rw [decide_eq_true_eq] at hzero
      omega
    · rw [hrun]
      exact fun _ _ _ => ⟨rfl, rfl⟩
  obtain ⟨hv, hp⟩ := hal
  obtain ⟨r, hr⟩ : ∃ r, vmmMapPages src.alloc s virt phys count flags = r := ⟨_, rfl⟩
  have hstart : Ranged src s s virt phys flags 0 := ranged_zero hs
  have hspec := hstart.mapPagesLoop hv hp hr
  rw [Nat.zero_add] at hspec
  rcases hspec with ⟨hok, hmapped⟩ | ⟨hfail, k, hk, hback⟩
  · have henough : Enough src s virt count.toNat := hmapped.grows.given
    refine ⟨fun h _ _ => ⟨fun _ hpos => ?_, fun hno => absurd henough hno⟩, fun hok' => ?_⟩
    · have hmaps := h.maps (hr ▸ hok)
      rw [hr] at hmaps
      exact bounds_of_maps hmapped.space hv hp hpos fun i hi => (hmaps i hi).2
    · have hrange := (hok' hv hp).enough henough
      refine ⟨fun hno => ?_, fun _ i hi => ?_, fun _ w hw => ?_⟩
      · rw [hr, hok] at hno
        cases hno
      · obtain ⟨hcount, hlt⟩ := hrange (by omega)
        rw [hr]
        exact hmapped.lookup hcount hi hv hp hlt
      · rw [hr]
        exact hmapped.space.sameLookup hs (hmapped.other w hw)
  · have hshort : ¬ Enough src s virt count.toNat := fun h => hback.short (h.anti hk)
    refine ⟨fun h _ _ => ⟨fun hyes => absurd hyes hshort, fun _ j _ hj => ?_⟩, fun hok' => ?_⟩
    · have hjk : j < k := by
        by_contra hle
        exact hback.short (hj.anti (by omega))
      have hsame := (h.fails (hr ▸ hfail) (rangePage virt j)).1
      rw [hr, hback.space.isMapped, hback.own j hjk] at hsame
      exact hsame.symm
    · have hclean := (hok' hv hp).short hshort
      refine ⟨fun _ w => ?_, fun hyes => ?_, fun hyes => ?_⟩
      · rw [hr]
        refine hback.space.sameLookup hs ?_
        by_cases hw : ∃ j < k, pageNumber w = pageNumber (rangePage virt j)
        · obtain ⟨j, hj, hwj⟩ := hw
          have hfree := hclean j (by omega) (hback.enough.anti hj)
          rw [hs.vmmIsMapped, Option.isSome_eq_false_iff, Option.isNone_iff_eq_none] at hfree
          rw [path_eq_iff.mpr hwj, hback.own j hj, hfree]
        · exact hback.other w fun j hj heq => hw ⟨j, hj, heq⟩
      · rw [hr, hfail] at hyes
        cases hyes
      · rw [hr, hfail] at hyes
        cases hyes

end Vmm

namespace VmmMachine

open Vmm

/-- An empty PML4 and three pages for its tables. -/
def threeTables : Vmm (List UInt64) := { blank.vmm with pages := [0x5000, 0x6000, 0x7000] }

lemma tree_threeTables : Tree scriptSource threeTables threeTables.root :=
  (inv_empty blank_empty).withAnswers (fresh_blank (by decide) (by decide))

/-- Two pages that share their tables are mapped as a whole. -/
theorem allOrNothing_threeTables : (vmmMapPages scriptAlloc threeTables 0x1000 0x8000 2 3).1 = true ∧
      AllOrNothing scriptSource threeTables 0x1000 0x8000 2 3 := by
  refine ⟨by decide, (allOrNothing_iff scriptSource threeTables tree_threeTables 0x1000 0x8000
    2 3).mpr fun _ _ => ⟨fun _ _ => by decide, fun _ j hj _ => ?_⟩⟩
  have hfree : ∀ j < (2 : UInt64).toNat,
      vmmIsMapped scriptAlloc threeTables (rangePage 0x1000 j) = false := by decide
  exact hfree j hj

/-- The last page of a page table is mapped, and no page is left for another table. -/
def lastOfTable : Vmm (List UInt64) :=
  (blank.mapPage 0x1FF000 0x8000 3 [0x5000, 0x6000, 0x7000]).2.vmm

lemma tree_lastOfTable : Tree scriptSource lastOfTable lastOfTable.root :=
  ((inv_empty blank_empty).map (fresh_blank (by decide) (by decide))).tree

/-- Mapping that page and the next fails, and unmaps it. -/
theorem not_allOrNothing_lastOfTable : ¬ ∀ (s : Vmm (List UInt64)), Tree scriptSource s s.root →
      ∀ virt phys count flags, AllOrNothing scriptSource s virt phys count flags := by
  intro hclaim
  have hall := hclaim lastOfTable tree_lastOfTable 0x1FF000 0x10000 2 3
  have hfail : (vmmMapPages scriptAlloc lastOfTable 0x1FF000 0x10000 2 3).1 = false := by
    decide
  have hbefore : vmmIsMapped scriptAlloc lastOfTable 0x1FF000 = true := by decide
  have hafter : vmmIsMapped scriptAlloc
      (vmmMapPages scriptAlloc lastOfTable 0x1FF000 0x10000 2 3).2 0x1FF000 = false := by
    decide +kernel
  have hsame : _ = _ := (hall.fails hfail 0x1FF000).1
  rw [show scriptSource.alloc = scriptAlloc from rfl, hbefore, hafter] at hsame
  cases hsame

end VmmMachine

end AAAos
