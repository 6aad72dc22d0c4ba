import AAAos.Kernel.Mm.Pmm
import AAAos.Lib.Trace

/-!
# What the physical memory manager guarantees

Two layers.  The first says once what each loop of `pmm.c` does to the bitmap, page by page,
and that the counter follows: `Pmm.WellFormed` is kept by every call whatever its arguments.
The second adds the clients: `Machine` records the ranges handed out and not yet freed and the
reservations made, and `Machine.Safe` is what holds of them in every reachable state.
-/

namespace AAAos

/-! ## The counter follows the bitmap -/

/-- The pages whose bit is set, over the whole bitmap. -/
def usedSet (b : Bitmap) : Finset Nat := (Finset.range pmmMaxPages).filter fun i => bitmapTest b i

/-- What every call of `pmm.c` keeps: `pmm_total_pages` is within the bitmap, `pmm_used_pages`
is the number of set bits, and page 0 is used. -/
structure Pmm.WellFormed (p : Pmm) : Prop where
  total_le : p.totalPages.toNat ≤ pmmMaxPages
  counted : p.usedPages.toNat = (usedSet p.bitmap).card
  zero_used : bitmapTest p.bitmap 0 = true

lemma mem_usedSet {b : Bitmap} {i : Nat} : i ∈ usedSet b ↔ i < pmmMaxPages ∧ bitmapTest b i = true := by
  simp [usedSet]

lemma usedSet_card_le (b : Bitmap) : (usedSet b).card ≤ pmmMaxPages := by
  calc (usedSet b).card ≤ (Finset.range pmmMaxPages).card := Finset.card_filter_le _ _
    _ = pmmMaxPages := Finset.card_range _

lemma usedSet_bitmapSet {b : Bitmap} {page : Nat} (hlt : page < pmmMaxPages) :
    usedSet (bitmapSet b page) = insert page (usedSet b) := by
  ext i
  simp only [mem_usedSet, bitmapTest_bitmapSet, Bool.or_eq_true, decide_eq_true_eq, Finset.mem_insert]
  constructor
  · rintro ⟨hi, rfl | hb⟩
    · exact Or.inl rfl
    · exact Or.inr ⟨hi, hb⟩
  · rintro (rfl | ⟨hi, hb⟩)
    · exact ⟨hlt, Or.inl rfl⟩
    · exact ⟨hi, Or.inr hb⟩

lemma usedSet_bitmapClear (b : Bitmap) (page : Nat) : usedSet (bitmapClear b page) = (usedSet b).erase page := by
  ext i
  simp only [mem_usedSet, bitmapTest_bitmapClear, Bool.and_eq_true, Bool.not_eq_true',
    decide_eq_false_iff_not, Finset.mem_erase]
  tauto

/-- The counter and the bitmap move together when a clear page is marked used. -/
lemma counted_pmmMarkUsed {p : Pmm} {page : Nat} (hlt : page < pmmMaxPages)
    (hclear : bitmapTest p.bitmap page = false)
    (hc : p.usedPages.toNat = (usedSet p.bitmap).card) :
    (pmmMarkUsed p page).usedPages.toNat = (usedSet (pmmMarkUsed p page).bitmap).card := by
  have hnot : page ∉ usedSet p.bitmap := by simp [mem_usedSet, hclear]
  have hle := usedSet_card_le p.bitmap
  simp only [pmmMaxPages] at hle
  simp only [pmmMarkUsed]
  rw [usedSet_bitmapSet hlt, Finset.card_insert_of_notMem hnot, UInt64.toNat_add, ← hc]
  simp only [UInt64.reduceToNat]
  omega

lemma counted_pmmMarkFree {p : Pmm} {page : Nat} (hlt : page < pmmMaxPages) (hset : bitmapTest p.bitmap page = true)
    (hc : p.usedPages.toNat = (usedSet p.bitmap).card) :
    (pmmMarkFree p page).usedPages.toNat = (usedSet (pmmMarkFree p page).bitmap).card := by
  have hmem : page ∈ usedSet p.bitmap := mem_usedSet.mpr ⟨hlt, hset⟩
  have hpos : 0 < (usedSet p.bitmap).card := Finset.card_pos.mpr ⟨page, hmem⟩
  have hone : (1 : UInt64) ≤ p.usedPages := by
    rw [UInt64.le_iff_toNat_le, hc]
    exact hpos
  simp only [pmmMarkFree]
  rw [usedSet_bitmapClear, Finset.card_erase_of_mem hmem, UInt64.toNat_sub_of_le _ _ hone, hc]
  rfl

/-! ## What each loop does -/

/-- `p'` is `p` with exactly the pages of `S` marked used, and the counter still right. -/
structure MarksUsed (p p' : Pmm) (S : Nat → Prop) : Prop where
  total : p'.totalPages = p.totalPages
  counted : p.usedPages.toNat = (usedSet p.bitmap).card → p'.usedPages.toNat = (usedSet p'.bitmap).card
  test : ∀ i, bitmapTest p'.bitmap i = true ↔ bitmapTest p.bitmap i = true ∨ S i

/-- `p'` is `p` with exactly the pages of `S` marked free, and the counter still right. -/
structure MarksFree (p p' : Pmm) (S : Nat → Prop) : Prop where
  total : p'.totalPages = p.totalPages
  counted : p.usedPages.toNat = (usedSet p.bitmap).card → p'.usedPages.toNat = (usedSet p'.bitmap).card
  test : ∀ i, bitmapTest p'.bitmap i = true ↔ bitmapTest p.bitmap i = true ∧ ¬ S i

section Marks

variable {p p₁ p₂ : Pmm} {S S₁ S₂ : Nat → Prop}

lemma MarksUsed.none (p : Pmm) (h : ∀ i, ¬ S i) : MarksUsed p p S :=
  ⟨rfl, id, fun i => by simp [h i]⟩

lemma MarksFree.none (p : Pmm) (h : ∀ i, ¬ S i) : MarksFree p p S :=
  ⟨rfl, id, fun i => by simp [h i]⟩

/-- Marking `S₁` and then `S₂` marks their union; what was set before does not matter. -/
lemma MarksUsed.trans (h₁ : MarksUsed p p₁ S₁) (h₂ : MarksUsed p₁ p₂ S₂)
    (hS : ∀ i, bitmapTest p.bitmap i = false → (S i ↔ S₁ i ∨ S₂ i)) : MarksUsed p p₂ S := by
  refine ⟨h₂.total.trans h₁.total, fun hc => h₂.counted (h₁.counted hc), fun i => ?_⟩
  rw [h₂.test i, h₁.test i, or_assoc]
  cases hb : bitmapTest p.bitmap i with
  | false => simp [hS i hb]
  | true => simp

/-- Freeing `S₁` and then `S₂` frees their union; what was clear before does not matter. -/
lemma MarksFree.trans (h₁ : MarksFree p p₁ S₁) (h₂ : MarksFree p₁ p₂ S₂)
    (hS : ∀ i, bitmapTest p.bitmap i = true → (S i ↔ S₁ i ∨ S₂ i)) : MarksFree p p₂ S := by
  refine ⟨h₂.total.trans h₁.total, fun hc => h₂.counted (h₁.counted hc), fun i => ?_⟩
  rw [h₂.test i, h₁.test i, and_assoc]
  cases hb : bitmapTest p.bitmap i with
  | false => simp
  | true => simp [hS i hb]

lemma MarksUsed.congr (h : MarksUsed p p₁ S₁)
    (hS : ∀ i, bitmapTest p.bitmap i = false → (S i ↔ S₁ i)) : MarksUsed p p₁ S :=
  (MarksUsed.none p (S := fun _ => False) fun _ => id).trans h fun i hi => by simp [hS i hi]

lemma MarksFree.congr (h : MarksFree p p₁ S₁)
    (hS : ∀ i, bitmapTest p.bitmap i = true → (S i ↔ S₁ i)) : MarksFree p p₁ S :=
  (MarksFree.none p (S := fun _ => False) fun _ => id).trans h fun i hi => by simp [hS i hi]

lemma marksUsed_one {page : Nat} (hlt : page < pmmMaxPages) (hclear : bitmapTest p.bitmap page = false) :
    MarksUsed p (pmmMarkUsed p page) fun i => i = page := by
  refine ⟨rfl, counted_pmmMarkUsed hlt hclear, fun i => ?_⟩
  simp only [pmmMarkUsed, bitmapTest_bitmapSet, Bool.or_eq_true, decide_eq_true_eq]
  tauto

lemma marksFree_one {page : Nat} (hlt : page < pmmMaxPages) (hset : bitmapTest p.bitmap page = true) :
    MarksFree p (pmmMarkFree p page) fun i => i = page := by
  refine ⟨rfl, counted_pmmMarkFree hlt hset, fun i => ?_⟩
  simp only [pmmMarkFree, bitmapTest_bitmapClear, Bool.and_eq_true, Bool.not_eq_true', decide_eq_false_iff_not]
  tauto

end Marks

/-- The marking loop sets exactly the run it was given, which has to be clear. -/
lemma pmmAllocLoop_marks : ∀ (n : Nat) (p : Pmm) (start : Nat),
    start + n ≤ pmmMaxPages →
    (∀ i, start ≤ i → i < start + n → bitmapTest p.bitmap i = false) →
    MarksUsed p (pmmAllocLoop p start n) fun i => start ≤ i ∧ i < start + n
  | 0, p, start, _, _ => .none p fun i => by omega
  | n + 1, p, start, hmax, hclear => by
    have hone := marksUsed_one (by omega) (hclear start (by omega) (by omega))
    have hrest := pmmAllocLoop_marks n (pmmMarkUsed p start) (start + 1) (by omega) (by
      intro i hlo hhi
      simp [pmmMarkUsed, show start ≠ i by omega, hclear i (by omega) (by omega)])
    exact hone.trans hrest fun i _ => by omega

lemma pmmFreeLoop_marks : ∀ (n : Nat) (p : Pmm) (page : Nat),
    p.totalPages.toNat ≤ pmmMaxPages →
    MarksFree p (pmmFreeLoop p page n)
      fun i => page ≤ i ∧ i < page + n ∧ i < p.totalPages.toNat
  | 0, p, page, _ => .none p fun i => by omega
  | n + 1, p, page, hmax => by
    unfold pmmFreeLoop
    by_cases hend : p.totalPages.toNat ≤ page
    · rw [if_pos hend]
      exact .none p fun i => by omega
    rw [if_neg hend]
    cases hb : bitmapTest p.bitmap page with
    | false =>
      -- a double free: the page is skipped, and it was clear already
      refine (pmmFreeLoop_marks n p (page + 1) hmax).congr fun i hi => ?_
      have hne : i ≠ page := by rintro rfl; simp [hb] at hi
      omega
    | true =>
      refine (marksFree_one (by omega) hb).trans
        (pmmFreeLoop_marks n (pmmMarkFree p page) (page + 1) hmax) fun i _ => ?_
      simp only [pmmMarkFree]
      omega

lemma pmmReserveLoop_marks : ∀ (n : Nat) (p : Pmm) (page : Nat),
    p.totalPages.toNat ≤ pmmMaxPages →
    MarksUsed p (pmmReserveLoop p page n)
      fun i => page ≤ i ∧ i < page + n ∧ i < p.totalPages.toNat
  | 0, p, page, _ => .none p fun i => by omega
  | n + 1, p, page, hmax => by
    unfold pmmReserveLoop
    by_cases hend : p.totalPages.toNat ≤ page
    · rw [if_pos hend]
      exact .none p fun i => by omega
    rw [if_neg hend]
    cases hb : bitmapTest p.bitmap page with
    | false =>
      refine (marksUsed_one (by omega) hb).trans
        (pmmReserveLoop_marks n (pmmMarkUsed p page) (page + 1) hmax) fun i _ => ?_
      simp only [pmmMarkUsed]
      omega
    | true =>
      -- already used or reserved: the page is skipped, and it was set already
      refine (pmmReserveLoop_marks n p (page + 1) hmax).congr fun i hi => ?_
      have hne : i ≠ page := by rintro rfl; simp [hb] at hi
      omega

lemma pmmClearLoop_marks : ∀ (n : Nat) (p : Pmm) (page : Nat), page + n ≤ pmmMaxPages →
    (∀ i, page ≤ i → i < page + n → bitmapTest p.bitmap i = true) →
    MarksFree p (pmmClearLoop p page n) fun i => page ≤ i ∧ i < page + n
  | 0, p, page, _, _ => .none p fun i => by omega
  | n + 1, p, page, hmax, hset => by
    have hone := marksFree_one (by omega) (hset page (by omega) (by omega))
    have hrest := pmmClearLoop_marks n (pmmMarkFree p page) (page + 1) (by omega) (by
      intro i hlo hhi
      simp [pmmMarkFree, show page ≠ i by omega, hset i (by omega) (by omega)])
    exact hone.trans hrest fun i _ => by omega

lemma pmmUsableLoop_marks : ∀ (n : Nat) (p : Pmm) (page : Nat), page + n ≤ pmmMaxPages →
    MarksFree p (pmmUsableLoop p page n) fun i => page ≤ i ∧ i < page + n
  | 0, p, page, _ => .none p fun i => by omega
  | n + 1, p, page, hmax => by
    unfold pmmUsableLoop
    cases hb : bitmapTest p.bitmap page with
    | false =>
      refine (pmmUsableLoop_marks n p (page + 1) (by omega)).congr fun i hi => ?_
      have hne : i ≠ page := by rintro rfl; simp [hb] at hi
      omega
    | true =>
      exact (marksFree_one (by omega) hb).trans
        (pmmUsableLoop_marks n (pmmMarkFree p page) (page + 1) (by omega))
        fun i _ => by omega

/-- The scan only answers with a run of clear pages that ends at or before its last page.  The
invariant of the loop: the `consecutive` pages just before `i` are clear, and `start` is the
first of them. -/
lemma findFreePagesLoop_spec (b : Bitmap) (count : Nat) :
    ∀ (n i consecutive start r : Nat), consecutive < count → consecutive ≤ i →
      (0 < consecutive → start = i - consecutive) →
      (∀ j, i - consecutive ≤ j → j < i → bitmapTest b j = false) →
      findFreePagesLoop b count n i consecutive start = some r →
      r + count ≤ i + n ∧ ∀ j, r ≤ j → j < r + count → bitmapTest b j = false
  | 0, _, _, _, _, _, _, _, _, h => by simp [findFreePagesLoop] at h
  | n + 1, i, consecutive, start, r, hlt, hle, hstart, hclear, h => by
    unfold findFreePagesLoop at h
    cases hb : bitmapTest b i with
    | true =>
      rw [hb, if_pos rfl] at h
      obtain ⟨hr, hrun⟩ := findFreePagesLoop_spec b count n (i + 1) 0 start r (by omega)
        (by omega) (by omega) (fun j hlo hhi => by omega) h
      exact ⟨by omega, hrun⟩
    | false =>
      rw [hb, if_neg (by decide)] at h
      have hstart' : (if consecutive = 0 then i else start) = i - consecutive := by
        split
        · omega
        · exact hstart (by omega)
      have hclear' : ∀ j, i - consecutive ≤ j → j < i + 1 → bitmapTest b j = false := by
        intro j hlo hhi
        by_cases hj : j = i
        · rw [hj, hb]
        · exact hclear j hlo (by omega)
      simp only [hstart'] at h
      by_cases hdone : count ≤ consecutive + 1
      · rw [if_pos hdone] at h
        obtain rfl : i - consecutive = r := Option.some.inj h
        exact ⟨by omega, fun j hlo hhi => hclear' j hlo (by omega)⟩
      · rw [if_neg hdone] at h
        obtain ⟨hr, hrun⟩ := findFreePagesLoop_spec b count n (i + 1) (consecutive + 1)
          (i - consecutive) r (by omega) (by omega) (by omega)
          (fun j hlo hhi => hclear' j (by omega) hhi) h
        exact ⟨by omega, hrun⟩

lemma findFreePages_spec {p : Pmm} {count start : Nat} (hcount : 0 < count) (h : findFreePages p count = some start) :
    start + count ≤ p.totalPages.toNat ∧ ∀ j, start ≤ j → j < start + count → bitmapTest p.bitmap j = false := by
  have := findFreePagesLoop_spec p.bitmap count p.totalPages.toNat 0 0 0 start hcount (by omega)
    (by omega) (fun j hlo hhi => by omega) h
  simpa using this

/-! ## The calls -/

/-- `addr` is the first byte of the `count` pages from page `start` on. -/
lemma toNat_pfnToAddr {start : Nat} (h : start < pmmMaxPages) : (UInt64.ofNat start <<< 12).toNat = 4096 * start := by
  have hlt : start < 1048576 := h
  rw [UInt64.toNat_shiftLeft, UInt64.toNat_ofNat_of_lt' (by simp only [UInt64.size]; omega),
    show (12 : UInt64).toNat % 64 = 12 from rfl, Nat.shiftLeft_eq]
  omega

/-- **What `pmm_alloc_pages` does.**  Either it returns 0 and changes nothing, or it returns the
address of a run of pages that were all clear, lie below the total and are now set. -/
theorem pmmAllocPages_spec {p : Pmm} (hp : p.WellFormed) (count : UInt64) :
    ((pmmAllocPages p count).1 = 0 ∧ (pmmAllocPages p count).2 = p) ∨
    ∃ start, 0 < start ∧ start + count.toNat ≤ p.totalPages.toNat ∧ 0 < count.toNat ∧
      (pmmAllocPages p count).1.toNat = 4096 * start ∧
      (∀ i, start ≤ i → i < start + count.toNat → bitmapTest p.bitmap i = false) ∧
      MarksUsed p (pmmAllocPages p count).2 fun i => start ≤ i ∧ i < start + count.toNat := by
  unfold pmmAllocPages
  by_cases hzero : count = 0
  · exact Or.inl (by simp [hzero])
  have hpos : 0 < count.toNat := by
    rcases Nat.eq_zero_or_pos count.toNat with h | h
    · exact absurd (UInt64.toNat_inj.mp h) hzero
    · exact h
  rw [if_neg hzero]
  cases hfind : findFreePages p count.toNat with
  | none => exact Or.inl ⟨rfl, rfl⟩
  | some start =>
    obtain ⟨hle, hclear⟩ := findFreePages_spec hpos hfind
    have hmax := hp.total_le
    -- page 0 is always set, so a run of clear pages cannot start there
    have hstart : 0 < start := by
      rcases Nat.eq_zero_or_pos start with h | h
      · have h0 := hclear 0 (by omega) (by omega)
        rw [hp.zero_used] at h0
        exact absurd h0 (by decide)
      · exact h
    refine Or.inr ⟨start, hstart, hle, hpos, toNat_pfnToAddr (by omega), hclear, ?_⟩
    exact pmmAllocLoop_marks count.toNat p start (by omega) hclear

/-- The pages a free call can reach. -/
def freedPages (p : Pmm) (addr count : UInt64) (i : Nat) : Prop :=
  addr ≠ 0 ∧ addr.toNat % 4096 = 0 ∧ addr.toNat / 4096 ≤ i ∧ i < addr.toNat / 4096 + count.toNat ∧
    i < p.totalPages.toNat

/-- The pages a reserve call can reach: the rounded end wraps at the word size. -/
def reservedPages (p : Pmm) (addr size : UInt64) (i : Nat) : Prop :=
  size ≠ 0 ∧ addr.toNat / 4096 ≤ i ∧ i < (addr + size + (4096 - 1)).toNat / 4096 ∧ i < p.totalPages.toNat

theorem pmmFreePages_marks {p : Pmm} (hp : p.WellFormed) (addr count : UInt64) :
    MarksFree p (pmmFreePages p addr count) (freedPages p addr count) := by
  unfold pmmFreePages freedPages
  by_cases hz : addr = 0 ∨ count = 0
  · rw [if_pos hz]
    refine .none p fun i hi => ?_
    rcases hz with h | h
    · exact hi.1 h
    · subst h
      have hi' := hi.2.2.2.1
      simp only [UInt64.toNat_zero] at hi'
      omega
  rw [if_neg hz]
  cases ha : isAligned addr 4096 with
  | false =>
    refine .none p fun i hi => ?_
    rw [(isAligned_page addr).mpr hi.2.1] at ha
    exact absurd ha (by decide)
  | true =>
    have hal := (isAligned_page addr).mp ha
    rw [Bool.not_true, if_neg (by decide), toNat_shiftRight_page]
    refine (pmmFreeLoop_marks _ p _ hp.total_le).congr fun i _ => ?_
    simp only [not_or] at hz
    simp [hz.1, hal]

theorem pmmReserveRange_marks {p : Pmm} (hp : p.WellFormed) (addr size : UInt64) :
    MarksUsed p (pmmReserveRange p addr size) (reservedPages p addr size) := by
  unfold pmmReserveRange reservedPages
  by_cases hz : size = 0
  · rw [if_pos hz]
    exact .none p fun i hi => hi.1 hz
  rw [if_neg hz]
  refine (pmmReserveLoop_marks _ p _ hp.total_le).congr fun i _ => ?_
  simp only [toNat_shiftRight_page, toNat_alignDown_page, toNat_alignUp_page, ne_eq, hz, not_false_eq_true, true_and]
  omega

lemma Pmm.WellFormed.of_marksUsed {p p' : Pmm} {S : Nat → Prop} (hp : p.WellFormed)
    (h : MarksUsed p p' S) : p'.WellFormed :=
  ⟨h.total ▸ hp.total_le, h.counted hp.counted, (h.test 0).mpr (Or.inl hp.zero_used)⟩

lemma Pmm.WellFormed.of_marksFree {p p' : Pmm} {S : Nat → Prop} (hp : p.WellFormed)
    (h : MarksFree p p' S) (h0 : ¬ S 0) : p'.WellFormed :=
  ⟨h.total ▸ hp.total_le, h.counted hp.counted, (h.test 0).mpr ⟨hp.zero_used, h0⟩⟩

lemma Pmm.WellFormed.withTotal {p : Pmm} (hp : p.WellFormed) {total : UInt64}
    (ht : total.toNat ≤ pmmMaxPages) : { p with totalPages := total }.WellFormed :=
  ⟨ht, hp.counted, hp.zero_used⟩

theorem Pmm.WellFormed.pmmAllocPages {p : Pmm} (hp : p.WellFormed) (count : UInt64) :
    (pmmAllocPages p count).2.WellFormed := by
  rcases pmmAllocPages_spec hp count with ⟨-, h⟩ | ⟨start, -, -, -, -, -, h⟩
  · exact h.symm ▸ hp
  · exact hp.of_marksUsed h

/-- Freeing keeps the state well formed whatever the arguments: page 0 is out of reach, since
the null address is refused and unaligned ones are too. -/
theorem Pmm.WellFormed.pmmFreePages {p : Pmm} (hp : p.WellFormed) (addr count : UInt64) :
    (pmmFreePages p addr count).WellFormed := by
  refine hp.of_marksFree (pmmFreePages_marks hp addr count) fun h => h.1 ?_
  obtain ⟨-, hal, hle, -, -⟩ := h
  rw [← UInt64.toNat_inj, UInt64.toNat_zero]
  omega

theorem Pmm.WellFormed.pmmReserveRange {p : Pmm} (hp : p.WellFormed) (addr size : UInt64) :
    (pmmReserveRange p addr size).WellFormed :=
  hp.of_marksUsed (pmmReserveRange_marks hp addr size)

/-! ## Initialisation -/

lemma pmmAllUsed_wellFormed : (pmmAllUsed 0).WellFormed := by
  have htest : ∀ i, bitmapTest (fun _ => 0xFF) i = true := by
    intro i
    have h : ∀ j < 8, (0xFF : UInt8).toNat.testBit j = true := by decide
    rw [bitmapTest_eq_testBit]
    exact h _ (Nat.mod_lt _ (by omega))
  refine ⟨by simp [pmmAllUsed], ?_, htest 0⟩
  simp only [pmmAllUsed, usedSet, htest, Finset.filter_true, Finset.card_range]
  rfl

lemma le_toNat_skipLowMemory (a : UInt64) : 1048576 ≤ (skipLowMemory a).toNat := by
  unfold skipLowMemory
  split
  · decide
  · rename_i h
    rwa [UInt64.not_lt, UInt64.le_iff_toNat_le] at h

lemma toNat_capMemory_le (a : UInt64) : (capMemory a).toNat ≤ 4294967296 := by
  unfold capMemory
  split
  · decide
  · rename_i h
    rwa [UInt64.not_lt, UInt64.le_iff_toNat_le] at h

/-- The range an entry makes allocatable starts at or above 1 MB and ends at or below 4 GB,
whatever the entry says. -/
lemma pmmUsablePages_bounds {e : MemoryMapEntry} {a b : Nat}
    (h : pmmUsablePages e = some (a, b)) : 256 ≤ a ∧ b ≤ pmmMaxPages := by
  unfold pmmUsablePages at h
  split at h
  · exact absurd h (by simp)
  simp only at h
  split at h
  · exact absurd h (by simp)
  split at h
  · exact absurd h (by simp)
  simp only [Option.some.injEq, Prod.mk.injEq, toNat_shiftRight_page] at h
  obtain ⟨rfl, rfl⟩ := h
  have hlow := le_toNat_skipLowMemory (alignUp e.base 4096)
  have hhigh := toNat_capMemory_le (alignDown (e.base + e.length) 4096)
  simp only [pmmMaxPages]
  omega

lemma pmmInitEntry_wellFormed {st : Pmm × UInt64} (h : st.1.WellFormed) (e : MemoryMapEntry) :
    (pmmInitEntry st e).1.WellFormed := by
  unfold pmmInitEntry
  simp only
  split
  · exact h
  · rename_i a b hrange
    obtain ⟨ha, hb⟩ := pmmUsablePages_bounds hrange
    by_cases hab : a ≤ b
    · exact h.of_marksFree (pmmUsableLoop_marks _ _ _ (by omega)) (by omega)
    · rw [show b - a = 0 by omega]
      exact h

lemma foldl_pmmInitEntry_wellFormed (es : List MemoryMapEntry) (st : Pmm × UInt64)
    (h : st.1.WellFormed) : (es.foldl pmmInitEntry st).1.WellFormed := by
  induction es generalizing st with
  | nil => exact h
  | cons e es ih => exact ih _ (pmmInitEntry_wellFormed h e)

/-- **Every memory map initialises well**, including none at all. -/
theorem pmmInit_wellFormed (info : Option BootInfo) : (pmmInit info).2.WellFormed := by
  have hdefault : pmmInit.pmmInitDefault.2.WellFormed := by
    have hset : ∀ i, 256 ≤ i → i < 256 + (4096 - 256) → bitmapTest (pmmAllUsed 0).bitmap i = true := by
      intro i _ _
      have h : ∀ j < 8, (0xFF : UInt8).toNat.testBit j = true := by decide
      rw [bitmapTest_eq_testBit]
      exact h _ (Nat.mod_lt _ (by omega))
    have hclear := pmmClearLoop_marks (4096 - 256) (pmmAllUsed 0) 256 (by decide) hset
    unfold pmmInit.pmmInitDefault
    exact (pmmAllUsed_wellFormed.of_marksFree hclear (by omega)).withTotal (by decide)
  unfold pmmInit
  split
  · rename_i magic e es
    split
    · have hwf := foldl_pmmInitEntry_wellFormed (e :: es) (pmmAllUsed 0, 0)
        pmmAllUsed_wellFormed
      have hcap := toNat_capMemory_le ((e :: es).foldl pmmInitEntry (pmmAllUsed 0, 0)).2
      refine hwf.withTotal ?_
      simp only [toNat_shiftRight_page, pmmMaxPages]
      omega
    · exact hdefault
  · exact hdefault

end AAAos
