import AAAos.Kernel.Mm.PmmClients

/-!
# First fit

`find_free_pages` passes over the bitmap once and keeps the length of the run of clear bits that
ends where it stands.  It answers the lowest run that is long enough, and none only when there is
none (`findFreePages_eq_some_iff`).

**What the address says.**  `pmm_alloc_pages` turns the first page of the run into an address, and
`0` is its answer for a failure.  A run that begins at page 0 is therefore taken and reported as a
failure, and `pmm_free_pages` refuses its address.  `pmm_init` never clears page 0 and no call
brings it back, so this run is not met (`firstFit_of_steps`).
-/

namespace AAAos

/-- `count` consecutive clear bits from page `start` on, below the total. -/
def ClearRun (p : Pmm) (count start : Nat) : Prop :=
  start + count ≤ p.totalPages.toNat ∧ ∀ i, start ≤ i → i < start + count → bitmapTest p.bitmap i = false

/-- The lowest of these runs. -/
def FirstRun (p : Pmm) (count start : Nat) : Prop :=
  ClearRun p count start ∧ ∀ t, ClearRun p count t → start ≤ t

/-! ## The scan -/

/-- The invariant of the scan: the `consecutive` pages just before `i` are clear, `start` is the
first of them, and no run begins before them. -/
lemma findFreePagesLoop_first {p : Pmm} {count n i consecutive start : Nat} (hlt : consecutive < count)
    (hle : consecutive ≤ i) (hend : i + n = p.totalPages.toNat)
    (hstart : 0 < consecutive → start = i - consecutive)
    (hclear : ∀ j, i - consecutive ≤ j → j < i → bitmapTest p.bitmap j = false)
    (hnone : ∀ t, ClearRun p count t → i - consecutive ≤ t) :
    (findFreePagesLoop p.bitmap count n i consecutive start = none ∧ ∀ t, ¬ ClearRun p count t) ∨
      ∃ r, findFreePagesLoop p.bitmap count n i consecutive start = some r ∧ FirstRun p count r := by
  induction n generalizing i consecutive start with
  | zero =>
    refine .inl ⟨rfl, fun t ht => ?_⟩
    have hfrom := hnone t ht
    have hfits := ht.1
    omega
  | succ n ih =>
    rw [findFreePagesLoop]
    cases hb : bitmapTest p.bitmap i with
    | true =>
      -- a run that begins among the clear pages would have to pass over page `i`
      refine ih (by omega) (by omega) (by omega) (by omega) (fun j _ _ => by omega) fun t ht => ?_
      by_contra hbefore
      have hfrom := hnone t ht
      have hset := ht.2 i (by omega) (by omega)
      rw [hb] at hset
      cases hset
    | false =>
      have hstart' : (if consecutive = 0 then i else start) = i - consecutive := by
        split_ifs with hzero
        · omega
        · exact hstart (by omega)
      have hclear' : ∀ j, i - consecutive ≤ j → j < i + 1 → bitmapTest p.bitmap j = false := by
        intro j hlo hhi
        by_cases hj : j = i
        · rw [hj, hb]
        · exact hclear j hlo (by omega)
      simp only [hstart', Bool.false_eq_true, if_false]
      by_cases hdone : count ≤ consecutive + 1
      · refine .inr ⟨i - consecutive, if_pos hdone, ⟨by omega, fun j hlo hhi => ?_⟩, hnone⟩
        exact hclear' j hlo (by omega)
      · rw [if_neg hdone]
        have hfirst : i + 1 - (consecutive + 1) = i - consecutive := by omega
        exact ih (by omega) (by omega) (by omega) (fun _ => hfirst.symm)
          (fun j hlo hhi => hclear' j (by omega) hhi) (by rwa [hfirst])

/-- `find_free_pages` answers the lowest run, or none when there is none. -/
lemma findFreePages_first (p : Pmm) {count : Nat} (hcount : 0 < count) :
    (findFreePages p count = none ∧ ∀ t, ¬ ClearRun p count t) ∨
      ∃ r, findFreePages p count = some r ∧ FirstRun p count r :=
  findFreePagesLoop_first hcount le_rfl (Nat.zero_add _) (fun h => absurd h (lt_irrefl 0))
    (fun j _ _ => by omega) fun t _ => Nat.zero_le t

lemma FirstRun.unique {p : Pmm} {count s t : Nat} (hs : FirstRun p count s)
    (ht : FirstRun p count t) : s = t := le_antisymm (hs.2 t ht.1) (ht.2 s hs.1)

lemma findFreePages_eq_some_iff (p : Pmm) {count start : Nat} (hcount : 0 < count) :
    findFreePages p count = some start ↔ FirstRun p count start := by
  rcases findFreePages_first p hcount with ⟨hfind, hnone⟩ | ⟨r, hfind, hr⟩
  · rw [hfind]
    exact ⟨fun h => absurd h (by simp), fun h => absurd h.1 (hnone start)⟩
  · rw [hfind, Option.some.injEq]
    exact ⟨fun h => h ▸ hr, hr.unique⟩

lemma findFreePages_eq_none_iff (p : Pmm) {count : Nat} (hcount : 0 < count) :
    findFreePages p count = none ↔ ∀ t, ¬ ClearRun p count t := by
  rcases findFreePages_first p hcount with ⟨hfind, hnone⟩ | ⟨r, hfind, hr⟩
  · exact ⟨fun _ => hnone, fun _ => hfind⟩
  · rw [hfind]
    exact ⟨fun h => absurd h (by simp), fun h => absurd hr.1 (h r)⟩

/-! ## Marking a run and freeing it -/

lemma bitmap_ext {b b' : Bitmap} (h : ∀ i, bitmapTest b i = bitmapTest b' i) : b = b' := by
  funext k
  refine UInt8.toNat_inj.mp (Nat.eq_of_testBit_eq fun j => ?_)
  by_cases hj : j < 8
  · have hbit := h (8 * k + j)
    rw [bitmapTest_eq_testBit, bitmapTest_eq_testBit, show (8 * k + j) / 8 = k by omega,
      show (8 * k + j) % 8 = j by omega] at hbit
    exact hbit
  · have hbig : 2 ^ 8 ≤ 2 ^ j := Nat.pow_le_pow_right (by omega) (by omega)
    rw [Nat.testBit_lt_two_pow (lt_of_lt_of_le (b k).toNat_lt hbig),
      Nat.testBit_lt_two_pow (lt_of_lt_of_le (b' k).toNat_lt hbig)]

/-- `q` is `p` with the bits from page `start` on for `n` pages set to `v`, and the counter moved
by `n` accordingly. -/
structure RunSet (p q : Pmm) (start n : Nat) (v : Bool) : Prop where
  total : q.totalPages = p.totalPages
  test : ∀ i, bitmapTest q.bitmap i = if start ≤ i ∧ i < start + n then v else bitmapTest p.bitmap i
  used : q.usedPages = if v then p.usedPages + UInt64.ofNat n else p.usedPages - UInt64.ofNat n

lemma pmmAllocLoop_run (p : Pmm) (start n : Nat) : RunSet p (pmmAllocLoop p start n) start n true := by
  induction n generalizing p start with
  | zero => exact ⟨rfl, fun i => (if_neg (by omega)).symm, by simp [pmmAllocLoop]⟩
  | succ n ih =>
    have hrest := ih (pmmMarkUsed p start) (start + 1)
    rw [pmmAllocLoop]
    refine ⟨hrest.total, fun i => ?_, ?_⟩
    · rw [hrest.test]
      simp only [pmmMarkUsed, bitmapTest_bitmapSet]
      by_cases hi : start = i
      · simp [hi]
      · have hrun : (start + 1 ≤ i ∧ i < start + 1 + n) ↔ start ≤ i ∧ i < start + (n + 1) := by omega
        rw [if_congr hrun rfl rfl]
        simp [hi]
    · rw [hrest.used]
      simp only [pmmMarkUsed, if_true, UInt64.ofNat_add, UInt64.ofNat_one, add_assoc]
      rw [add_comm 1]

lemma pmmFreeLoop_run (p : Pmm) (start n : Nat) (htotal : start + n ≤ p.totalPages.toNat)
    (hset : ∀ i, start ≤ i → i < start + n → bitmapTest p.bitmap i = true) :
    RunSet p (pmmFreeLoop p start n) start n false := by
  induction n generalizing p start with
  | zero => exact ⟨rfl, fun i => (if_neg (by omega)).symm, by simp [pmmFreeLoop]⟩
  | succ n ih =>
    have hfirst := hset start le_rfl (by omega)
    have hrest := ih (pmmMarkFree p start) (start + 1) (by simp only [pmmMarkFree]; omega) (by
      intro i hlo hhi
      simp [pmmMarkFree, show start ≠ i by omega, hset i (by omega) (by omega)])
    rw [pmmFreeLoop, if_neg (by omega), hfirst]
    refine ⟨hrest.total, fun i => ?_, ?_⟩
    · rw [Bool.not_true, if_neg (by decide), hrest.test]
      simp only [pmmMarkFree, bitmapTest_bitmapClear]
      by_cases hi : start = i
      · simp [hi]
      · have hrun : (start + 1 ≤ i ∧ i < start + 1 + n) ↔ start ≤ i ∧ i < start + (n + 1) := by omega
        rw [if_congr hrun rfl rfl]
        simp [hi]
    · rw [Bool.not_true, if_neg (by decide), hrest.used]
      simp only [pmmMarkFree, Bool.false_eq_true, if_false, UInt64.ofNat_add, UInt64.ofNat_one]
      rw [add_comm, sub_add_eq_sub_sub]

lemma RunSet.restore {p q r : Pmm} {start n : Nat} (h₁ : RunSet p q start n true) (h₂ : RunSet q r start n false)
    (hclear : ∀ i, start ≤ i → i < start + n → bitmapTest p.bitmap i = false) : r = p := by
  have hbitmap : r.bitmap = p.bitmap := bitmap_ext fun i => by
    rw [h₂.test, h₁.test]
    split_ifs with hi
    · exact (hclear i hi.1 hi.2).symm
    · rfl
  have hused : r.usedPages = p.usedPages := by
    rw [h₂.used, h₁.used]
    exact add_sub_cancel_right _ _
  cases r
  cases p
  simp only [Pmm.mk.injEq]
  exact ⟨hbitmap, h₂.total.trans h₁.total, hused⟩

/-! ## Allocation -/

/-- First-fit allocation of `count` pages in `p`: it fails exactly when no run is long enough, and
else answers the address of the lowest one and sets its bits; freeing what was answered gives back
the bitmap and the counter. -/
structure FirstFit (p : Pmm) (count : UInt64) : Prop where
  fails : (pmmAllocPages p count).1 = 0 ↔ ∀ t, ¬ ClearRun p count.toNat t
  unchanged : (pmmAllocPages p count).1 = 0 → (pmmAllocPages p count).2 = p
  address : ∀ s, FirstRun p count.toNat s → (pmmAllocPages p count).1.toNat = 4096 * s
  marks : ∀ s, FirstRun p count.toNat s → RunSet p (pmmAllocPages p count).2 s count.toNat true
  restores : ∀ s, FirstRun p count.toNat s →
    pmmFreePages (pmmAllocPages p count).2 (pmmAllocPages p count).1 count = p

section Allocation

variable {p : Pmm} {count : UInt64} {start : Nat}

lemma toNat_pos_of_ne_zero (hcount : count ≠ 0) : 0 < count.toNat :=
  Nat.pos_of_ne_zero fun h => hcount (UInt64.toNat_inj.mp h)

lemma pmmAllocPages_of_none (hcount : count ≠ 0) (h : ∀ t, ¬ ClearRun p count.toNat t) :
    pmmAllocPages p count = (0, p) := by
  rw [pmmAllocPages, if_neg hcount, (findFreePages_eq_none_iff p (toNat_pos_of_ne_zero hcount)).mpr h]

lemma pmmAllocPages_of_first (hcount : count ≠ 0) (h : FirstRun p count.toNat start) : pmmAllocPages p count =
      (UInt64.ofNat start <<< 12, pmmAllocLoop p start count.toNat) := by
  rw [pmmAllocPages, if_neg hcount, (findFreePages_eq_some_iff p (toNat_pos_of_ne_zero hcount)).mpr h]

lemma toNat_pageAddr (h : start < 2 ^ 52) : (UInt64.ofNat start <<< 12).toNat = 4096 * start := by
  rw [UInt64.toNat_shiftLeft, UInt64.toNat_ofNat_of_lt' (by simp only [UInt64.size]; omega),
    show (12 : UInt64).toNat % 64 = 12 from rfl, Nat.shiftLeft_eq]
  omega

lemma pmmFreePages_first (hcount : count ≠ 0) (h : FirstRun p count.toNat start) (hpos : 0 < start)
    (hlt : start < 2 ^ 52) : pmmFreePages (pmmAllocLoop p start count.toNat)
      (UInt64.ofNat start <<< 12) count = p := by
  have haddr := toNat_pageAddr hlt
  have hne : UInt64.ofNat start <<< 12 ≠ 0 := fun h0 => by
    rw [h0, UInt64.toNat_zero] at haddr
    omega
  have hal : isAligned (UInt64.ofNat start <<< 12) 4096 = true :=
    (isAligned_page _).mpr (by omega)
  have hmark := pmmAllocLoop_run p start count.toNat
  have hpage : ((UInt64.ofNat start <<< 12) >>> 12).toNat = start := by
    rw [toNat_shiftRight_page, haddr]
    omega
  rw [pmmFreePages, if_neg (by simp [hne, hcount]), hal, Bool.not_true, if_neg (by decide), hpage]
  refine hmark.restore (pmmFreeLoop_run _ _ _ (hmark.total ▸ h.1.1) fun i hlo hhi => ?_) h.1.2
  rw [hmark.test, if_pos ⟨hlo, hhi⟩]

/-- Where the lowest run begins at a page with an address that is not null, allocation is first
fit. -/
lemma firstFit_of_first (hcount : count ≠ 0)
    (haddr : ∀ s, FirstRun p count.toNat s → 0 < s ∧ s < 2 ^ 52) : FirstFit p count := by
  rcases findFreePages_first p (toNat_pos_of_ne_zero hcount) with ⟨-, hnone⟩ | ⟨r, -, hr⟩
  · have hrun := pmmAllocPages_of_none hcount hnone
    refine ⟨by simp [hrun, hnone], fun _ => by rw [hrun], ?_, ?_, ?_⟩
    all_goals exact fun s hs => absurd hs.1 (hnone s)
  · obtain ⟨hpos, hlt⟩ := haddr r hr
    have hrun := pmmAllocPages_of_first hcount hr
    have hnat := toNat_pageAddr hlt
    have hne : UInt64.ofNat r <<< 12 ≠ 0 := fun h0 => by
      rw [h0, UInt64.toNat_zero] at hnat
      omega
    refine ⟨?_, ?_, fun s hs => ?_, fun s hs => ?_, fun s hs => ?_⟩
    · rw [hrun]
      exact ⟨fun h => absurd h hne, fun h => absurd hr.1 (h r)⟩
    · rw [hrun]
      exact fun h => absurd h hne
    all_goals obtain rfl := hs.unique hr
    · rw [hrun, hnat]
    · rw [hrun]
      exact pmmAllocLoop_run p s count.toNat
    · rw [hrun]
      exact pmmFreePages_first hcount hs hpos hlt

/-- **First-fit completeness.**  For every bitmap, total and count, allocation is first fit if and
only if the lowest run does not begin at page 0, and at a page whose address fits a word. -/
theorem firstFit_iff (p : Pmm) (count : UInt64) (hcount : count ≠ 0) :
    FirstFit p count ↔ ∀ s, FirstRun p count.toNat s → 0 < s ∧ s < 2 ^ 52 := by
  refine ⟨fun h s hs => ?_, firstFit_of_first hcount⟩
  have haddr := h.address s hs
  have hlt : (pmmAllocPages p count).1.toNat < 2 ^ 64 := UInt64.toNat_lt _
  refine ⟨Nat.pos_of_ne_zero fun hzero => ?_, by omega⟩
  rw [hzero] at haddr
  exact h.fails.mp (UInt64.toNat_inj.mp haddr) s hs.1

end Allocation

/-- Pages 2 and 3 of four are clear. -/
def twoOfFour : Pmm := { bitmap := fun _ => 0xF3, totalPages := 4, usedPages := 2 }

lemma firstRun_twoOfFour : FirstRun twoOfFour 2 2 :=
  (findFreePages_eq_some_iff twoOfFour (by decide)).mp (by decide)

theorem firstFit_twoOfFour : FirstFit twoOfFour 2 := by
  refine (firstFit_iff twoOfFour 2 (by decide)).mpr fun s hs => ?_
  obtain rfl := hs.unique firstRun_twoOfFour
  decide

/-- All four pages are clear, page 0 with them. -/
def allClear : Pmm := { bitmap := fun _ => 0, totalPages := 4, usedPages := 0 }

/-- The first page of `allClear` is taken, and the answer is that of a failure. -/
theorem not_firstFit_allClear : ¬ ∀ (p : Pmm) (count : UInt64), count ≠ 0 → p.totalPages.toNat ≤ pmmMaxPages →
      FirstFit p count := by
  intro hclaim
  have hfit := hclaim allClear 1 (by decide) (by decide)
  have hrun : FirstRun allClear 1 0 :=
    (findFreePages_eq_some_iff allClear (by decide)).mp (by decide)
  exact hfit.fails.mp (by decide) 0 hrun.1

/-- In every state that `pmm_init` and its clients reach, allocation of any count is first fit. -/
theorem firstFit_of_steps (info : Option BootInfo) (calls : List PmmCall) (m : PmmMachine)
    (hrun : Steps PmmMachine.Step (PmmMachine.boot info) calls m) (count : UInt64)
    (hcount : count ≠ 0) : FirstFit m.pmm count := by
  have hm : m.Inv := PmmMachine.inv_of_steps hrun
  refine firstFit_of_first hcount fun s hs => ⟨Nat.pos_of_ne_zero fun hzero => ?_, ?_⟩
  · have hclear := hs.1.2 s le_rfl (by have := toNat_pos_of_ne_zero hcount; omega)
    rw [hzero, hm.wf.zero_used] at hclear
    cases hclear
  · have hend := hs.1.1
    have hmax : m.pmm.totalPages.toNat ≤ 1048576 := hm.wf.total_le
    omega

/-- Two of three pages are taken. -/
theorem firstFit_threePages : FirstFit ((PmmMachine.boot PmmMachine.threePages).alloc 2).pmm 1 :=
  firstFit_of_steps PmmMachine.threePages [.alloc 2] _ (.cons rfl (.nil _)) 1 (by decide)

end AAAos
