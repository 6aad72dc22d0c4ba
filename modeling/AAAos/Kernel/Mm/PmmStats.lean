import AAAos.Kernel.Mm.PmmClients

/-!
# What the page counters report

`pmm_used_pages` starts at `PMM_MAX_PAGES`, the size of the whole bitmap, while
`pmm_total_pages` is the highest page of the boot memory map, so the pages above the map stay
counted as used for ever.  The clear bits and the used counter together make up the whole bitmap
(`clear_add_used`), and the difference that `pmm_get_free_pages` returns is the number of clear
bits exactly when the map reaches the end of the bitmap, at 4 GB.  Otherwise it wraps.
-/

namespace AAAos

/-- The pages below the total whose bit is clear: what allocation can hand out. -/
def clearPages (p : Pmm) : Finset Nat :=
  (Finset.range p.totalPages.toNat).filter fun i => bitmapTest p.bitmap i = false

namespace PmmCall

/-- One call, with any arguments. -/
def exec (p : Pmm) : PmmCall → Pmm
  | alloc count => (pmmAllocPages p count).2
  | free addr count => pmmFreePages p addr count
  | reserve addr size => pmmReserveRange p addr size

end PmmCall

/-! ## The pages above the total stay used -/

/-- Well formed, and every page from the total on is used. -/
structure Pmm.Capped (p : Pmm) : Prop where
  wf : p.WellFormed
  above : ∀ i, p.totalPages.toNat ≤ i → bitmapTest p.bitmap i = true

lemma Pmm.Capped.of_marksUsed {p p' : Pmm} {S : Nat → Prop} (hp : p.Capped) (h : MarksUsed p p' S) : p'.Capped := by
  refine ⟨hp.wf.of_marksUsed h, fun i hi => (h.test i).mpr (.inl (hp.above i ?_))⟩
  rwa [h.total] at hi

lemma Pmm.Capped.exec {p : Pmm} (hp : p.Capped) (c : PmmCall) : (c.exec p).Capped := by
  cases c with
  | alloc count =>
    rcases pmmAllocPages_spec hp.wf count with ⟨-, hsame⟩ | ⟨start, -, -, -, -, -, hmarks⟩
    · rw [PmmCall.exec, hsame]
      exact hp
    · exact hp.of_marksUsed hmarks
  | free addr count =>
    have hmarks := pmmFreePages_marks hp.wf addr count
    refine ⟨hp.wf.pmmFreePages addr count, fun i hi => ?_⟩
    have htotal : (PmmCall.exec p (.free addr count)).totalPages = p.totalPages := hmarks.total
    rw [htotal] at hi
    refine (hmarks.test i).mpr ⟨hp.above i hi, fun hfreed => ?_⟩
    have hlt := hfreed.2.2.2.2
    omega
  | reserve addr size => exact hp.of_marksUsed (pmmReserveRange_marks hp.wf addr size)

lemma Pmm.Capped.run {p : Pmm} (hp : p.Capped) (calls : List PmmCall) : (calls.foldl PmmCall.exec p).Capped := by
  induction calls generalizing p with
  | nil => exact hp
  | cons c rest ih => exact ih (hp.exec c)

lemma totalPages_run {p : Pmm} (hp : p.Capped) (calls : List PmmCall) :
    (calls.foldl PmmCall.exec p).totalPages = p.totalPages := by
  induction calls generalizing p with
  | nil => rfl
  | cons c rest ih =>
    rw [List.foldl_cons, ih (hp.exec c)]
    cases c with
    | alloc count =>
      rcases pmmAllocPages_spec hp.wf count with ⟨-, hsame⟩ | ⟨start, -, -, -, -, -, hmarks⟩
      · rw [PmmCall.exec, hsame]
      · exact hmarks.total
    | free addr count => exact (pmmFreePages_marks hp.wf addr count).total
    | reserve addr size => exact (pmmReserveRange_marks hp.wf addr size).total

/-! ## The map decides the total -/

/-- Some entry of a valid map ends at 4 GB or above, as the code computes its end. -/
def mapReachesMax : Option BootInfo → Prop
  | none => False
  | some info => info.magic = bootMagic ∧ ∃ e ∈ info.memMap, pmmMaxMemory ≤ e.base + e.length

lemma toNat_capMemory (a : UInt64) : (capMemory a).toNat = min a.toNat 4294967296 := by
  unfold capMemory
  split
  · rename_i h
    rw [UInt64.lt_iff_toNat_lt] at h
    have : pmmMaxMemory.toNat = 4294967296 := rfl
    omega
  · rename_i h
    rw [UInt64.lt_iff_toNat_lt, show pmmMaxMemory.toNat = 4294967296 from rfl] at h
    omega

/-- `highest_addr` after one entry. -/
lemma pmmInitEntry_highest (st : Pmm × UInt64) (e : MemoryMapEntry) :
    (pmmInitEntry st e).2.toNat = max st.2.toNat (e.base + e.length).toNat := by
  have hmax : (if st.2 < e.base + e.length then e.base + e.length else st.2).toNat =
      max st.2.toNat (e.base + e.length).toNat := by
    split
    · rename_i h
      exact (max_eq_right (UInt64.lt_iff_toNat_lt.mp h).le).symm
    · rename_i h
      exact (max_eq_left (not_lt.mp fun hlt => h (UInt64.lt_iff_toNat_lt.mpr hlt))).symm
  unfold pmmInitEntry
  split
  · exact hmax
  · exact hmax

lemma foldl_highest_reaches (es : List MemoryMapEntry) (st : Pmm × UInt64) :
    4294967296 ≤ (es.foldl pmmInitEntry st).2.toNat ↔
      4294967296 ≤ st.2.toNat ∨ ∃ e ∈ es, pmmMaxMemory ≤ e.base + e.length := by
  induction es generalizing st with
  | nil => simp
  | cons e rest ih =>
    rw [List.foldl_cons, ih, pmmInitEntry_highest, le_max_iff, or_assoc]
    have hend : 4294967296 ≤ (e.base + e.length).toNat ↔ pmmMaxMemory ≤ e.base + e.length := by
      rw [UInt64.le_iff_toNat_le, show pmmMaxMemory.toNat = 4294967296 from rfl]
    simp only [List.mem_cons, exists_eq_or_imp, hend]

/-- What the entries so far made free lies below the highest address so far. -/
def BelowHighest (st : Pmm × UInt64) : Prop :=
  ∀ i, (capMemory st.2).toNat / 4096 ≤ i → bitmapTest st.1.bitmap i = true

lemma pmmUsablePages_le_end {e : MemoryMapEntry} {a b : Nat}
    (h : pmmUsablePages e = some (a, b)) : b ≤ (e.base + e.length).toNat / 4096 := by
  unfold pmmUsablePages at h
  split at h
  · exact absurd h (by simp)
  simp only at h
  split at h
  · exact absurd h (by simp)
  split at h
  · exact absurd h (by simp)
  simp only [Option.some.injEq, Prod.mk.injEq, toNat_shiftRight_page] at h
  obtain ⟨-, rfl⟩ := h
  rw [toNat_capMemory, toNat_alignDown_page]
  omega

lemma BelowHighest.pmmInitEntry {st : Pmm × UInt64} (h : BelowHighest st) (e : MemoryMapEntry) :
    BelowHighest (pmmInitEntry st e) := by
  intro i hi
  rw [toNat_capMemory, pmmInitEntry_highest] at hi
  have hold := h i (by rw [toNat_capMemory]; omega)
  unfold AAAos.pmmInitEntry
  cases hrange : pmmUsablePages e with
  | none => simpa using hold
  | some ab =>
    obtain ⟨a, b⟩ := ab
    have hbounds := pmmUsablePages_bounds hrange
    have hend := pmmUsablePages_le_end hrange
    simp only [pmmMaxPages] at hbounds
    change bitmapTest (pmmUsableLoop st.1 a (b - a)).bitmap i = true
    by_cases hab : a ≤ b
    · have hmarks := pmmUsableLoop_marks (b - a) st.1 a (by simp only [pmmMaxPages]; omega)
      exact (hmarks.test i).mpr ⟨hold, by omega⟩
    · rw [show b - a = 0 by omega]
      exact hold

lemma BelowHighest.foldl {st : Pmm × UInt64} (h : BelowHighest st) (es : List MemoryMapEntry) :
    BelowHighest (es.foldl AAAos.pmmInitEntry st) := by
  induction es generalizing st with
  | nil => exact h
  | cons e rest ih => exact ih (h.pmmInitEntry e)

lemma bitmapTest_allUsed (total : UInt64) (i : Nat) : bitmapTest (pmmAllUsed total).bitmap i = true := by
  have h : ∀ j < 8, (0xFF : UInt8).toNat.testBit j = true := by decide
  rw [bitmapTest_eq_testBit]
  exact h _ (Nat.mod_lt _ (by omega))

/-- The default branch: some state whose pages from 4096 on are used, with 4096 as its total. -/
lemma pmmInitDefault_eq : ∃ q : Pmm, (∀ i, 4096 ≤ i → bitmapTest q.bitmap i = true) ∧
    pmmInit.pmmInitDefault = (4096 - q.usedPages, { q with totalPages := 4096 }) := by
  have hclear := pmmClearLoop_marks (4096 - 256) (pmmAllUsed 0) 256 (by decide)
    fun i _ _ => bitmapTest_allUsed 0 i
  unfold pmmInit.pmmInitDefault
  generalize pmmClearLoop (pmmAllUsed 0) 256 (4096 - 256) = q at hclear
  exact ⟨q, fun i hi => (hclear.test i).mpr ⟨bitmapTest_allUsed 0 i, by omega⟩, rfl⟩

lemma pmmInit_of_no_map (info : Option BootInfo)
    (h : ∀ magic e es, info ≠ some ⟨magic, e :: es⟩) : pmmInit info = pmmInit.pmmInitDefault := by
  unfold pmmInit
  split
  · exact absurd rfl (h _ _ _)
  · rfl

lemma pmmInit_of_map {magic : UInt32} {e : MemoryMapEntry} {es : List MemoryMapEntry}
    (hmagic : magic = bootMagic) {st : Pmm × UInt64}
    (hst : (e :: es).foldl pmmInitEntry (pmmAllUsed 0, 0) = st) :
    pmmInit (some ⟨magic, e :: es⟩) = ((capMemory st.2 >>> 12) - st.1.usedPages,
      { st.1 with totalPages := capMemory st.2 >>> 12 }) := by
  have hvalid : bootInfoValid (some ⟨magic, e :: es⟩) = true := by simp [bootInfoValid, hmagic]
  rw [← hst]
  unfold pmmInit
  exact if_pos hvalid

/-- What initialisation leaves: capped, with the reported number as its result, and with the
whole bitmap as its total exactly when the map reaches 4 GB. -/
lemma pmmInit_capped (info : Option BootInfo) :
    (pmmInit info).2.Capped ∧ (pmmInit info).1 = pmmGetFreePages (pmmInit info).2 ∧
      ((pmmInit info).2.totalPages.toNat = pmmMaxPages ↔ mapReachesMax info) := by
  have hcase : ∀ {i}, pmmInit i = pmmInit.pmmInitDefault → ¬ mapReachesMax i →
      (pmmInit i).2.Capped ∧ (pmmInit i).1 = pmmGetFreePages (pmmInit i).2 ∧
        ((pmmInit i).2.totalPages.toNat = pmmMaxPages ↔ mapReachesMax i) := by
    intro i heq hnot
    have hwf := pmmInit_wellFormed i
    obtain ⟨q, habove, hq⟩ := pmmInitDefault_eq
    rw [heq, hq] at hwf ⊢
    refine ⟨⟨hwf, habove⟩, rfl, fun h => ?_, fun h => absurd h hnot⟩
    exact absurd (show (4096 : UInt64).toNat = pmmMaxPages from h) (by decide)
  rcases info with _ | ⟨magic, _ | ⟨e, es⟩⟩
  · exact hcase (pmmInit_of_no_map _ fun _ _ _ => by simp) id
  · exact hcase (pmmInit_of_no_map _ fun _ _ _ => by simp) (by simp [mapReachesMax])
  · by_cases hmagic : magic = bootMagic
    · obtain ⟨st, hst⟩ : ∃ st, (e :: es).foldl pmmInitEntry (pmmAllUsed 0, 0) = st := ⟨_, rfl⟩
      have heq := pmmInit_of_map hmagic hst
      have hbelow : BelowHighest st := hst ▸ BelowHighest.foldl (fun i _ => bitmapTest_allUsed 0 i) _
      refine ⟨⟨pmmInit_wellFormed _, ?_⟩, by rw [heq]; rfl, ?_⟩
      · rw [heq]
        intro i hi
        rw [toNat_shiftRight_page] at hi
        exact hbelow i hi
      · rw [heq]
        simp only [toNat_shiftRight_page, toNat_capMemory, pmmMaxPages, mapReachesMax, hmagic, true_and]
        have hreach := foldl_highest_reaches (e :: es) (pmmAllUsed 0, 0)
        rw [hst] at hreach
        rw [UInt64.toNat_zero, or_iff_right (by decide)] at hreach
        rw [← hreach]
        omega
    · have hinvalid : bootInfoValid (some ⟨magic, e :: es⟩) = false := by
        simp [bootInfoValid, hmagic]
      refine hcase ?_ fun h => hmagic h.1
      unfold pmmInit
      exact if_neg (by simp [hinvalid])

/-! ## What is reported -/

lemma clear_add_used {p : Pmm} (hp : p.Capped) : (clearPages p).card + p.usedPages.toNat = pmmMaxPages := by
  have hsplit : clearPages p = (Finset.range pmmMaxPages).filter fun i => ¬ bitmapTest p.bitmap i = true := by
    ext i
    have htotal := hp.wf.total_le
    simp only [clearPages, Finset.mem_filter, Finset.mem_range, Bool.not_eq_true]
    constructor
    · rintro ⟨hi, hclear⟩
      exact ⟨by omega, hclear⟩
    · rintro ⟨-, hclear⟩
      refine ⟨not_le.mp fun hi => ?_, hclear⟩
      rw [hp.above i hi] at hclear
      cases hclear
  rw [hp.wf.counted, hsplit, usedSet, Nat.add_comm, Finset.card_filter_add_card_filter_not, Finset.card_range]

/-- The report is the number of clear pages exactly when the total is the whole bitmap. -/
lemma pmmGetFreePages_eq_clear {p : Pmm} (hp : p.Capped) :
    (pmmGetFreePages p).toNat = (clearPages p).card ↔ p.totalPages.toNat = pmmMaxPages := by
  have hsum := clear_add_used hp
  have htotal := hp.wf.total_le
  rw [pmmGetFreePages, UInt64.toNat_sub]
  simp only [pmmMaxPages] at *
  omega

/-- **Free-page reporting.**  For every memory map and every later sequence of calls: the number
of free pages reported is the number of clear bits below the total, is at most the total, and
`pmm_init` returned the number of pages it made allocatable, if and only if the map reaches
4 GB. -/
theorem freePages_reported_iff (info : Option BootInfo) (calls : List PmmCall) :
    ((pmmGetFreePages (calls.foldl PmmCall.exec (pmmInit info).2)).toNat =
        (clearPages (calls.foldl PmmCall.exec (pmmInit info).2)).card ∧
      (pmmGetFreePages (calls.foldl PmmCall.exec (pmmInit info).2)).toNat ≤
        (pmmGetTotalPages (calls.foldl PmmCall.exec (pmmInit info).2)).toNat ∧
      (pmmInit info).1.toNat = (clearPages (pmmInit info).2).card) ↔
      mapReachesMax info := by
  obtain ⟨hinit, hresult, htotal⟩ := pmmInit_capped info
  have hrun := hinit.run calls
  rw [hresult, pmmGetFreePages_eq_clear hinit, pmmGetFreePages_eq_clear hrun, totalPages_run hinit calls, htotal]
  constructor
  · exact fun h => h.1
  · intro h
    refine ⟨h, ?_, h⟩
    have hclear := (pmmGetFreePages_eq_clear hrun).mpr
      ((congrArg UInt64.toNat (totalPages_run hinit calls)).trans (htotal.mpr h))
    rw [hclear, pmmGetTotalPages]
    exact (Finset.card_filter_le _ _).trans (Finset.card_range _).le

/-- Without a memory map the report is not the number of clear pages, and exceeds the total. -/
theorem freePages_default_wrong : ¬ ((pmmGetFreePages (pmmInit none).2).toNat = (clearPages (pmmInit none).2).card) ∧
      (pmmGetTotalPages (pmmInit none).2).toNat < (pmmGetFreePages (pmmInit none).2).toNat := by
  have hcapped := (pmmInit_capped none).1
  have htotal : (pmmInit none).2.totalPages.toNat = 4096 := by
    obtain ⟨q, -, hq⟩ := pmmInitDefault_eq
    rw [show pmmInit none = pmmInit.pmmInitDefault from rfl, hq]
    rfl
  have hne : ¬ (pmmGetFreePages (pmmInit none).2).toNat = (clearPages (pmmInit none).2).card := by
    rw [pmmGetFreePages_eq_clear hcapped, htotal]
    decide
  refine ⟨hne, ?_⟩
  have hsum := clear_add_used hcapped
  have hle : (clearPages (pmmInit none).2).card ≤ 4096 :=
    (Finset.card_filter_le _ _).trans (by rw [Finset.card_range, htotal])
  rw [pmmGetTotalPages, pmmGetFreePages, UInt64.toNat_sub]
  simp only [pmmMaxPages] at *
  omega

end AAAos
