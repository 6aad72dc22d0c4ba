import AAAos.Kernel.Mm.PmmStats

/-!
# The boot memory map

`pmm_init` starts with every page used and clears, entry after entry, the pages that lie wholly
inside a usable one.  Nothing sets a bit again, so the order of the entries does not matter, and
entries of another type are passed over: a page that a usable entry and a reserved one share is
free.

**What wraps.**  The end of an entry is a sum of two words, and its start is rounded up in a word.
An entry whose end does not fit is skipped, and one that begins in the last page of the address
space counts from the first megabyte on.  The statements here are about maps without such entries
among the usable ones.
-/

namespace AAAos

namespace MemoryMapEntry

/-- The entry covers the address, as numbers. -/
def Covers (e : MemoryMapEntry) (a : Nat) : Prop :=
  e.base.toNat ≤ a ∧ a < e.base.toNat + e.length.toNat

/-- Page `i` lies inside the entry. -/
def Inside (e : MemoryMapEntry) (i : Nat) : Prop := ∀ a, a / 4096 = i → e.Covers a

/-- Page `i` and the entry share an address. -/
def Meets (e : MemoryMapEntry) (i : Nat) : Prop := ∃ a, a / 4096 = i ∧ e.Covers a

/-- Neither the end of the entry nor its start, rounded up to a page, wraps. -/
def NoWrap (e : MemoryMapEntry) : Prop :=
  e.base.toNat + 4096 ≤ 2 ^ 64 ∧ e.base.toNat + e.length.toNat < 2 ^ 64

lemma inside_iff {e : MemoryMapEntry} {i : Nat} :
    e.Inside i ↔ e.base.toNat ≤ 4096 * i ∧ 4096 * i + 4096 ≤ e.base.toNat + e.length.toNat := by
  refine ⟨fun h => ?_, fun ⟨hlo, hhi⟩ a ha => ?_⟩
  · have hfirst := (h (4096 * i) (by omega)).1
    have hlast := (h (4096 * i + 4095) (by omega)).2
    omega
  · unfold Covers
    omega

end MemoryMapEntry

/-- The page lies at or above 1 MB and below 4 GB. -/
def Allocatable (i : Nat) : Prop := ∀ a, a / 4096 = i → 0x100000 ≤ a ∧ a < 0x100000000

lemma allocatable_iff {i : Nat} : Allocatable i ↔ 256 ≤ i ∧ i < 1048576 := by
  refine ⟨fun h => ?_, fun ⟨hlo, hhi⟩ a ha => by omega⟩
  have hfirst := (h (4096 * i) (by omega)).1
  have hlast := (h (4096 * i + 4095) (by omega)).2
  omega

/-! ## What one entry clears -/

/-- The entry makes page `i` allocatable, as the code reads it. -/
def pmmClears (e : MemoryMapEntry) (i : Nat) : Prop :=
  ∃ a b, pmmUsablePages e = some (a, b) ∧ a ≤ i ∧ i < b

lemma toNat_skipLowMemory (a : UInt64) : (skipLowMemory a).toNat = max a.toNat 1048576 := by
  unfold skipLowMemory
  split
  · rename_i h
    exact (max_eq_right (UInt64.lt_iff_toNat_lt.mp h).le).symm
  · rename_i h
    exact (max_eq_left (not_lt.mp fun hlt => h (UInt64.lt_iff_toNat_lt.mpr hlt))).symm

/-- **An entry that does not wrap** clears the allocatable pages inside it. -/
lemma pmmClears_iff {e : MemoryMapEntry} {i : Nat} (hn : e.NoWrap) :
    pmmClears e i ↔ e.type = memoryTypeUsable ∧ Allocatable i ∧ e.Inside i := by
  obtain ⟨hbase, hend⟩ := hn
  have hstart : (alignUp e.base 4096).toNat = (e.base.toNat + 4095) / 4096 * 4096 := by
    rw [toNat_alignUp_page, UInt64.toNat_add, show ((4096 : UInt64) - 1).toNat = 4095 from rfl]
    omega
  have hstop : (alignDown (e.base + e.length) 4096).toNat = (e.base.toNat + e.length.toNat) / 4096 * 4096 := by
    rw [toNat_alignDown_page, UInt64.toNat_add, Nat.mod_eq_of_lt hend]
  rw [allocatable_iff, MemoryMapEntry.inside_iff, pmmClears, pmmUsablePages]
  by_cases htype : e.type = memoryTypeUsable
  swap
  · simp [htype]
  simp only [htype, ne_eq, not_true, if_false, true_and, UInt64.le_iff_toNat_le, toNat_skipLowMemory, hstart, hstop]
  split_ifs with hempty hlow
  · refine ⟨fun ⟨_, _, h, _⟩ => by simp at h, fun h => ?_⟩
    omega
  · refine ⟨fun ⟨_, _, h, _⟩ => by simp at h, fun h => ?_⟩
    omega
  · simp only [Option.some.injEq, Prod.mk.injEq, toNat_shiftRight_page, toNat_skipLowMemory,
      toNat_capMemory, hstart, hstop]
    constructor
    · rintro ⟨a, b, ⟨rfl, rfl⟩, hlo, hhi⟩
      omega
    · intro h
      refine ⟨_, _, ⟨rfl, rfl⟩, ?_, ?_⟩
      all_goals omega

/-! ## What the map clears -/

lemma pmmInitEntry_test (st : Pmm × UInt64) (e : MemoryMapEntry) (i : Nat) :
    bitmapTest (pmmInitEntry st e).1.bitmap i = true ↔ bitmapTest st.1.bitmap i = true ∧ ¬ pmmClears e i := by
  unfold pmmInitEntry pmmClears
  cases hrange : pmmUsablePages e with
  | none => simp
  | some ab =>
    obtain ⟨a, b⟩ := ab
    obtain ⟨-, hb⟩ := pmmUsablePages_bounds hrange
    change bitmapTest (pmmUsableLoop st.1 a (b - a)).bitmap i = true ↔ _
    have hmem : (∃ a' b', some (a, b) = some (a', b') ∧ a' ≤ i ∧ i < b') ↔ a ≤ i ∧ i < b := by
      simp
    rw [hmem]
    by_cases hab : a ≤ b
    · rw [(pmmUsableLoop_marks (b - a) st.1 a (by omega)).test i]
      rw [show a + (b - a) = b by omega]
    · rw [show b - a = 0 by omega, pmmUsableLoop]
      simp only [iff_self_and]
      omega

/-- The order of the entries does not matter: a page stays used if no entry clears it. -/
lemma foldl_pmmInitEntry_test (es : List MemoryMapEntry) (st : Pmm × UInt64) (i : Nat) :
    bitmapTest (es.foldl pmmInitEntry st).1.bitmap i = true ↔
      bitmapTest st.1.bitmap i = true ∧ ∀ e ∈ es, ¬ pmmClears e i := by
  induction es generalizing st with
  | nil => simp
  | cons e es ih =>
    rw [List.foldl_cons, ih, pmmInitEntry_test, List.forall_mem_cons, and_assoc]

/-- The boot information with this map. -/
def bootMap (es : List MemoryMapEntry) : Option BootInfo := some ⟨bootMagic, es⟩

/-- A page that is free after `pmm_init`. -/
def FreeAfterInit (info : Option BootInfo) (i : Nat) : Prop :=
  bitmapTest (pmmInit info).2.bitmap i = false

lemma freeAfterInit_iff {es : List MemoryMapEntry} (hne : es ≠ []) (i : Nat) :
    FreeAfterInit (bootMap es) i ↔ ∃ e ∈ es, pmmClears e i := by
  obtain ⟨e, es, rfl⟩ := List.exists_cons_of_ne_nil hne
  have hinit := @pmmInit_of_map bootMagic e es rfl _ rfl
  have htest := foldl_pmmInitEntry_test (e :: es) (pmmAllUsed 0, 0) i
  simp only [bitmapTest_allUsed, true_and] at htest
  rw [FreeAfterInit, bootMap, hinit, ← Bool.not_eq_true, htest]
  simp only [not_forall, not_not, exists_prop]

/-- Without a map, or with one that is not valid, the pages from 1 MB to 16 MB are free. -/
lemma freeAfterInit_default {info : Option BootInfo} (hnone : pmmInit info = pmmInit.pmmInitDefault) (i : Nat) :
    FreeAfterInit info i ↔ 256 ≤ i ∧ i < 4096 := by
  have hclear := pmmClearLoop_marks (4096 - 256) (pmmAllUsed 0) 256 (by decide)
    fun i _ _ => bitmapTest_allUsed 0 i
  unfold pmmInit.pmmInitDefault at hnone
  generalize pmmClearLoop (pmmAllUsed 0) 256 (4096 - 256) = q at hclear hnone
  have htest := hclear.test i
  rw [bitmapTest_allUsed] at htest
  rw [FreeAfterInit, hnone, ← Bool.not_eq_true, htest]
  simp only [true_and, not_not]

/-! ## The map as a whole -/

/-- What `pmm_init` makes of a map: the free pages are the allocatable ones inside some usable entry,
and all of them are below the total. -/
structure MapRead (es : List MemoryMapEntry) : Prop where
  free : ∀ i, FreeAfterInit (bootMap es) i ↔ Allocatable i ∧ ∃ e ∈ es, e.type = memoryTypeUsable ∧ e.Inside i
  below : ∀ i, FreeAfterInit (bootMap es) i → i < (pmmInit (bootMap es)).2.totalPages.toNat

/-- No free page shares an address with an entry that is not usable. -/
def ReservedKept (es : List MemoryMapEntry) : Prop :=
  ∀ i, FreeAfterInit (bootMap es) i → ∀ e ∈ es, e.type ≠ memoryTypeUsable → ¬ e.Meets i

lemma freeAfterInit_below (info : Option BootInfo) {i : Nat} (h : FreeAfterInit info i) :
    i < (pmmInit info).2.totalPages.toNat := by
  by_contra hle
  rw [FreeAfterInit, (pmmInit_capped info).1.above i (not_lt.mp hle)] at h
  cases h

/-- **Boot memory map interpretation.**  A map with entries, of which no usable one wraps, is read as
it says, in any order; and what is free without a map is below the total as well. -/
theorem mapRead_of_noWrap (es : List MemoryMapEntry) :
    (es ≠ [] → (∀ e ∈ es, e.type = memoryTypeUsable → e.NoWrap) → MapRead es) ∧
      (es = [] → ∀ i, FreeAfterInit (bootMap es) i ↔ 256 ≤ i ∧ i < 4096) ∧
      ∀ i, FreeAfterInit (bootMap es) i → i < (pmmInit (bootMap es)).2.totalPages.toNat := by
  refine ⟨fun hne hwrap => ⟨fun i => ?_, fun i => freeAfterInit_below _⟩, fun hnil i => ?_,
    fun i => freeAfterInit_below _⟩
  · rw [freeAfterInit_iff hne]
    constructor
    · rintro ⟨e, he, hclears⟩
      have htype : e.type = memoryTypeUsable := by
        by_contra hother
        obtain ⟨a, b, hrange, -⟩ := hclears
        simp [pmmUsablePages, hother] at hrange
      obtain ⟨-, halloc, hinside⟩ := (pmmClears_iff (hwrap e he htype)).mp hclears
      exact ⟨halloc, e, he, htype, hinside⟩
    · rintro ⟨halloc, e, he, htype, hinside⟩
      exact ⟨e, he, (pmmClears_iff (hwrap e he htype)).mpr ⟨htype, halloc, hinside⟩⟩
  · refine freeAfterInit_default (pmmInit_of_no_map _ fun magic e es' h => ?_) i
    rw [hnil, bootMap] at h
    simp at h

/-- The second megabyte, usable as a whole and with a reserved first page. -/
def sharedPage : List MemoryMapEntry :=
  [⟨0x100000, 0x100000, memoryTypeUsable⟩, ⟨0x100000, 0x1000, 2⟩]

lemma sharedPage_noWrap : ∀ e ∈ sharedPage, e.NoWrap := by
  intro e he
  simp only [sharedPage, List.mem_cons, List.not_mem_nil, or_false] at he
  rcases he with rfl | rfl
  all_goals exact ⟨by decide, by decide⟩

theorem mapRead_sharedPage : MapRead sharedPage :=
  (mapRead_of_noWrap sharedPage).1 (by decide) fun e he _ => sharedPage_noWrap e he

/-- From the first megabyte on, with an end that does not fit a word. -/
def endless : List MemoryMapEntry := [⟨0x100000, 0xFFFFFFFFFFFFFFFF, memoryTypeUsable⟩]

/-- The page that two entries of different types share is free; without entries there are free pages
all the same; and an entry whose end wraps is skipped. -/
theorem not_mapRead_all : ¬ ReservedKept sharedPage ∧ ¬ MapRead [] ∧ ¬ MapRead endless := by
  refine ⟨fun hkept => ?_, fun hread => ?_, fun hread => ?_⟩
  · have hfree : FreeAfterInit (bootMap sharedPage) 256 :=
      (freeAfterInit_iff (by decide) 256).mpr ⟨_, List.mem_cons_self,
        (pmmClears_iff (sharedPage_noWrap _ List.mem_cons_self)).mpr
          ⟨rfl, allocatable_iff.mpr (by omega), MemoryMapEntry.inside_iff.mpr (by decide)⟩⟩
    refine hkept 256 hfree ⟨0x100000, 0x1000, 2⟩ (by simp [sharedPage]) (by decide) ?_
    exact ⟨0x100000, by decide, by decide, by decide⟩
  · have hfree : FreeAfterInit (bootMap []) 256 :=
      (freeAfterInit_default (pmmInit_of_no_map _ fun _ _ _ h => by simp [bootMap] at h) 256).mpr
        (by omega)
    obtain ⟨-, e, he, -⟩ := (hread.free 256).mp hfree
    cases he
  · have hinside : Allocatable 256 ∧ ∃ e ∈ endless, e.type = memoryTypeUsable ∧ e.Inside 256 :=
      ⟨allocatable_iff.mpr (by omega), _, List.mem_cons_self, rfl,
        MemoryMapEntry.inside_iff.mpr (by decide)⟩
    obtain ⟨e, he, a, b, hrange, -⟩ := (freeAfterInit_iff (by decide) 256).mp
      ((hread.free 256).mpr hinside)
    obtain rfl := List.mem_singleton.mp he
    have hskipped : pmmUsablePages ⟨0x100000, 0xFFFFFFFFFFFFFFFF, memoryTypeUsable⟩ = none := by
      decide
    rw [hskipped] at hrange
    cases hrange

end AAAos
