import AAAos.Kernel.Types
import Mathlib.Data.Finset.Card
import Mathlib.Data.Finset.Range
import Mathlib.Order.Interval.Finset.Nat

/-!
# The physical memory manager

`kernel/mm/pmm.c`.  One bit per 4 KB page frame, packed eight to a byte, set when the page is
used.  The three mutators walk a range of pages and have different skip rules: `pmmAllocPages`
sets every bit of a run it has just found clear, `pmmFreePages` skips pages that are already
free and stops at `pmm_total_pages`, `pmmReserveRange` skips pages that are already used.

The bitmap is a function from byte index to byte.  The C array has `pmmBitmapSize` bytes; every
index the code forms is below that, which is part of `Pmm.WellFormed`.
-/

namespace AAAos

/-- `PMM_MAX_PAGES`: 4 GB of 4 KB pages. -/
def pmmMaxPages : Nat := 1048576

/-- `PMM_MAX_MEMORY`. -/
def pmmMaxMemory : UInt64 := 4294967296

/-- The bytes of `pmm_bitmap`. -/
abbrev Bitmap := Nat → UInt8

/-- The static state of `pmm.c`. -/
structure Pmm where
  bitmap : Bitmap
  totalPages : UInt64
  usedPages : UInt64

/-! ## The bitmap -/

/-- The mask `1 << (bit % 8)`. -/
def bitMask (bit : Nat) : UInt8 := 1 <<< UInt8.ofNat (bit % 8)

def bitmapSet (b : Bitmap) (bit : Nat) : Bitmap :=
  Function.update b (bit / 8) (b (bit / 8) ||| bitMask bit)

def bitmapClear (b : Bitmap) (bit : Nat) : Bitmap :=
  Function.update b (bit / 8) (b (bit / 8) &&& ~~~bitMask bit)

def bitmapTest (b : Bitmap) (bit : Nat) : Bool := (b (bit / 8) &&& bitMask bit) != 0

lemma toNat_bitMask (bit : Nat) : (bitMask bit).toNat = 2 ^ (bit % 8) := by
  have h : ∀ i < 8, ((1 : UInt8) <<< UInt8.ofNat i).toNat = 2 ^ i := by decide
  exact h _ (Nat.mod_lt _ (by omega))

lemma bitmapTest_eq_testBit (b : Bitmap) (bit : Nat) : bitmapTest b bit = (b (bit / 8)).toNat.testBit (bit % 8) := by
  have hiff : b (bit / 8) &&& bitMask bit = 0
      ↔ (b (bit / 8)).toNat.testBit (bit % 8) = false := by
    rw [← UInt8.toNat_inj, UInt8.toNat_and, toNat_bitMask, Nat.and_two_pow]
    cases (b (bit / 8)).toNat.testBit (bit % 8) <;> simp
  rw [Bool.eq_iff_iff, bitmapTest, bne_iff_ne, ne_eq, hiff, Bool.not_eq_false]

/-- Two pages in one byte are the same page exactly when they are the same bit of it. -/
lemma div_mod_eight {i j : Nat} (h : i / 8 = j / 8) : i % 8 = j % 8 ↔ i = j := by omega

@[simp] lemma bitmapTest_bitmapSet (b : Bitmap) (i j : Nat) :
    bitmapTest (bitmapSet b i) j = (decide (i = j) || bitmapTest b j) := by
  rw [bitmapTest_eq_testBit, bitmapTest_eq_testBit, bitmapSet]
  by_cases h : i / 8 = j / 8
  · rw [h, Function.update_self, UInt8.toNat_or, Nat.testBit_or, toNat_bitMask,
      Nat.testBit_two_pow, decide_eq_decide.mpr (div_mod_eight h), Bool.or_comm]
  · rw [Function.update_of_ne (Ne.symm h)]
    simp [show i ≠ j from fun hij => h (by rw [hij])]

@[simp] lemma bitmapTest_bitmapClear (b : Bitmap) (i j : Nat) :
    bitmapTest (bitmapClear b i) j = (!decide (i = j) && bitmapTest b j) := by
  rw [bitmapTest_eq_testBit, bitmapTest_eq_testBit, bitmapClear]
  by_cases h : i / 8 = j / 8
  · have hpow : 2 ^ (i % 8) < 2 ^ 8 := Nat.pow_lt_pow_right (by omega) (by omega)
    have hcompl : (~~~bitMask i).toNat = 2 ^ 8 - (2 ^ (i % 8) + 1) := by
      rw [UInt8.toNat_not, toNat_bitMask, show UInt8.size = 2 ^ 8 from rfl]
      omega
    rw [h, Function.update_self, UInt8.toNat_and, Nat.testBit_and, hcompl,
      Nat.testBit_two_pow_sub_succ hpow, Nat.testBit_two_pow]
    simp [show j % 8 < 8 by omega, Bool.and_comm, div_mod_eight h]
  · rw [Function.update_of_ne (Ne.symm h)]
    simp [show i ≠ j from fun hij => h (by rw [hij])]

/-- The loop of `find_free_pages`: `n` pages are left to look at, `i` is the next one. -/
def findFreePagesLoop (b : Bitmap) (count : Nat) : Nat → Nat → Nat → Nat → Option Nat
  | 0, _, _, _ => none
  | n + 1, i, consecutive, start =>
    if bitmapTest b i then
      findFreePagesLoop b count n (i + 1) 0 start
    else
      let start' := if consecutive = 0 then i else start
      if count ≤ consecutive + 1 then
        some start'
      else
        findFreePagesLoop b count n (i + 1) (consecutive + 1) start'

/-- `find_free_pages`; `none` is the `SIZE_MAX` answer. -/
def findFreePages (p : Pmm) (count : Nat) : Option Nat :=
  findFreePagesLoop p.bitmap count p.totalPages.toNat 0 0 0

/-! ## Page updates with the counter -/

/-- `bitmap_set(page); pmm_used_pages++`. -/
def pmmMarkUsed (p : Pmm) (page : Nat) : Pmm :=
  { p with bitmap := bitmapSet p.bitmap page, usedPages := p.usedPages + 1 }

/-- `bitmap_clear(page); pmm_used_pages--`. -/
def pmmMarkFree (p : Pmm) (page : Nat) : Pmm :=
  { p with bitmap := bitmapClear p.bitmap page, usedPages := p.usedPages - 1 }

/-- The marking loop of `pmm_alloc_pages`. -/
def pmmAllocLoop (p : Pmm) (start : Nat) : Nat → Pmm
  | 0 => p
  | n + 1 => pmmAllocLoop (pmmMarkUsed p start) (start + 1) n

/-- The loop of `pmm_free_pages`: stop at the first page past the end, skip free pages. -/
def pmmFreeLoop (p : Pmm) (page : Nat) : Nat → Pmm
  | 0 => p
  | n + 1 =>
    if p.totalPages.toNat ≤ page then p
    else if !bitmapTest p.bitmap page then pmmFreeLoop p (page + 1) n
    else pmmFreeLoop (pmmMarkFree p page) (page + 1) n

/-- The loop of `pmm_reserve_range`: stop at the first page past the end, skip used pages. -/
def pmmReserveLoop (p : Pmm) (page : Nat) : Nat → Pmm
  | 0 => p
  | n + 1 =>
    if p.totalPages.toNat ≤ page then p
    else if !bitmapTest p.bitmap page then pmmReserveLoop (pmmMarkUsed p page) (page + 1) n
    else pmmReserveLoop p (page + 1) n

/-! ## Allocation, release, reservation -/

/-- `pmm_alloc_pages`: the address of the run, or `0`. -/
def pmmAllocPages (p : Pmm) (count : UInt64) : UInt64 × Pmm :=
  if count = 0 then (0, p)
  else
    match findFreePages p count.toNat with
    | none => (0, p)
    | some start => (UInt64.ofNat start <<< 12, pmmAllocLoop p start count.toNat)

/-- `pmm_free_pages`. -/
def pmmFreePages (p : Pmm) (addr count : UInt64) : Pmm :=
  if addr = 0 ∨ count = 0 then p
  else if !isAligned addr 4096 then p
  else pmmFreeLoop p (addr >>> 12).toNat count.toNat

/-- `pmm_reserve_range`.  The page loop runs from the rounded-down start to the rounded-up end,
both of which wrap at the word size. -/
def pmmReserveRange (p : Pmm) (addr size : UInt64) : Pmm :=
  if size = 0 then p
  else
    let startAddr := alignDown addr 4096
    let endAddr := alignUp (addr + size) 4096
    pmmReserveLoop p (startAddr >>> 12).toNat ((endAddr >>> 12).toNat - (startAddr >>> 12).toNat)

/-- `pmm_get_total_pages`. -/
def pmmGetTotalPages (p : Pmm) : UInt64 := p.totalPages

/-- `pmm_get_free_pages`: an unsigned difference. -/
def pmmGetFreePages (p : Pmm) : UInt64 := p.totalPages - p.usedPages

/-- `pmm_get_used_pages`. -/
def pmmGetUsedPages (p : Pmm) : UInt64 := p.usedPages

/-- `pmm_is_page_free`. -/
def pmmIsPageFree (p : Pmm) (addr : UInt64) : Bool :=
  if !isAligned addr 4096 then false
  else if p.totalPages ≤ addr >>> 12 then false
  else !bitmapTest p.bitmap (addr >>> 12).toNat

/-! ## Initialisation from the boot memory map -/

/-- `memory_map_entry_t`; the ACPI attributes are not read. -/
structure MemoryMapEntry where
  base : UInt64
  length : UInt64
  type : UInt32

/-- `boot_info_t`, with the memory map it points to; the framebuffer fields are not read here. -/
structure BootInfo where
  magic : UInt32
  memMap : List MemoryMapEntry

/-- `BOOT_MAGIC`. -/
def bootMagic : UInt32 := 0xAAAB007

/-- `MEMORY_TYPE_USABLE`. -/
def memoryTypeUsable : UInt32 := 1

/-- `boot_info_valid`; `none` is the null pointer. -/
def bootInfoValid : Option BootInfo → Bool
  | none => false
  | some info => info.magic == bootMagic

/-- The default branch's loop: clear and count down every page, without looking. -/
def pmmClearLoop (p : Pmm) (page : Nat) : Nat → Pmm
  | 0 => p
  | n + 1 => pmmClearLoop (pmmMarkFree p page) (page + 1) n

/-- The loop over the pages of a usable entry: skip pages that are already free. -/
def pmmUsableLoop (p : Pmm) (page : Nat) : Nat → Pmm
  | 0 => p
  | n + 1 =>
    if !bitmapTest p.bitmap page then pmmUsableLoop p (page + 1) n
    else pmmUsableLoop (pmmMarkFree p page) (page + 1) n

/-- The first megabyte (BIOS, real mode) is never handed out. -/
def skipLowMemory (addr : UInt64) : UInt64 := if addr < 0x100000 then 0x100000 else addr

/-- Cap at the memory the bitmap covers. -/
def capMemory (addr : UInt64) : UInt64 := if pmmMaxMemory < addr then pmmMaxMemory else addr

/-- The page range an entry makes allocatable, `none` where the code does `continue`. -/
def pmmUsablePages (e : MemoryMapEntry) : Option (Nat × Nat) :=
  if e.type ≠ memoryTypeUsable then none
  else
    let startAddr := alignUp e.base 4096
    let endAddr := alignDown (e.base + e.length) 4096
    if endAddr ≤ startAddr then none
    else
      let startAddr := skipLowMemory startAddr
      if endAddr ≤ startAddr then none
      else some ((startAddr >>> 12).toNat, (capMemory endAddr >>> 12).toNat)

/-- One iteration of the loop over the memory map, with `highest_addr`. -/
def pmmInitEntry (st : Pmm × UInt64) (e : MemoryMapEntry) : Pmm × UInt64 :=
  let ending := e.base + e.length
  let highest := if st.2 < ending then ending else st.2
  match pmmUsablePages e with
  | none => (st.1, highest)
  | some (startPage, endPage) => (pmmUsableLoop st.1 startPage (endPage - startPage), highest)

/-- Every page used: the state the initialisation starts from. -/
def pmmAllUsed (total : UInt64) : Pmm :=
  { bitmap := fun _ => 0xFF, totalPages := total, usedPages := UInt64.ofNat pmmMaxPages }

/-- `pmm_init` on a machine whose `pmm_total_pages` is still zero. -/
def pmmInit (info : Option BootInfo) : UInt64 × Pmm :=
  match info with
  | some ⟨magic, e :: es⟩ =>
    if bootInfoValid (some ⟨magic, e :: es⟩) then
      let st := (e :: es).foldl pmmInitEntry (pmmAllUsed 0, 0)
      let p := { st.1 with totalPages := capMemory st.2 >>> 12 }
      (p.totalPages - p.usedPages, p)
    else pmmInitDefault
  | _ => pmmInitDefault
where
  /-- No usable map: the pages between 1 MB and 16 MB. -/
  pmmInitDefault : UInt64 × Pmm :=
    let p := { pmmClearLoop (pmmAllUsed 0) 256 (4096 - 256) with totalPages := 4096 }
    (p.totalPages - p.usedPages, p)

end AAAos
