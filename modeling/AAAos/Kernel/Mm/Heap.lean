import AAAos.Kernel.Mm.Pmm
import AAAos.Lib.Memory

/-!
# The kernel heap

`kernel/mm/heap.c`: a block allocator over one contiguous region.  Every block starts with a
packed 32-byte header that holds the block's size, its predecessor in memory and, while it is
free, the next block of the address-ordered free list.  The headers live in the same byte
memory as the payloads.

Pointers are addresses and `0` is `NULL`.  The loops of the C code follow pointers, so each one
carries fuel: a walk over more headers than the heap has bytes is a cycle, and a function whose
walk would not end answers `none`.  The locks and the serial output are not modelled.
-/

namespace AAAos

/-- `sizeof(heap_block_t)`. -/
def headerSize : Nat := 32

/-- `HEAP_MAX_SIZE`: 16 MB. -/
def heapMaxSize : Nat := 16777216

/-- `HEAP_BLOCK_MAGIC`. -/
def heapBlockMagic : Nat := 0xDEADBEEF

/-- `HEAP_BLOCK_FREE_MAGIC`. -/
def heapBlockFreeMagic : Nat := 0xFEEDFACE

/-- `BLOCK_FLAG_USED`. -/
def blockFlagUsed : Nat := 1

/-- The fields of `heap_block_t`. -/
inductive HeapField
  | size | next | prev | magic | flags
  deriving DecidableEq

namespace HeapField

/-- Where the field is in the packed header. -/
def offset : HeapField → Nat
  | size => 0
  | next => 8
  | prev => 16
  | magic => 24
  | flags => 28

/-- How many bytes it takes. -/
def width : HeapField → Nat
  | size => 8
  | next => 8
  | prev => 8
  | magic => 4
  | flags => 4

end HeapField

/-- `heap_stats_t`. -/
structure HeapStats where
  totalSize : UInt64 := 0
  usedSize : UInt64 := 0
  freeSize : UInt64 := 0
  blockCount : UInt64 := 0
  freeBlockCount : UInt64 := 0
  allocCount : UInt64 := 0
  freeCount : UInt64 := 0
  expandCount : UInt64 := 0

/-- The static state of `heap.c`, the memory it manages and the page allocator it calls. -/
structure Heap where
  mem : Mem
  heapStart : Nat
  heapEnd : Nat
  heapMax : Nat
  freeList : Nat
  heapInitialized : Bool
  stats : HeapStats
  pmm : Pmm

namespace Heap

/-! ## Headers -/

/-- `block->f`. -/
def get (h : Heap) (block : Nat) (f : HeapField) : Nat :=
  readLE h.mem (block + f.offset) f.width

/-- `block->f = v`. -/
def set (h : Heap) (block : Nat) (f : HeapField) (v : Nat) : Heap :=
  { h with mem := writeLE h.mem (block + f.offset) f.width v }

/-- `block_get_size`: the size with the low four bits masked out. -/
def blockGetSize (h : Heap) (block : Nat) : Nat := h.get block .size / 16 * 16

/-- `block_is_used`. -/
def blockIsUsed (h : Heap) (block : Nat) : Bool := (h.get block .flags &&& blockFlagUsed) != 0

/-- `block_set_used`. -/
def blockSetUsed (h : Heap) (block : Nat) : Heap :=
  (h.set block .flags (h.get block .flags ||| blockFlagUsed)).set block .magic heapBlockMagic

/-- `block_set_free`. -/
def blockSetFree (h : Heap) (block : Nat) : Heap :=
  (h.set block .flags (h.get block .flags &&& 0xFFFFFFFE)).set block .magic heapBlockFreeMagic

/-- `block_get_next_physical`. -/
def blockGetNextPhysical (h : Heap) (block : Nat) : Nat :=
  let next := block + h.blockGetSize block
  if h.heapEnd ≤ next then 0 else next

/-- More headers than a walk over the heap can visit. -/
def walkFuel (h : Heap) : Nat := h.heapEnd - h.heapStart + 1

/-! ## The free list -/

/-- `heap_stats.free_block_count += d`. -/
def bumpFreeBlocks (h : Heap) (d : UInt64) : Heap :=
  { h with stats := { h.stats with freeBlockCount := h.stats.freeBlockCount + d } }

/-- `free_list = p`. -/
def setFreeList (h : Heap) (p : Nat) : Heap := { h with freeList := p }

/-- The insertion walk of `free_list_add`: the last cell that lies before `block`. -/
def insertionPoint (h : Heap) (block : Nat) : Nat → Nat → Option Nat
  | 0, _ => none
  | fuel + 1, current =>
    let next := h.get current .next
    if next ≠ 0 ∧ next < block then h.insertionPoint block fuel next else some current

/-- `free_list_add`: insert in address order. -/
def freeListAdd (h : Heap) (block : Nat) : Option Heap :=
  let h := h.blockSetFree block
  if h.freeList = 0 then
    some (((h.setFreeList block).set block .next 0).bumpFreeBlocks 1)
  else if block < h.freeList then
    some (((h.set block .next h.freeList).setFreeList block).bumpFreeBlocks 1)
  else do
    let current ← h.insertionPoint block h.walkFuel h.freeList
    let h := h.set block .next (h.get current .next)
    some ((h.set current .next block).bumpFreeBlocks 1)

/-- The walk of `free_list_remove`: the cell whose successor is `block`, or the last cell. -/
def predecessor (h : Heap) (block : Nat) : Nat → Nat → Option Nat
  | 0, _ => none
  | fuel + 1, current =>
    let next := h.get current .next
    if next ≠ 0 ∧ next ≠ block then h.predecessor block fuel next else some current

/-- `free_list_remove`. -/
def freeListRemove (h : Heap) (block : Nat) : Option Heap :=
  if h.freeList = 0 then some h
  else if h.freeList = block then
    some (((h.setFreeList (h.get block .next)).set block .next 0).bumpFreeBlocks (-1))
  else do
    let current ← h.predecessor block h.walkFuel h.freeList
    if h.get current .next = block then
      let h := h.set current .next (h.get block .next)
      some ((h.set block .next 0).bumpFreeBlocks (-1))
    else some h

/-- The walk of `find_free_block`. -/
def firstFit (h : Heap) (size : Nat) : Nat → Nat → Option Nat
  | 0, _ => none
  | fuel + 1, current =>
    if current = 0 then some 0
    else if size ≤ h.blockGetSize current then some current
    else h.firstFit size fuel (h.get current .next)

/-- `find_free_block`: first fit, `0` when nothing fits. -/
def findFreeBlock (h : Heap) (size : Nat) : Option Nat := h.firstFit size h.walkFuel h.freeList

/-! ## Splitting and merging -/

/-- Give `block` a new size that reaches over what follows it, and point the block after that
back to it: the common part of the two merges of `coalesce_blocks` and of the in-place growth
of `krealloc`. -/
def resizeOver (h : Heap) (block size : Nat) : Heap :=
  let h := h.set block .size size
  let after := h.blockGetNextPhysical block
  if after ≠ 0 then h.set after .prev block else h

/-- The first half of `coalesce_blocks`: merge with the next block in memory. -/
def coalesceNext (h : Heap) (block : Nat) : Option Heap :=
  let next := h.blockGetNextPhysical block
  if next ≠ 0 ∧ h.blockIsUsed next = false then do
    let h ← h.freeListRemove next
    some (h.resizeOver block (h.blockGetSize block + h.blockGetSize next))
  else some h

/-- The second half of `coalesce_blocks`: merge with the previous block in memory. -/
def coalescePrev (h : Heap) (block : Nat) : Option Heap :=
  let prev := h.get block .prev
  if prev ≠ 0 ∧ h.blockIsUsed prev = false then do
    let h ← h.freeListRemove block
    some (h.resizeOver prev (h.blockGetSize prev + h.blockGetSize block))
  else some h

/-- `coalesce_blocks`. -/
def coalesceBlocks (h : Heap) (block : Nat) : Option Heap :=
  if block = 0 ∨ h.blockIsUsed block = true then some h
  else do
    let h ← h.coalesceNext block
    h.coalescePrev block

/-- `split_block`: cut `block` down to `size` bytes and put the rest on the free list, unless
the rest could not hold a header and a minimal payload. -/
def splitBlock (h : Heap) (block size : Nat) : Option Heap :=
  let blockSize := h.blockGetSize block
  let remaining := blockSize - size
  if remaining < headerSize + 32 then some h
  else do
    let newBlock := block + size
    let h := h.set newBlock .size remaining
    let h := h.set newBlock .prev block
    let h := h.set newBlock .next 0
    let h := h.set newBlock .flags 0
    let h := h.blockSetFree newBlock
    let h := h.set block .size size
    let afterNew := h.blockGetNextPhysical newBlock
    let h := if afterNew ≠ 0 then h.set afterNew .prev newBlock else h
    let h ← h.freeListAdd newBlock
    some { h with stats := { h.stats with blockCount := h.stats.blockCount + 1 } }

/-! ## Growing the heap -/

/-- The walk of `heap_expand` to the last block. -/
def lastBlock (h : Heap) : Nat → Nat → Option Nat
  | 0, _ => none
  | fuel + 1, current =>
    let nextPhys := h.blockGetNextPhysical current
    if nextPhys = 0 then some current else h.lastBlock fuel nextPhys

/-- The bytes `heap_expand` asks for: at least `HEAP_EXPAND_SIZE`, in whole pages. -/
def expandSize (minSize : UInt64) : UInt64 :=
  alignUp (if 65536 < minSize then minSize else 65536) 4096

/-- `heap_expand`.  The pages come from the page allocator, but the new block is placed at
`heap_end` whatever address it answers. -/
def heapExpand (h : Heap) (minSize : UInt64) : Option (Bool × Heap) :=
  let size := expandSize minSize
  if h.heapMax < (h.heapEnd + size.toNat) % 2 ^ 64 then some (false, h)
  else
    let r := pmmAllocPages h.pmm (size >>> 12)
    let h := { h with pmm := r.2 }
    if r.1 = 0 then some (false, h)
    else do
      let newBlock := h.heapEnd
      let h := h.set newBlock .size size.toNat
      let h := h.set newBlock .next 0
      let h := h.set newBlock .flags 0
      let prevBlock ← h.lastBlock h.walkFuel h.heapStart
      let h := h.set newBlock .prev prevBlock
      let h := h.blockSetFree newBlock
      let h := { h with
        heapEnd := h.heapEnd + size.toNat
        stats := { h.stats with
          totalSize := h.stats.totalSize + size
          freeSize := h.stats.freeSize + size
          blockCount := h.stats.blockCount + 1
          expandCount := h.stats.expandCount + 1 } }
      let h ← h.freeListAdd newBlock
      let h ← h.coalesceBlocks newBlock
      some (true, h)

/-- The state before `heap_init`, on a given page allocator and memory. -/
def uninitialised (pmm : Pmm) (mem : Mem) : Heap :=
  { mem := mem, heapStart := 0, heapEnd := 0, heapMax := 0, freeList := 0,
    heapInitialized := false, stats := {}, pmm := pmm }

/-- The bytes `heap_init` asks for: whole pages, at least one. -/
def initialPages (initialSize : UInt64) : UInt64 :=
  if alignUp initialSize 4096 < 4096 then 4096 else alignUp initialSize 4096

/-- `heap_init`.  The requested start address is only aligned and printed: the heap lies where
the page allocator puts it. -/
def heapInit (h : Heap) (_start initialSize : UInt64) : Bool × Heap :=
  if h.heapInitialized then (false, h)
  else
    let size := initialPages initialSize
    let r := pmmAllocPages h.pmm (size >>> 12)
    let h := { h with pmm := r.2 }
    if r.1 = 0 then (false, h)
    else
      let start := r.1.toNat
      let h := { h with
        heapStart := start
        heapEnd := start + size.toNat
        heapMax := start + heapMaxSize
        mem := fillBytes h.mem start 0 size.toNat }
      let h := h.set start .size size.toNat
      let h := h.set start .next 0
      let h := h.set start .prev 0
      let h := h.set start .flags 0
      let h := h.blockSetFree start
      (true, { h with
        freeList := start
        heapInitialized := true
        stats := { totalSize := size, freeSize := size - 32, blockCount := 1, freeBlockCount := 1 } })

/-! ## The allocation interface -/

/-- The block size a request needs: header and at least the minimal payload, aligned. -/
def actualSize (size : UInt64) : UInt64 := alignUp (32 + if 32 < size then size else 32) 16

/-- The part of `kmalloc` after a block has been found. -/
def takeBlock (h : Heap) (block : Nat) (size : Nat) : Option (Nat × Heap) := do
  let h ← h.freeListRemove block
  let h ← h.splitBlock block size
  let h := h.blockSetUsed block
  let blockSize := UInt64.ofNat (h.blockGetSize block)
  let h := { h with stats := { h.stats with
    usedSize := h.stats.usedSize + blockSize
    freeSize := h.stats.freeSize - blockSize
    allocCount := h.stats.allocCount + 1 } }
  some (block + headerSize, h)

/-- `kmalloc`. -/
def kmalloc (h : Heap) (size : UInt64) : Option (Nat × Heap) :=
  if !h.heapInitialized then some (0, h)
  else if size = 0 then some (0, h)
  else do
    let need := actualSize size
    let block ← h.findFreeBlock need.toNat
    if block ≠ 0 then h.takeBlock block need.toNat
    else
      let r ← h.heapExpand need
      if !r.1 then some (0, r.2)
      else
        let block ← r.2.findFreeBlock need.toNat
        if block = 0 then some (0, r.2) else r.2.takeBlock block need.toNat

/-- `kfree`. -/
def kfree (h : Heap) (ptr : Nat) : Option Heap :=
  if ptr = 0 then some h
  else if !h.heapInitialized then some h
  else
    let block := ptr - headerSize
    if h.get block .magic ≠ heapBlockMagic then some h
    else if h.blockIsUsed block = false then some h
    else if block < h.heapStart ∨ h.heapEnd ≤ block then some h
    else do
      let blockSize := UInt64.ofNat (h.blockGetSize block)
      let h := h.blockSetFree block
      let h ← h.freeListAdd block
      let h := { h with stats := { h.stats with
        usedSize := h.stats.usedSize - blockSize
        freeSize := h.stats.freeSize + blockSize
        freeCount := h.stats.freeCount + 1 } }
      h.coalesceBlocks block

/-- `kcalloc`. -/
def kcalloc (h : Heap) (count size : UInt64) : Option (Nat × Heap) :=
  if count ≠ 0 ∧ (18446744073709551615 : UInt64) / count < size then some (0, h)
  else do
    let total := count * size
    let r ← h.kmalloc total
    if r.1 ≠ 0 then some (r.1, { r.2 with mem := fillBytes r.2.mem r.1 0 total.toNat })
    else some r

/-- The in-place branch of `krealloc`: absorb the free block after `block`. -/
def growInPlace (h : Heap) (block next need : Nat) : Option Heap := do
  let combined := h.blockGetSize block + h.blockGetSize next
  let h ← h.freeListRemove next
  let h := h.set block .size combined
  let h := { h with stats := { h.stats with
    freeSize := h.stats.freeSize - UInt64.ofNat (h.blockGetSize next)
    blockCount := h.stats.blockCount - 1 } }
  let after := h.blockGetNextPhysical block
  let h := if after ≠ 0 then h.set after .prev block else h
  h.splitBlock block need

/-- The last branch of `krealloc`: allocate, copy the old payload, free. -/
def moveBlock (h : Heap) (ptr currentSize : Nat) (newSize : UInt64) : Option (Nat × Heap) := do
  let r ← h.kmalloc newSize
  if r.1 = 0 then some (0, r.2)
  else
    let h := { r.2 with mem := copyBytes r.2.mem r.1 ptr currentSize }
    let h ← h.kfree ptr
    some (r.1, h)

/-- `krealloc`. -/
def krealloc (h : Heap) (ptr : Nat) (newSize : UInt64) : Option (Nat × Heap) :=
  if ptr = 0 then h.kmalloc newSize
  else if newSize = 0 then do
    let h ← h.kfree ptr
    some (0, h)
  else if !h.heapInitialized then some (0, h)
  else
    let block := ptr - headerSize
    if h.get block .magic ≠ heapBlockMagic ∨ h.blockIsUsed block = false then some (0, h)
    else
      let currentSize := h.blockGetSize block - headerSize
      let need := (actualSize newSize).toNat
      if newSize.toNat ≤ currentSize then some (ptr, h)
      else
        let next := h.blockGetNextPhysical block
        if next ≠ 0 ∧ h.blockIsUsed next = false ∧
            need ≤ h.blockGetSize block + h.blockGetSize next then do
          let h ← h.growInPlace block next need
          some (ptr, h)
        else h.moveBlock ptr currentSize newSize

/-! ## Loads and stores of header fields

A store to one field of one header is seen by no load of another field or of a header that does
not overlap.  From here on the memory is used through these lemmas only. -/

variable {h h' : Heap} {x y v : Nat} {f g : HeapField}

lemma get_set_self (hv : v < 256 ^ f.width) : (h.set x f v).get x f = v := by
  rw [get, set, readLE_writeLE_self, Nat.mod_eq_of_lt hv]

lemma get_set_apart (hxy : y + 32 ≤ x ∨ x + 32 ≤ y) : (h.set x f v).get y g = h.get y g := by
  refine readLE_writeLE_apart ?_
  cases f <;> cases g <;> simp only [HeapField.offset, HeapField.width] <;> omega

lemma get_set_field (hfg : g ≠ f) : (h.set x f v).get x g = h.get x g := by
  refine readLE_writeLE_apart ?_
  cases f <;> cases g <;> simp_all [HeapField.offset, HeapField.width]

@[simp] lemma get_set_same : (h.set x f v).get x g = if g = f then v % 256 ^ f.width else h.get x g := by
  split_ifs with hgf
  · rw [hgf, get, set, readLE_writeLE_self]
  · exact get_set_field hgf

/-- A store to one field of a header leaves every other field of every header. -/
lemma get_set_ne (hxy : y = x ∨ y + 32 ≤ x ∨ x + 32 ≤ y) (hne : y ≠ x ∨ g ≠ f) :
    (h.set x f v).get y g = h.get y g := by
  rcases hxy with rfl | hxy
  · exact get_set_field (hne.resolve_left (by simp))
  · exact get_set_apart hxy

lemma set_mem_outside {a : Nat} (ha : a < x ∨ x + 32 ≤ a) : (h.set x f v).mem a = h.mem a := by
  refine writeLE_outside ?_
  cases f <;> simp only [HeapField.offset, HeapField.width] <;> omega

section Fields

@[simp] lemma set_freeList : (h.set x f v).freeList = h.freeList := rfl
@[simp] lemma set_heapStart : (h.set x f v).heapStart = h.heapStart := rfl
@[simp] lemma set_heapEnd : (h.set x f v).heapEnd = h.heapEnd := rfl
@[simp] lemma set_heapMax : (h.set x f v).heapMax = h.heapMax := rfl
@[simp] lemma set_heapInitialized : (h.set x f v).heapInitialized = h.heapInitialized := rfl
@[simp] lemma set_pmm : (h.set x f v).pmm = h.pmm := rfl

@[simp] lemma setFreeList_freeList (p : Nat) : (h.setFreeList p).freeList = p := rfl

@[simp] lemma bumpFreeBlocks_freeList (d : UInt64) : (h.bumpFreeBlocks d).freeList = h.freeList := rfl

end Fields

lemma get_congr (hmem : h'.mem = h.mem) : h'.get y g = h.get y g := by
  rw [get, get, hmem]

@[simp] lemma get_setFreeList (p : Nat) : (h.setFreeList p).get y g = h.get y g := get_congr rfl

@[simp] lemma get_stats (st : HeapStats) : { h with stats := st }.get y g = h.get y g :=
  get_congr rfl

@[simp] lemma get_bumpFreeBlocks (d : UInt64) : (h.bumpFreeBlocks d).get y g = h.get y g :=
  get_congr rfl

lemma get_lt (h : Heap) (x : Nat) (f : HeapField) : h.get x f < 256 ^ f.width := readLE_lt _ _ _


attribute [irreducible] get set setFreeList bumpFreeBlocks

end Heap

end AAAos
