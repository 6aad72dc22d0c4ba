import AAAos.Kernel.Mm.Pmm
import AAAos.Lib.RadixTable

/-!
# The virtual memory manager

`kernel/mm/vmm.c`: four levels of tables of 512 words, built on demand in pages that come from the
page allocator.  Physical memory is seen as tables: `mem t i` is word `i` of the page at physical
address `t`.  Addresses of tables are page aligned, so two tables are the same page or do not
overlap.

`alloc_page_table` asks for a page and clears it.  The page allocator is a state of any type
`α` with a function `palloc : α → UInt64 × α`: the physical memory manager in the kernel, or any
other source of pages.  The pointer to a page table entry that `vmm_walk` returns is a table and
an index.  The lock, the TLB and the serial output are not modelled.
-/

namespace AAAos

/-- `VMM_FLAG_PRESENT`. -/
def vmmFlagPresent : UInt64 := 0x1

/-- `VMM_FLAG_WRITE`. -/
def vmmFlagWrite : UInt64 := 0x2

/-- `VMM_FLAG_USER`. -/
def vmmFlagUser : UInt64 := 0x4

/-- `VMM_FLAG_HUGE`. -/
def vmmFlagHuge : UInt64 := 0x80

/-- `VMM_FLAGS_KERNEL`. -/
def vmmFlagsKernel : UInt64 := vmmFlagPresent ||| vmmFlagWrite

/-- `VMM_ADDR_MASK`: bits 12 to 51. -/
def vmmAddrMask : UInt64 := 0x000FFFFFFFFFF000

/-- Nine bits of a virtual address, from bit `shift` on, as an index into a table. -/
def tableIndex (virt shift : UInt64) : Fin 512 :=
  ⟨((virt >>> shift) &&& 0x1FF).toNat % 512, Nat.mod_lt _ (by decide)⟩

/-- `VMM_PML4_INDEX`. -/
def pml4Index (virt : UInt64) : Fin 512 := tableIndex virt 39

/-- `VMM_PDPT_INDEX`. -/
def pdptIndex (virt : UInt64) : Fin 512 := tableIndex virt 30

/-- `VMM_PD_INDEX`. -/
def pdIndex (virt : UInt64) : Fin 512 := tableIndex virt 21

/-- `VMM_PT_INDEX`. -/
def ptIndex (virt : UInt64) : Fin 512 := tableIndex virt 12

/-- `VMM_PAGE_OFFSET`. -/
def pageOffset (virt : UInt64) : UInt64 := virt &&& 0xFFF

/-- The tables in memory, the root of the kernel's, the register that holds the current root, and
the page allocator. -/
structure Vmm (α : Type) where
  mem : UInt64 → Fin 512 → UInt64
  kernelPml4 : UInt64
  cr3 : UInt64
  pages : α

namespace Vmm

variable {α : Type} (palloc : α → UInt64 × α)

/-- An entry with the `PRESENT` flag. -/
def present (entry : UInt64) : Bool := (entry &&& vmmFlagPresent) != 0

/-- `table->entries[index] = entry`. -/
def setEntry (s : Vmm α) (table : UInt64) (index : Fin 512) (entry : UInt64) : Vmm α :=
  { s with mem := RadixTable.store s.mem table index entry }

/-- `alloc_page_table`: a page of zeros, or `0`. -/
def allocPageTable (s : Vmm α) : UInt64 × Vmm α :=
  let r := palloc s.pages
  if r.1 = 0 then (0, { s with pages := r.2 })
  else (r.1, { s with mem := RadixTable.fill s.mem r.1 0, pages := r.2 })

/-- The flags of a new table's entry: `PRESENT`, `WRITE`, and `USER` if asked for. -/
def entryFlags (flags : UInt64) : UInt64 :=
  if flags &&& vmmFlagUser ≠ 0 then vmmFlagPresent ||| vmmFlagWrite ||| vmmFlagUser
  else vmmFlagPresent ||| vmmFlagWrite

/-- `get_or_create_entry`: the table that an entry points to, or `0`.  An entry that is present is
left as it is, whatever its flags. -/
def getOrCreateEntry (s : Vmm α) (table : UInt64) (index : Fin 512) (create : Bool)
    (flags : UInt64) : UInt64 × Vmm α :=
  if present (s.mem table index) then (s.mem table index &&& vmmAddrMask, s)
  else if !create then (0, s)
  else
    let r := allocPageTable palloc s
    if r.1 = 0 then (0, r.2)
    else (r.1, r.2.setEntry table index (r.1 ||| entryFlags flags))

/-- `vmm_walk`: the table and the index of the entry for `virt`. -/
def vmmWalk (s : Vmm α) (pml4 virt : UInt64) (create : Bool) (flags : UInt64) :
    Option (UInt64 × Fin 512) × Vmm α :=
  let pdpt := getOrCreateEntry palloc s pml4 (pml4Index virt) create flags
  if pdpt.1 = 0 then (none, pdpt.2)
  else
    let pd := getOrCreateEntry palloc pdpt.2 pdpt.1 (pdptIndex virt) create flags
    if pd.1 = 0 then (none, pd.2)
    else
      let pt := getOrCreateEntry palloc pd.2 pd.1 (pdIndex virt) create flags
      if pt.1 = 0 then (none, pt.2)
      else (some (pt.1, ptIndex virt), pt.2)

/-- The entry that `vmm_map_page` writes. -/
def pageEntry (phys flags : UInt64) : UInt64 :=
  (phys &&& vmmAddrMask) ||| (flags &&& ~~~vmmAddrMask) ||| vmmFlagPresent

/-- `vmm_map_page` in the address space of a given root. -/
def vmmMapIn (s : Vmm α) (pml4 virt phys flags : UInt64) : Bool × Vmm α :=
  if !isAligned virt 4096 || !isAligned phys 4096 then (false, s)
  else
    match vmmWalk palloc s pml4 virt true flags with
    | (none, s) => (false, s)
    | (some (pt, i), s) => (true, s.setEntry pt i (pageEntry phys flags))

/-- The root that the mapping calls use: the kernel's, before `vmm_init` the current one. -/
def root (s : Vmm α) : UInt64 := if s.kernelPml4 = 0 then s.cr3 &&& vmmAddrMask else s.kernelPml4

/-- `vmm_map_page`. -/
def vmmMapPage (s : Vmm α) (virt phys flags : UInt64) : Bool × Vmm α :=
  vmmMapIn palloc s s.root virt phys flags

/-- The entry for `virt`, `none` when a table on the way is missing.  The walk without creation
neither asks for pages nor changes anything. -/
def lookupEntry (s : Vmm α) (virt : UInt64) : Option (UInt64 × Fin 512) :=
  (vmmWalk palloc s s.root virt false 0).1

/-- `vmm_unmap_page`. -/
def vmmUnmapPage (s : Vmm α) (virt : UInt64) : UInt64 × Vmm α :=
  if !isAligned virt 4096 then (0, s)
  else
    match lookupEntry palloc s virt with
    | none => (0, s)
    | some (pt, i) =>
      if !present (s.mem pt i) then (0, s)
      else (s.mem pt i &&& vmmAddrMask, s.setEntry pt i 0)

/-- `vmm_get_physical`. -/
def vmmGetPhysical (s : Vmm α) (virt : UInt64) : UInt64 :=
  match lookupEntry palloc s virt with
  | none => 0
  | some (pt, i) =>
    if !present (s.mem pt i) then 0 else (s.mem pt i &&& vmmAddrMask) ||| pageOffset virt

/-- `vmm_is_mapped`. -/
def vmmIsMapped (s : Vmm α) (virt : UInt64) : Bool :=
  match lookupEntry palloc s virt with
  | none => false
  | some (pt, i) => present (s.mem pt i)

/-! ## Address spaces -/

/-- `vmm_switch_address_space`. -/
def vmmSwitchAddressSpace (s : Vmm α) (pml4 : UInt64) : Vmm α :=
  if pml4 = 0 then s
  else if s.cr3 &&& vmmAddrMask ≠ pml4 then { s with cr3 := pml4 }
  else s

/-- The identity mapping loop of `vmm_init`: `n` pages from page `page` on. -/
def identityMap (s : Vmm α) (page : Nat) : Nat → Vmm α
  | 0 => s
  | n + 1 =>
    let addr := UInt64.ofNat (4096 * page)
    identityMap (vmmMapPage palloc s addr addr vmmFlagsKernel).2 (page + 1) n

/-- `vmm_init`: a new root, and the first 4 MB and then the first 16 MB mapped to themselves. -/
def vmmInit (s : Vmm α) : Vmm α :=
  let r := allocPageTable palloc s
  let s := { r.2 with kernelPml4 := r.1 }
  if r.1 = 0 then s
  else
    let s := identityMap palloc s 0 1024
    let s := identityMap palloc s 1024 3072
    s.vmmSwitchAddressSpace s.kernelPml4

/-- What `vmm_create_address_space` copies: the upper half, and in the lower half the entries that
are present and not for users. -/
def copiedEntry (i : Fin 512) (entry : UInt64) : UInt64 :=
  if 256 ≤ i.val then entry
  else if present entry ∧ entry &&& vmmFlagUser = 0 then entry
  else 0

/-- `vmm_create_address_space`: the new root, or `0`. -/
def vmmCreateAddressSpace (s : Vmm α) : UInt64 × Vmm α :=
  let r := allocPageTable palloc s
  if r.1 = 0 then (0, r.2)
  else if r.2.kernelPml4 = 0 then r
  else
    (r.1, { r.2 with
      mem := Function.update r.2.mem r.1 fun i => copiedEntry i (r.2.mem r.2.kernelPml4 i) })

end Vmm

/-! ## Teardown

Tables are given back to the physical memory manager itself, which does not touch their
contents. -/

namespace Vmm

/-- The body of the loop of `free_page_table_recursive`; `below` is the recursive call. -/
def freeEntry (below : UInt64 → Pmm → Pmm) (p : Pmm) (entry : UInt64) : Pmm :=
  if !present entry then p
  else if entry &&& vmmFlagHuge ≠ 0 then p
  else
    let child := entry &&& vmmAddrMask
    pmmFreePages (below child p) child 1

/-- `free_page_table_recursive`, by the number of levels of tables below this one: `3` for a PML4,
`0` for a page table. -/
def freePageTableRecursive (mem : UInt64 → Fin 512 → UInt64) :
    Nat → UInt64 → Bool → Pmm → Pmm
  | 0, table, freeUserOnly, p =>
    if table = 0 then p
    else ((List.finRange 512).take (if freeUserOnly then 256 else 512)).foldl
      (fun p i => freeEntry (fun _ p => p) p (mem table i)) p
  | n + 1, table, freeUserOnly, p =>
    if table = 0 then p
    else ((List.finRange 512).take (if freeUserOnly then 256 else 512)).foldl
      (fun p i => freeEntry (fun child p => freePageTableRecursive mem n child false p) p
        (mem table i)) p

/-- `vmm_destroy_address_space`. -/
def vmmDestroyAddressSpace (s : Vmm Pmm) (pml4 : UInt64) : Vmm Pmm :=
  if pml4 = 0 ∨ pml4 = s.kernelPml4 then s
  else if pml4 = s.cr3 &&& vmmAddrMask then s
  else { s with pages := pmmFreePages (freePageTableRecursive s.mem 3 pml4 true s.pages) pml4 1 }

/-- `pmm_alloc_page`. -/
def pmmAllocPage (p : Pmm) : UInt64 × Pmm := pmmAllocPages p 1

end Vmm

end AAAos
