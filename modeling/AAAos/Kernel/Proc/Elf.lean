import AAAos.Kernel.Mm.VmmTree
import AAAos.Lib.Prog

/-!
# The ELF loader

`kernel/proc/elf.c`: `elf_validate`, `elf_load_segment`, the relocations, `elf_load_at` and `elf_load`.

The loader is a program over the memory that it runs in: it loads words, asks which pages are mapped,
has pages allocated and mapped, and clears, copies and stores bytes.  The file lies in that memory as
well, and its headers are read there each time.  `ElfMachine` answers these calls with the page tables
of `vmm.c` and a byte at every virtual address, apart from the tables (a frame that is mapped at two
addresses is not followed); which pages it has mapped for the loader is kept beside.  An access to a
page that is not mapped, or to an address that is not canonical, faults, and a fault is the end: the
program hangs.  Supervisor accesses ignore the write flag of a page, since the kernel does not set
`CR0.WP`.

The output structure is a value, and the printing is left out.
-/

namespace AAAos

/-! ## Constants -/

/-- `ET_EXEC`. -/
def etExec : UInt16 := 2

/-- `ET_DYN`. -/
def etDyn : UInt16 := 3

/-- `EM_X86_64`. -/
def emX8664 : UInt16 := 0x3E

def ptLoad : UInt32 := 1
def ptDynamic : UInt32 := 2
def ptInterp : UInt32 := 3
def pfX : UInt32 := 1
def pfW : UInt32 := 2
def dtNull : UInt64 := 0
def dtRela : UInt64 := 7
def dtRelasz : UInt64 := 8
def dtRelaent : UInt64 := 9

/-- `R_X86_64_RELATIVE`. -/
def rX8664Relative : UInt64 := 8

/-- `VMM_FLAG_NX`. -/
def vmmFlagNx : UInt64 := 0x8000000000000000

/-- `sizeof(elf64_header_t)`. -/
def elfHeaderSize : UInt64 := 64

/-- `PIE_DEFAULT_BASE`. -/
def pieDefaultBase : UInt64 := 0x400000

/-- `elf_error_t`. -/
inductive ElfError
  | success | nullPointer | tooSmall | badMagic | not64bit | badEndian | badVersion | notExecutable
  | wrongArch | noSegments | outOfMemory | invalidSegment | mappingFailed | relocationFailed
deriving DecidableEq, Repr

/-- `elf_load_info_t`. -/
structure ElfLoadInfo where
  entryPoint : UInt64 := 0
  baseAddress : UInt64 := 0
  loadEnd : UInt64 := 0
  bssStart : UInt64 := 0
  bssEnd : UInt64 := 0
  isPie : Bool := false
  hasInterp : Bool := false
  interpPath : List UInt8 := []
deriving DecidableEq

/-! ## The calls -/

/-- What the loader does with the memory: the words it loads, and the calls of `vmm.c`, `pmm.c` and of
its own loops over bytes. -/
inductive ElfCall
  | load (addr : UInt64) (size : Nat)
  | isMapped (virt : UInt64)
  | allocPage
  | mapPage (virt phys flags : UInt64)
  | freePage (phys : UInt64)
  | memset (dest : UInt64) (n : Nat)
  | memcpy (dest src : UInt64) (n : Nat)
  | store (addr value : UInt64)

/-- The replies.  An access replies `none` or `false` if it faults. -/
def elfInterface : Interface where
  Call := ElfCall
  Reply
    | .load _ _ => Option Nat
    | .isMapped _ => Bool
    | .allocPage => UInt64
    | .mapPage _ _ _ => Bool
    | .freePage _ => Unit
    | .memset _ _ => Bool
    | .memcpy _ _ _ => Bool
    | .store _ _ => Bool

abbrev Elf := Prog elfInterface

/-! ## The memory -/

/-- The page tables, the bytes at virtual addresses, the pages that were mapped for the loader, and
those that it gave back. -/
structure ElfMachine (α : Type) where
  vmm : Vmm α
  bytes : UInt64 → UInt8
  own : Nat → Bool := fun _ => false
  freed : List UInt64 := []

/-- Bits 47 to 63 are equal. -/
def canonical (addr : UInt64) : Bool := addr < 0x800000000000 || 0xFFFF800000000000 ≤ addr

/-- A little-endian number. -/
def loadBytes (bytes : UInt64 → UInt8) (addr : UInt64) : Nat → Nat
  | 0 => 0
  | n + 1 => (bytes addr).toNat + 256 * loadBytes bytes (addr + 1) n

namespace ElfMachine

variable {α : Type} (palloc : α → UInt64 × α) (m : ElfMachine α)

/-- The byte can be accessed. -/
def accessible (addr : UInt64) : Bool := canonical addr && Vmm.vmmIsMapped palloc m.vmm addr

/-- All of some bytes can be accessed. -/
def accessibleAll (addr : UInt64) (n : Nat) : Bool :=
  (List.range n).all fun k => m.accessible palloc (addr + UInt64.ofNat k)

def setByte (addr : UInt64) (value : UInt8) : ElfMachine α :=
  { m with bytes := Function.update m.bytes addr value }

/-- `elf_memset` with zero, up to a fault. -/
def memset : Nat → UInt64 → ElfMachine α → Bool × ElfMachine α
  | 0, _, m => (true, m)
  | n + 1, dest, m =>
    if m.accessible palloc dest then memset n (dest + 1) (m.setByte dest 0) else (false, m)

/-- `elf_memcpy`, up to a fault. -/
def memcpy : Nat → UInt64 → UInt64 → ElfMachine α → Bool × ElfMachine α
  | 0, _, _, m => (true, m)
  | n + 1, dest, src, m =>
    if m.accessible palloc src && m.accessible palloc dest then
      memcpy n (dest + 1) (src + 1) (m.setByte dest (m.bytes src))
    else (false, m)

/-- The bytes of a store, the lowest first. -/
def setBytes : Nat → UInt64 → UInt64 → ElfMachine α → ElfMachine α
  | 0, _, _, m => m
  | n + 1, addr, value, m => setBytes n (addr + 1) (value >>> 8) (m.setByte addr value.toUInt8)

/-- A store of a word of 64 bits. -/
def store (addr value : UInt64) : Bool × ElfMachine α :=
  if m.accessibleAll palloc addr 8 then (true, setBytes 8 addr value m) else (false, m)

/-- `vmm_map_page`; a page that was mapped is the loader's own. -/
def mapPage (virt phys flags : UInt64) : Bool × ElfMachine α :=
  let r := Vmm.vmmMapPage palloc m.vmm virt phys flags
  (r.1, { m with
    vmm := r.2
    own := if r.1 then Function.update m.own (Vmm.pageNumber virt) true else m.own })

/-- `pmm_alloc_page`. -/
def allocPage : UInt64 × ElfMachine α :=
  ((palloc m.vmm.pages).1, { m with vmm := { m.vmm with pages := (palloc m.vmm.pages).2 } })

end ElfMachine

/-- What answers the calls of the loader. -/
def elfMachine {α : Type} (palloc : α → UInt64 × α) : Machine elfInterface (ElfMachine α)
  | .load addr size, m =>
    (if m.accessibleAll palloc addr size then some (loadBytes m.bytes addr size) else none, m)
  | .isMapped virt, m => (Vmm.vmmIsMapped palloc m.vmm virt, m)
  | .allocPage, m => m.allocPage palloc
  | .mapPage virt phys flags, m => m.mapPage palloc virt phys flags
  | .freePage phys, m => ((), { m with freed := phys :: m.freed })
  | .memset dest n, m => ElfMachine.memset palloc n dest m
  | .memcpy dest src n, m => ElfMachine.memcpy palloc n dest src m
  | .store addr value, m => m.store palloc addr value

/-! ## Reading the file -/

/-- A call is made. -/
def ElfCall.issue (c : ElfCall) : Elf (elfInterface.Reply c) := Prog.issue (I := elfInterface) c

namespace Elf

/-- An access that may fault. -/
def access (c : Elf Bool) : Elf Unit := do
  if ← c then return () else Prog.hang

def isMapped (virt : UInt64) : Elf Bool := (ElfCall.isMapped virt).issue
def allocPage : Elf UInt64 := ElfCall.allocPage.issue
def mapPage (virt phys flags : UInt64) : Elf Bool := (ElfCall.mapPage virt phys flags).issue
def freePage (phys : UInt64) : Elf Unit := (ElfCall.freePage phys).issue
def memset (dest : UInt64) (n : Nat) : Elf Unit := access (ElfCall.memset dest n).issue
def memcpy (dest src : UInt64) (n : Nat) : Elf Unit := access (ElfCall.memcpy dest src n).issue
def store (addr value : UInt64) : Elf Unit := access (ElfCall.store addr value).issue

end Elf

/-- The number in `size` bytes. -/
def field (size : Nat) (addr : UInt64) : Elf Nat := do
  match ← (ElfCall.load addr size).issue with
  | some value => return value
  | none => Prog.hang

def field8 (addr : UInt64) : Elf UInt8 := do return UInt8.ofNat (← field 1 addr)
def field16 (addr : UInt64) : Elf UInt16 := do return UInt16.ofNat (← field 2 addr)
def field32 (addr : UInt64) : Elf UInt32 := do return UInt32.ofNat (← field 4 addr)
def field64 (addr : UInt64) : Elf UInt64 := do return UInt64.ofNat (← field 8 addr)

/-- `index * e_phentsize`, which is an `int`. -/
def phdrOffset (index phentsize : UInt16) : UInt64 :=
  (Int32.ofNat index.toNat * Int32.ofNat phentsize.toNat).toInt64.toUInt64

/-- `elf_validate`. -/
def elfValidate (data size : UInt64) : Elf ElfError := do
  if data = 0 then return .nullPointer
  if size < elfHeaderSize then return .tooSmall
  if (← field8 data) ≠ 0x7F then return .badMagic
  if (← field8 (data + 1)) ≠ 0x45 then return .badMagic
  if (← field8 (data + 2)) ≠ 0x4C then return .badMagic
  if (← field8 (data + 3)) ≠ 0x46 then return .badMagic
  if (← field8 (data + 4)) ≠ 2 then return .not64bit
  if (← field8 (data + 5)) ≠ 1 then return .badEndian
  if (← field8 (data + 6)) ≠ 1 then return .badVersion
  if (← field32 (data + 20)) ≠ 1 then return .badVersion
  let type ← field16 (data + 16)
  if type ≠ etExec ∧ type ≠ etDyn then return .notExecutable
  if (← field16 (data + 18)) ≠ emX8664 then return .wrongArch
  let phnum ← field16 (data + 56)
  if phnum = 0 then return .noSegments
  let phoff ← field64 (data + 32)
  if phoff = 0 then return .noSegments
  let phentsize ← field16 (data + 54)
  if size < phoff + phdrOffset phnum phentsize then return .tooSmall
  return .success

/-- `elf_is_pie`. -/
def elfIsPie (data : UInt64) : Elf Bool := do
  let type ← field16 (data + 16)
  if type ≠ etDyn then return false
  let entry ← field64 (data + 24)
  return entry ≠ 0

/-- `elf_get_phdr`. -/
def elfGetPhdr (data : UInt64) (index : UInt16) : Elf UInt64 := do
  let phnum ← field16 (data + 56)
  if phnum ≤ index then return 0
  let phoff ← field64 (data + 32)
  let phentsize ← field16 (data + 54)
  return data + phoff + phdrOffset index phentsize

/-- The loops over the program headers: the body leaves the loop, or goes on. -/
def forPhdrs {β ρ : Type} (data : UInt64) (body : UInt64 → β → Elf (β ⊕ ρ)) (finish : β → ρ) (b : β) :
    Elf ρ :=
  Prog.loop (fun (x : UInt16 × β) => do
    let phnum ← field16 (data + 56)
    if x.1 < phnum then
      let phdr ← elfGetPhdr data x.1
      match ← body phdr x.2 with
      | .inl b => return .inl (x.1 + 1, b)
      | .inr r => return .inr r
    else return .inr (finish x.2)) (2 ^ 16) (0, b)

/-! ## Segments -/

/-- `elf_flags_to_vmm`. -/
def elfFlagsToVmm (pFlags : UInt32) : UInt64 :=
  let flags := vmmFlagPresent ||| vmmFlagUser
  let flags := if pFlags &&& pfW ≠ 0 then flags ||| vmmFlagWrite else flags
  if pFlags &&& pfX = 0 then flags ||| vmmFlagNx else flags

/-- The loop that allocates and maps the pages of a segment, from the page at `page` on: the error, if
there is one. -/
def mapPages (flags : UInt64) : Nat → UInt64 → Elf (Option ElfError)
  | 0, _ => return none
  | n + 1, page => do
    if ← Elf.isMapped page then mapPages flags n (page + 4096)
    else
      let phys ← Elf.allocPage
      if phys = 0 then return some .outOfMemory
      else if ← Elf.mapPage page phys flags then
        Elf.memset page pageSize
        mapPages flags n (page + 4096)
      else
        Elf.freePage phys
        return some .mappingFailed

/-- `elf_load_segment`. -/
def elfLoadSegment (phdr fileData baseAddr : UInt64) : Elf ElfError := do
  if phdr = 0 ∨ fileData = 0 then return .nullPointer
  if (← field32 phdr) ≠ ptLoad then return .success
  let vaddr := (← field64 (phdr + 16)) + baseAddr
  let vaddrAligned := alignDown vaddr 4096
  let memsz ← field64 (phdr + 40)
  let filesz ← field64 (phdr + 32)
  if memsz = 0 then return .success
  let numPages := alignUp (vaddr - vaddrAligned + memsz) 4096 / 4096
  let flags := elfFlagsToVmm (← field32 (phdr + 4))
  match ← mapPages flags numPages.toNat vaddrAligned with
  | some err => return err
  | none =>
    if filesz = 0 then return .success
    let offset ← field64 (phdr + 8)
    Elf.memcpy vaddr (fileData + offset) filesz.toNat
    return .success

/-! ## Relocations -/

/-- The tables that the dynamic section names: address, size, and size of an entry. -/
structure RelaTable where
  addr : UInt64 := 0
  size : UInt64 := 0
  ent : UInt64 := 0

/-- The loop over the dynamic section.  After `2 ^ 60` entries the pointer is back where it began, and
nothing has changed. -/
def findRela (dyn : UInt64) : Elf RelaTable :=
  Prog.loop (fun (x : UInt64 × RelaTable) => do
    let tag ← field64 x.1
    if tag = dtNull then return .inr x.2
    else if tag = dtRela then
      let value ← field64 (x.1 + 8)
      return .inl (x.1 + 16, { x.2 with addr := value })
    else if tag = dtRelasz then
      let value ← field64 (x.1 + 8)
      return .inl (x.1 + 16, { x.2 with size := value })
    else if tag = dtRelaent then
      let value ← field64 (x.1 + 8)
      return .inl (x.1 + 16, { x.2 with ent := value })
    else return .inl (x.1 + 16, x.2)) (2 ^ 60) (dyn, {})

/-- The loop over the relocations, from the entry at `rela` on. -/
def applyRelas (ent baseAddr : UInt64) : Nat → UInt64 → Elf Unit
  | 0, _ => return ()
  | n + 1, rela => do
    let info ← field64 (rela + 8)
    let target := (← field64 rela) + baseAddr
    if info &&& 0xFFFFFFFF = rX8664Relative then
      let addend ← field64 (rela + 16)
      Elf.store target (baseAddr + addend)
      applyRelas ent baseAddr n (rela + ent)
    else applyRelas ent baseAddr n (rela + ent)

/-- `elf_apply_relocations`, which has no error to return. -/
def elfApplyRelocations (data baseAddr : UInt64) : Elf Unit := do
  let found ← forPhdrs data (fun phdr (_ : Unit) => do
    if (← field32 phdr) = ptDynamic then return .inr (some phdr) else return .inl ())
    (fun _ => none) ()
  match found with
  | none => return ()
  | some phdr =>
    let offset ← field64 (phdr + 8)
    let table ← findRela (data + offset)
    if table.addr = 0 ∨ table.size = 0 ∨ table.ent = 0 then return ()
    else applyRelas table.ent baseAddr (table.size / table.ent).toNat (table.addr + baseAddr)

/-! ## Loading -/

/-- `elf_strlen`. -/
def elfStrlen (s : UInt64) : Elf UInt64 :=
  Prog.loop (fun (len : UInt64) => do
    if (← field8 (s + len)) = 0 then return .inr len else return .inl (len + 1)) (2 ^ 64) 0

/-- `elf_strncpy`: the bytes before the first NUL, at most `n`. -/
def elfStrncpy : Nat → UInt64 → Elf (List UInt8)
  | 0, _ => return []
  | n + 1, src => do
    let c ← field8 src
    if c = 0 then return [] else return c :: (← elfStrncpy n (src + 1))

/-- `elf_process_interp`. -/
def elfProcessInterp (data : UInt64) (info : ElfLoadInfo) : Elf ElfLoadInfo :=
  forPhdrs data (fun phdr (_ : Unit) => do
    if (← field32 phdr) ≠ ptInterp then return .inl ()
    else if (← field64 (phdr + 32)) = 0 then return .inl ()
    else
      let interp := data + (← field64 (phdr + 8))
      let len ← elfStrlen interp
      let path ← elfStrncpy (min len.toNat 255) interp
      return .inr { info with hasInterp := true, interpPath := path })
    (fun _ => { info with hasInterp := false, interpPath := [] }) ()

/-- What `elf_load_at` notes of a segment: the BSS and the end. -/
def ElfLoadInfo.track (info : ElfLoadInfo) (vaddr filesz memsz baseAddr : UInt64) : ElfLoadInfo :=
  if filesz < memsz then
    let bssStart := vaddr + filesz + baseAddr
    let bssEnd := vaddr + memsz + baseAddr
    { info with
      bssStart := if info.bssStart = 0 ∨ bssStart < info.bssStart then bssStart else info.bssStart
      bssEnd := if info.bssEnd < bssEnd then bssEnd else info.bssEnd }
  else info

/-- The loop over the segments in `elf_load_at`: the error, if there is one, and what was noted. -/
def loadSegments (data baseAddr : UInt64) (info : ElfLoadInfo) :
    Elf (Option ElfError × ElfLoadInfo × UInt64) :=
  forPhdrs data (fun phdr (x : ElfLoadInfo × UInt64) => do
    if (← field32 phdr) ≠ ptLoad then return .inl x
    else
      let err ← elfLoadSegment phdr data baseAddr
      if err ≠ .success then return .inr (some err, x)
      else
        let memsz ← field64 (phdr + 40)
        let filesz ← field64 (phdr + 32)
        let vaddr ← field64 (phdr + 16)
        let segEnd := vaddr + memsz + baseAddr
        return .inl (x.1.track vaddr filesz memsz baseAddr, if x.2 < segEnd then segEnd else x.2))
    (fun x => (none, x)) (info, 0)

/-- `elf_load_at`.  There is no output structure if `info` is null. -/
def elfLoadAt (data size baseAddr : UInt64) (info : Option ElfLoadInfo) :
    Elf (ElfError × Option ElfLoadInfo) := do
  let err ← elfValidate data size
  if err ≠ .success then return (err, info)
  match info with
  | none => return (.nullPointer, none)
  | some info =>
    let isPie ← elfIsPie data
    let type ← field16 (data + 16)
    let baseAddr := if type = etExec ∧ baseAddr ≠ 0 then 0 else baseAddr
    let info ← elfProcessInterp data
      { info with isPie := isPie, baseAddress := baseAddr, bssStart := 0, bssEnd := 0 }
    match ← loadSegments data baseAddr info with
    | (some err, info, _) => return (err, some info)
    | (none, info, loadEnd) =>
      if isPie then elfApplyRelocations data baseAddr
      let entry ← field64 (data + 24)
      return (.success, some { info with loadEnd := loadEnd, entryPoint := entry + baseAddr })

/-- `elf_calc_load_range`: the least address. -/
def elfCalcLoadRange (data : UInt64) : Elf (UInt64 × UInt64) :=
  forPhdrs data (fun phdr (x : UInt64 × UInt64) => do
    if (← field32 phdr) ≠ ptLoad then return .inl x
    else
      let memsz ← field64 (phdr + 40)
      if memsz = 0 then return .inl x
      else
        let vaddr ← field64 (phdr + 16)
        let segEnd := vaddr + memsz
        return .inl (if vaddr < x.1 then vaddr else x.1, if x.2 < segEnd then segEnd else x.2))
    id (0xFFFFFFFFFFFFFFFF, 0)

/-- `elf_load`. -/
def elfLoad (data size : UInt64) (info : Option ElfLoadInfo) : Elf (ElfError × Option ElfLoadInfo) := do
  let err ← elfValidate data size
  if err ≠ .success then return (err, info)
  let type ← field16 (data + 16)
  if type = etDyn then
    let range ← elfCalcLoadRange data
    if range.1 = 0 ∨ range.1 < pieDefaultBase then elfLoadAt data size pieDefaultBase info
    else elfLoadAt data size 0 info
  else elfLoadAt data size 0 info

end AAAos
