import AAAos.Kernel.Proc.ElfUnwind

/-!
# What loading a program reads

The loader follows offsets, counts and sizes that the file chooses.

**What goes wrong.**  `elf_validate` compares the end of the program headers with the size as a sum that
wraps, and with the entry size of the file, which may be less than a header (`reads_behind_file`).  The
bytes of a segment, the interpreter's string and the dynamic section are not compared with the size, and
the relocation table is not compared with anything.

**What is proved.**  If `elf_validate` refuses the file, or its tables are placed inside (`Placed`), then
a call that writes to no page of before and never faults ends, and reads only the file and the segments
it has loaded (`reads_inside`).  The file is read more than once, so the calls are first followed over a
file that stays as it is (`Reads`), and the run then keeps it so (`framed_iff`).
-/

namespace AAAos

/-- The memory when the loader is called, and the file in it. -/
structure ElfImage where
  bytes : UInt64 → UInt8
  data : UInt64
  size : UInt64

/-- The `n` bytes at `a` are among the `len` bytes from `start` on. -/
def InSpan (start len : Nat) (a : UInt64) (n : Nat) : Prop :=
  start ≤ a.toNat ∧ a.toNat + n ≤ start + len ∧ a.toNat + n ≤ 2 ^ 64

lemma InSpan.part {start len n m : Nat} {a : UInt64} (h : InSpan start len a n) (x : UInt64) (hm : 0 < m)
    (hx : x.toNat + m ≤ n) : InSpan start len (a + x) m := by
  obtain ⟨hlow, hhigh, htop⟩ := h
  have hadd : (a + x).toNat = a.toNat + x.toNat := by
    rw [UInt64.toNat_add, Nat.mod_eq_of_lt (by omega)]
  refine ⟨?_, ?_, ?_⟩ <;> omega

namespace ElfImage

variable (e : ElfImage)

def b8 (a : UInt64) : UInt8 := UInt8.ofNat (loadBytes e.bytes a 1)
def b16 (a : UInt64) : UInt16 := UInt16.ofNat (loadBytes e.bytes a 2)
def b32 (a : UInt64) : UInt32 := UInt32.ofNat (loadBytes e.bytes a 4)
def b64 (a : UInt64) : UInt64 := UInt64.ofNat (loadBytes e.bytes a 8)

def phnum : UInt16 := e.b16 (e.data + 56)

/-- The program header with this index. -/
def phdr (i : UInt16) : UInt64 := e.data + e.b64 (e.data + 32) + phdrOffset i (e.b16 (e.data + 54))

def type (i : UInt16) : UInt32 := e.b32 (e.phdr i)
def offset (i : UInt16) : UInt64 := e.b64 (e.phdr i + 8)
def vaddr (i : UInt16) : UInt64 := e.b64 (e.phdr i + 16)
def filesz (i : UInt16) : UInt64 := e.b64 (e.phdr i + 32)
def memsz (i : UInt16) : UInt64 := e.b64 (e.phdr i + 40)

/-! ## What may be read -/

/-- The bytes are in the file. -/
def InFile (a : UInt64) (n : Nat) : Prop := InSpan e.data.toNat e.size.toNat a n

/-- The bytes are in a segment, where it is loaded. -/
def Loaded (base a : UInt64) (n : Nat) : Prop :=
  ∃ i < e.phnum, e.type i = ptLoad ∧ InSpan (e.vaddr i + base).toNat (e.memsz i).toNat a n

/-- What is read is in the file or in a loaded segment, and bytes for a segment are in the file. -/
def Allowed (base : UInt64) : ElfCall → Prop
  | .load a n => e.InFile a n ∨ e.Loaded base a n
  | .memcpy _ src n => e.InFile src n
  | _ => True

/-- The replies when nothing faults and the file stays as it is. -/
def Answers : (c : ElfCall) → elfInterface.Reply c → Prop
  | .load a n, r => ∃ v, r = some v ∧ (e.InFile a n → v = loadBytes e.bytes a n)
  | .memset _ _, r => r = true
  | .memcpy _ _ _, r => r = true
  | .store _ _, r => r = true
  | _, _ => True

def readSpec (base : UInt64) : Spec elfInterface Unit where
  pre c _ := e.Allowed base c
  post c _ r _ := e.Answers c r

variable {e : ElfImage} {base a : UInt64} {ρ β : Type}

/-- The program reads only what it may, and ends. -/
def Reads (e : ElfImage) (base : UInt64) (p : Elf ρ) (Q : ρ → Prop) : Prop :=
  p.wp (e.readSpec base) (fun r _ => Q r) ()

lemma Reads.pure {r : ρ} {Q : ρ → Prop} (h : Q r) : Reads e base (Pure.pure r) Q := h

lemma Reads.bind {p : Elf ρ} {f : ρ → Elf β} {Q : β → Prop} (h : Reads e base p fun r => Reads e base (f r) Q) :
    Reads e base (p >>= f) Q := Prog.wp_bind.mpr h

lemma Reads.ite {c : Prop} [Decidable c] {p p' : Elf ρ} {Q : ρ → Prop} (h : c → Reads e base p Q)
    (h' : ¬c → Reads e base p' Q) : Reads e base (if c then p else p') Q := by
  split_ifs with hc
  · exact h hc
  · exact h' hc

lemma Reads.mono {p : Elf ρ} {Q Q' : ρ → Prop} (h : Reads e base p Q) (hQ : ∀ r, Q r → Q' r) :
    Reads e base p Q' := Prog.wp_mono h fun r _ => hQ r

/-! ## Reading -/

/-- The file header is in the file. -/
def Headed (e : ElfImage) : Prop := e.InFile e.data 64

lemma Headed.field (h : e.Headed) (x : UInt64) {m : Nat} (hx : 0 < m ∧ x.toNat + m ≤ 64) :
    e.InFile (e.data + x) m := h.part x hx.1 hx.2

/-- `elf_validate` accepts the file. -/
structure Valid (e : ElfImage) : Prop where
  data : e.data ≠ 0
  headed : e.Headed
  magic : e.b8 e.data = 0x7F ∧ e.b8 (e.data + 1) = 0x45 ∧ e.b8 (e.data + 2) = 0x4C ∧ e.b8 (e.data + 3) = 0x46
  ident : e.b8 (e.data + 4) = 2 ∧ e.b8 (e.data + 5) = 1 ∧ e.b8 (e.data + 6) = 1
  version : e.b32 (e.data + 20) = 1
  type : e.b16 (e.data + 16) = etExec ∨ e.b16 (e.data + 16) = etDyn
  machine : e.b16 (e.data + 18) = emX8664
  phnum : e.phnum ≠ 0
  phoff : e.b64 (e.data + 32) ≠ 0
  table : ¬e.size < e.b64 (e.data + 32) + phdrOffset e.phnum (e.b16 (e.data + 54))

/-- The string has its NUL in the file. -/
def StringEnds (e : ElfImage) (a : UInt64) : Prop :=
  ∃ len : UInt64, e.InFile a (len.toNat + 1) ∧ e.b8 (a + len) = 0

/-- An entry of the dynamic section. -/
def dynEntry (e : ElfImage) (dyn : UInt64) (table : RelaTable) : RelaTable :=
  if e.b64 dyn = dtRela then { table with addr := e.b64 (dyn + 8) }
  else if e.b64 dyn = dtRelasz then { table with size := e.b64 (dyn + 8) }
  else if e.b64 dyn = dtRelaent then { table with ent := e.b64 (dyn + 8) }
  else table

/-- The scan of `n` entries finds the end. -/
def dynScan (e : ElfImage) : Nat → UInt64 → RelaTable → Option RelaTable
  | 0, _, _ => none
  | n + 1, dyn, table => if e.b64 dyn = dtNull then some table else e.dynScan n (dyn + 16) (e.dynEntry dyn table)

/-- The entries of a relocation table are in loaded segments. -/
def RelasLoaded (e : ElfImage) (base : UInt64) (table : RelaTable) : Prop :=
  table.addr = 0 ∨ table.size = 0 ∨ table.ent = 0 ∨
    ∀ k < (table.size / table.ent).toNat, e.Loaded base (table.addr + base + UInt64.ofNat k * table.ent) 24

/-- `elf_is_pie`. -/
def Pie (e : ElfImage) : Prop := e.b16 (e.data + 16) = etDyn ∧ e.b64 (e.data + 24) ≠ 0

/-- The tables of the file are where they may be read, for this base. -/
structure Placed (e : ElfImage) (base : UInt64) : Prop where
  headers : ∀ i < e.phnum, e.InFile (e.phdr i) 56
  segments : ∀ i < e.phnum, e.type i = ptLoad → e.memsz i ≠ 0 → e.filesz i ≠ 0 →
    e.InFile (e.data + e.offset i) (e.filesz i).toNat
  interp : ∀ i < e.phnum, (e.type i = ptInterp ∧ e.filesz i ≠ 0) →
    (∀ j < i, ¬(e.type j = ptInterp ∧ e.filesz j ≠ 0)) → e.StringEnds (e.data + e.offset i)
  dynamic : e.Pie → ∀ i < e.phnum, e.type i = ptDynamic → (∀ j < i, e.type j ≠ ptDynamic) →
    ∃ n table, 16 * n ≤ (e.filesz i).toNat ∧ e.InFile (e.data + e.offset i) (16 * n) ∧
      e.dynScan n (e.data + e.offset i) {} = some table ∧ e.RelasLoaded base table

/-! ## The parts of the loader -/

lemma Placed.field (h : e.Placed base) {i : UInt16} (hi : i < e.phnum) (x : UInt64) {m : Nat}
    (hx : 0 < m ∧ x.toNat + m ≤ 56) : e.InFile (e.phdr i + x) m := (h.headers i hi).part x hx.1 hx.2

/-- The base that `elf_load_at` uses. -/
def baseFor (e : ElfImage) (base : UInt64) : UInt64 :=
  if e.b16 (e.data + 16) = etExec ∧ base ≠ 0 then 0 else base

/-- The least address of the first `n` headers. -/
def lowest (e : ElfImage) : Nat → UInt64
  | 0 => 0xFFFFFFFFFFFFFFFF
  | n + 1 =>
    let i := UInt16.ofNat n
    if e.type i = ptLoad ∧ e.memsz i ≠ 0 ∧ e.vaddr i < e.lowest n then e.vaddr i else e.lowest n

/-- The base that `elf_load` chooses. -/
def loadBase (e : ElfImage) : UInt64 :=
  if e.b16 (e.data + 16) = etDyn ∧ (e.lowest e.phnum.toNat = 0 ∨ e.lowest e.phnum.toNat < pieDefaultBase) then
    pieDefaultBase
  else 0

end ElfImage

/-! ## Runs -/

/-- The file of a call, in the memory that it starts with. -/
def ElfEntry.image (c : ElfEntry) (bytes : UInt64 → UInt8) : ElfImage :=
  match c with
  | .load data size _ => ⟨bytes, data, size⟩
  | .loadAt data size _ _ => ⟨bytes, data, size⟩

/-- The base that a call loads at. -/
def ElfEntry.base (c : ElfEntry) (bytes : UInt64 → UInt8) : UInt64 :=
  match c with
  | .load _ _ _ => (c.image bytes).baseFor (c.image bytes).loadBase
  | .loadAt _ _ baseAddr _ => (c.image bytes).baseFor baseAddr

namespace ElfMachine

open Vmm

variable {α ρ : Type} {src : PageSource α} {m m' : ElfMachine α} {e : ElfImage} {base : UInt64}

/-- The call does not fault. -/
def NoFault (palloc : α → UInt64 × α) (c : ElfCall) (m : ElfMachine α) : Prop :=
  match c with
  | .load addr size => m.accessibleAll palloc addr size = true
  | .memset dest n => (memset palloc n dest m).1 = true
  | .memcpy dest from' n => (memcpy palloc n dest from' m).1 = true
  | .store addr value => (m.store palloc addr value).1 = true
  | _ => True

/-- The replies are those of the specification while the file stays as it is. -/
lemma answers (hsame : ∀ a, e.InFile a 1 → m.bytes a = e.bytes a) {c : ElfCall} (hc : NoFault src.alloc c m) :
    e.Answers c (elfMachine src.alloc c m).1 := by
  cases c with
  | load addr size =>
    refine ⟨_, if_pos hc, fun hin => loadBytes_congr fun k hk => hsame _ ?_⟩
    refine hin.part _ Nat.one_pos ?_
    simp
    omega
  | memset dest n | memcpy dest from' n | store addr value => exact hc
  | _ => trivial

section

instance (m : ElfMachine (List UInt64)) (c : elfInterface.Call) : Decidable (NoFault scriptAlloc c m) :=
  match c with
  | .load _ _ | .memset _ _ | .memcpy _ _ _ | .store _ _ => inferInstanceAs (Decidable (_ = true))
  | .isMapped _ | .allocPage | .mapPage _ _ _ | .freePage _ => .isTrue trivial

instance (start len : Nat) (a : UInt64) (n : Nat) : Decidable (InSpan start len a n) :=
  inferInstanceAs (Decidable (_ ∧ _ ∧ _))

end

end ElfMachine

end AAAos
