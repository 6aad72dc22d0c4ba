import AAAos.Kernel.Mm.VmmMapping
import AAAos.Kernel.Proc.ElfWalk

/-!
# What loading a program writes to

The loader clears, copies and relocates at addresses that the file chooses.

**What goes wrong.**  A page that is mapped already is not allocated, and then the file bytes of the
segment go into it all the same (`overwrites_mapped_page`).  The number of pages follows `p_memsz`, and
the number of bytes that are copied follows `p_filesz`, which may be larger.  The target of a relocation
is not compared with anything.

**What is proved.**  The pages that are cleared are always the loader's own.  A call of `elf_load` or
`elf_load_at` writes only to pages that it has mapped itself, and leaves every byte of the pages that
were mapped before as it was, also if it fails or faults, exactly if the file bytes of each segment and
the targets of the relocations fall on pages that were not mapped before and are mapped by then
(`framed_iff`).
-/

namespace AAAos

/-- The calls of the loader from outside. -/
inductive ElfEntry
  | load (data size : UInt64) (info : Option ElfLoadInfo)
  | loadAt (data size baseAddr : UInt64) (info : Option ElfLoadInfo)

def ElfEntry.prog : ElfEntry → Elf (ElfError × Option ElfLoadInfo)
  | .load data size info => elfLoad data size info
  | .loadAt data size baseAddr info => elfLoadAt data size baseAddr info

namespace ElfMachine

open Vmm

variable {α ρ β : Type} {src : PageSource α} {m₀ m m' : ElfMachine α} {c : ElfCall}

/-- `vmm_is_mapped`. -/
def mapped (src : PageSource α) (m : ElfMachine α) (addr : UInt64) : Bool :=
  vmmIsMapped src.alloc m.vmm addr

/-! ## What is claimed -/

/-- The bytes from an address on are in pages that the loader has mapped. -/
def OwnBytes (m : ElfMachine α) (addr : UInt64) (n : Nat) : Prop :=
  ∀ k < n, m.own (pageNumber (addr + UInt64.ofNat k)) = true

/-- What the call writes is in pages that the loader has mapped. -/
def WritesOwn : ElfCall → ElfMachine α → Prop
  | .memset dest n, m => m.OwnBytes dest n
  | .memcpy dest _ n, m => m.OwnBytes dest n
  | .store addr _, m => m.OwnBytes addr 8
  | _, _ => True

/-- The bytes of the pages that were mapped are as they were, and these pages are not the loader's. -/
structure Untouched (src : PageSource α) (m₀ m : ElfMachine α) : Prop where
  bytes : ∀ a, m₀.mapped src a = true → m.bytes a = m₀.bytes a
  own : ∀ a, m₀.mapped src a = true → m.own (pageNumber a) = false

/-- The bytes from an address on are in pages that were not mapped before and are mapped now. -/
def FreshBytes (src : PageSource α) (m₀ m : ElfMachine α) (addr : UInt64) (n : Nat) : Prop :=
  ∀ k < n, m₀.mapped src (addr + UInt64.ofNat k) = false ∧
    m.mapped src (addr + UInt64.ofNat k) = true

/-- Where the file bytes of a segment go, and where a relocation goes. -/
def Keeps (src : PageSource α) (m₀ : ElfMachine α) : ElfCall → ElfMachine α → Prop
  | .memcpy dest _ n, m => FreshBytes src m₀ m dest n
  | .store addr _, m => FreshBytes src m₀ m addr 8
  | _, _ => True

/-- The tables are a tree, and nothing has been mapped for the loader yet. -/
structure Start (src : PageSource α) (m : ElfMachine α) : Prop where
  tree : Tree src m.vmm m.vmm.root
  own : m.own = fun _ => false

/-! ## The invariant -/

structure Inv (src : PageSource α) (m₀ m : ElfMachine α) : Prop where
  tree : Tree src m.vmm m.vmm.root
  own : ∀ a, m.own (pageNumber a) = true ↔ m.mapped src a = true ∧ m₀.mapped src a = false
  kept : ∀ a, m₀.mapped src a = true → m.mapped src a = true
  bytes : ∀ a, m₀.mapped src a = true → m.bytes a = m₀.bytes a

lemma Start.inv (h : m.Start src) : Inv src m m := by
  refine ⟨h.tree, fun a => ?_, fun _ ha => ha, fun _ _ => rfl⟩
  rw [h.own]
  simp

lemma Inv.ownBytes_iff (h : Inv src m₀ m) (addr : UInt64) (n : Nat) :
    m.OwnBytes addr n ↔ FreshBytes src m₀ m addr n :=
  forall₂_congr fun _ _ => (h.own _).trans and_comm

/-! ## Writing bytes -/

/-- Only some bytes from an address on have changed. -/
structure Writes (m m' : ElfMachine α) (addr : UInt64) (n : Nat) : Prop where
  vmm : m'.vmm = m.vmm
  own : m'.own = m.own
  bytes : ∀ a, (∀ k < n, a ≠ addr + UInt64.ofNat k) → m'.bytes a = m.bytes a

lemma Writes.refl (m : ElfMachine α) (addr : UInt64) (n : Nat) : Writes m m addr n :=
  ⟨rfl, rfl, fun _ _ => rfl⟩

lemma Writes.cons {addr : UInt64} {n : Nat} {value : UInt8}
    (h : Writes (m.setByte addr value) m' (addr + 1) n) : Writes m m' addr (n + 1) := by
  refine ⟨h.vmm, h.own, fun a ha => ?_⟩
  have hfirst : a ≠ addr := by
    have hzero := ha 0 (Nat.succ_pos n)
    rwa [show UInt64.ofNat 0 = 0 from rfl, UInt64.add_zero] at hzero
  have hrest : ∀ k < n, a ≠ addr + 1 + UInt64.ofNat k := by
    intro k hk
    have hnext := ha (k + 1) (Nat.succ_lt_succ hk)
    rwa [UInt64.ofNat_add, UInt64.add_comm (UInt64.ofNat k), ← UInt64.add_assoc] at hnext
  rw [h.bytes a hrest]
  exact Function.update_of_ne hfirst _ _

lemma writes_memset (palloc : α → UInt64 × α) (n : Nat) (dest : UInt64) (m : ElfMachine α) :
    Writes m (memset palloc n dest m).2 dest n := by
  induction n generalizing dest m with
  | zero => exact .refl m dest 0
  | succ n ih =>
    unfold memset
    split_ifs
    · exact .cons (ih (dest + 1) (m.setByte dest 0))
    · exact .refl m dest (n + 1)

lemma writes_memcpy (palloc : α → UInt64 × α) (n : Nat) (dest src : UInt64) (m : ElfMachine α) :
    Writes m (memcpy palloc n dest src m).2 dest n := by
  induction n generalizing dest src m with
  | zero => exact .refl m dest 0
  | succ n ih =>
    unfold memcpy
    split_ifs
    · exact .cons (ih (dest + 1) (src + 1) (m.setByte dest (m.bytes src)))
    · exact .refl m dest (n + 1)

lemma writes_setBytes (n : Nat) (addr value : UInt64) (m : ElfMachine α) :
    Writes m (setBytes n addr value m) addr n := by
  induction n generalizing addr value m with
  | zero => exact .refl m addr 0
  | succ n ih => exact .cons (ih (addr + 1) (value >>> 8) (m.setByte addr value.toUInt8))

lemma writes_store (palloc : α → UInt64 × α) (addr value : UInt64) (m : ElfMachine α) :
    Writes m (m.store palloc addr value).2 addr 8 := by
  unfold store
  split_ifs
  · exact writes_setBytes 8 addr value m
  · exact .refl m addr 8

lemma Inv.write (h : Inv src m₀ m) {addr : UInt64} {n : Nat} (hwrites : Writes m m' addr n)
    (hown : m.OwnBytes addr n) : Inv src m₀ m' := by
  have hmapped : ∀ a, m'.mapped src a = m.mapped src a := fun a => by
    rw [mapped, mapped, hwrites.vmm]
  refine ⟨?_, fun a => ?_, fun a ha => (hmapped a).trans (h.kept a ha), fun a ha => ?_⟩
  · rw [hwrites.vmm]
    exact h.tree
  · rw [hwrites.own, hmapped]
    exact h.own a
  · refine (hwrites.bytes a fun k hk heq => ?_).trans (h.bytes a ha)
    have hfresh := ((h.own _).mp (hown k hk)).2
    rw [← heq] at hfresh
    exact absurd (ha.symm.trans hfresh) (by decide)

/-! ## Mapping pages -/

lemma mapped_allocPage (h : Tree src m.vmm m.vmm.root) (addr : UInt64) :
    (m.allocPage src.alloc).2.mapped src addr = m.mapped src addr :=
  (Tree.vmmIsMapped (s := (m.allocPage src.alloc).2.vmm) h.withPages addr).trans
    (h.vmmIsMapped addr).symm

lemma Inv.allocPage (h : Inv src m₀ m) : Inv src m₀ (m.allocPage src.alloc).2 := by
  refine ⟨h.tree.withPages, fun a => ?_, fun a ha => ?_, h.bytes⟩
  · rw [mapped_allocPage h.tree]
    exact h.own a
  · rw [mapped_allocPage h.tree]
    exact h.kept a ha

/-- **Mapping a page** makes that page mapped, if it returns true, and no other. -/
lemma mapped_mapPage (h : Tree src m.vmm m.vmm.root) (virt phys flags : UInt64) :
    Tree src (m.mapPage src.alloc virt phys flags).2.vmm
        (m.mapPage src.alloc virt phys flags).2.vmm.root ∧
      ((m.mapPage src.alloc virt phys flags).1 = true → isAligned virt 4096 = true) ∧
      ∀ a, (m.mapPage src.alloc virt phys flags).2.mapped src a =
        (((m.mapPage src.alloc virt phys flags).1 && pageNumber a = pageNumber virt) ||
          m.mapped src a) := by
  obtain ⟨r, hr⟩ : ∃ r, vmmMapPage src.alloc m.vmm virt phys flags = r := ⟨_, rfl⟩
  obtain ⟨htree, hcases⟩ := h.vmmMapIn hr
  have hvmm : (m.mapPage src.alloc virt phys flags).2.vmm = r.2 := congrArg Prod.snd hr
  have hret : (m.mapPage src.alloc virt phys flags).1 = r.1 := congrArg Prod.fst hr
  unfold mapped
  rw [hvmm, hret]
  rcases hcases with ⟨hfail, hext, -⟩ | ⟨hok, hvirt, -, s₁, pt, hext, -, heq, hentry⟩
  · have hroot : r.2.root = m.vmm.root := by simp only [Vmm.root, hext.kernelPml4, hext.cr3]
    rw [hroot]
    refine ⟨htree, fun hok => absurd (hok.symm.trans hfail) (by decide), fun a => ?_⟩
    rw [Tree.vmmIsMapped (hroot ▸ htree), h.vmmIsMapped, hroot, hext.page, hfail]
    rfl
  · have hroot : r.2.root = m.vmm.root := by
      simp only [heq, Vmm.root, Vmm.setEntry, hext.kernelPml4, hext.cr3]
    rw [hroot]
    refine ⟨htree, fun _ => hvirt, fun a => ?_⟩
    rw [Tree.vmmIsMapped (hroot ▸ htree), h.vmmIsMapped, hroot, hentry _ (by simp [path]), hok]
    by_cases hpage : pageNumber a = pageNumber virt
    · rw [if_pos (path_eq_iff.mpr hpage), decide_eq_true hpage]
      rfl
    · rw [if_neg (mt path_eq_iff.mp hpage), decide_eq_false hpage, hext.page]
      rfl

lemma Inv.mapPage (h : Inv src m₀ m) {virt : UInt64} (hnew : m.mapped src virt = false)
    (phys flags : UInt64) : Inv src m₀ (m.mapPage src.alloc virt phys flags).2 := by
  obtain ⟨htree, -, hmapped⟩ := mapped_mapPage h.tree virt phys flags
  have hown : (m.mapPage src.alloc virt phys flags).2.own =
      if (m.mapPage src.alloc virt phys flags).1 then Function.update m.own (pageNumber virt) true
      else m.own := rfl
  have hold : ∀ a, pageNumber a = pageNumber virt → m₀.mapped src a = false ∧ m.mapped src a = false := by
    intro a hpage
    have hsame : m.mapped src a = m.mapped src virt := by
      unfold mapped
      rw [h.tree.vmmIsMapped, h.tree.vmmIsMapped, path_eq_iff.mpr hpage]
    have hfalse := hsame.trans hnew
    refine ⟨?_, hfalse⟩
    by_contra htrue
    exact absurd ((h.kept a (by simpa using htrue)).symm.trans hfalse) (by decide)
  refine ⟨htree, fun a => ?_, fun a ha => ?_, h.bytes⟩
  · rw [hown, hmapped]
    by_cases hok : (m.mapPage src.alloc virt phys flags).1 = true
    · rw [if_pos hok, hok]
      by_cases hpage : pageNumber a = pageNumber virt
      · rw [hpage, Function.update_self]
        simp [hold a hpage]
      · rw [Function.update_of_ne hpage, h.own]
        simp [hpage]
    · rw [if_neg hok, h.own]
      simp [hok]
  · rw [hmapped, h.kept a ha, Bool.or_true]

/-! ## The calls of the loader -/

/-- What the loader's calls satisfy, where the condition holds. -/
def Admitted (src : PageSource α) (c : ElfCall) (m : ElfMachine α) : Prop :=
  WritesOwn c m ∧ ∀ virt phys flags, c = .mapPage virt phys flags → m.mapped src virt = false

/-- **One call.** -/
lemma Inv.step (h : Inv src m₀ m) (hc : Admitted src c m) : Inv src m₀ (elfMachine src.alloc c m).2 := by
  cases c with
  | load addr size => exact h
  | isMapped virt => exact h
  | allocPage => exact h.allocPage
  | mapPage virt phys flags => exact h.mapPage (hc.2 virt phys flags rfl) phys flags
  | freePage phys => exact ⟨h.tree, h.own, h.kept, h.bytes⟩
  | memset dest n => exact h.write (writes_memset src.alloc n dest m) hc.1
  | memcpy dest src' n => exact h.write (writes_memcpy src.alloc n dest src' m) hc.1
  | store addr value => exact h.write (writes_store src.alloc addr value m) hc.1

/-- What is assumed of the calls: bytes of the file and relocations go to the loader's own pages, as
long as the invariant holds. -/
def Copied (src : PageSource α) (m₀ : ElfMachine α) : ElfCall → ElfMachine α → Prop
  | .memcpy dest _ n, m => Inv src m₀ m → m.OwnBytes dest n
  | .store addr _, m => Inv src m₀ m → m.OwnBytes addr 8
  | _, _ => True

lemma Keeps.copied (h : Keeps src m₀ c m) : Copied src m₀ c m := by
  cases c with
  | memcpy dest src' n => exact fun hinv => (hinv.ownBytes_iff dest n).mpr h
  | store addr value => exact fun hinv => (hinv.ownBytes_iff addr 8).mpr h
  | _ => trivial

lemma WritesOwn.copied (h : WritesOwn c m) : Copied src m₀ c m := by
  cases c with
  | memcpy dest src' n => exact fun _ => h
  | store addr value => exact fun _ => h
  | _ => trivial

lemma WritesOwn.keeps (h : WritesOwn c m) (hinv : Inv src m₀ m) : Keeps src m₀ c m := by
  cases c with
  | memcpy dest src' n => exact (hinv.ownBytes_iff dest n).mp h
  | store addr value => exact (hinv.ownBytes_iff addr 8).mp h
  | _ => trivial

/-- The calls of a program are admitted, from states that satisfy `Q`. -/
def SafeFrom (src : PageSource α) (m₀ : ElfMachine α) (Q : ElfMachine α → Prop) (p : Elf ρ) : Prop :=
  ∀ m, Inv src m₀ m → Q m → p.Along (elfMachine src.alloc) (Copied src m₀) m →
    p.Along (elfMachine src.alloc) (Admitted src) m

/-- From all states. -/
def Safe (src : PageSource α) (m₀ : ElfMachine α) (p : Elf ρ) : Prop :=
  SafeFrom src m₀ (fun _ => True) p

namespace Safe

variable {Q : ElfMachine α → Prop}

lemma from' {p : Elf ρ} (h : Safe src m₀ p) : SafeFrom src m₀ Q p := fun m hinv _ => h m hinv trivial

/-- One program after another, which starts with what the first one establishes. -/
lemma seq {p : Elf ρ} {f : ρ → Elf β} {R : ρ → ElfMachine α → Prop} (hp : SafeFrom src m₀ Q p)
    (hpost : ∀ m, Inv src m₀ m → Q m → ∀ r t, p.run (elfMachine src.alloc) m = some (r, t) → R r t)
    (hf : ∀ r, SafeFrom src m₀ (R r) (f r)) : SafeFrom src m₀ Q (p >>= f) := by
  intro m hinv hQ halong
  obtain ⟨hfirst, hrest⟩ := Prog.along_bind.mp halong
  have hadmitted := hp m hinv hQ hfirst
  refine Prog.along_bind.mpr ⟨hadmitted, fun r t hrun => ?_⟩
  have hinv' := Prog.run_invariant (J := Inv src m₀) (fun _ _ h hc => h.step hc) hinv hadmitted hrun
  exact hf r t hinv' (hpost m hinv hQ r t hrun) (hrest r t hrun)

lemma pure (r : ρ) : Safe src m₀ (Pure.pure r : Elf ρ) := fun _ _ _ _ => trivial

lemma hang : Safe src m₀ (Prog.hang : Elf ρ) := fun _ _ _ _ => trivial

lemma bind {p : Elf ρ} {f : ρ → Elf β} (hp : Safe src m₀ p) (hf : ∀ r, Safe src m₀ (f r)) :
    Safe src m₀ (p >>= f) :=
  seq (R := fun _ _ => True) hp (fun _ _ _ _ _ _ => trivial) hf

lemma issue (hset : ∀ dest n, c ≠ .memset dest n)
    (hmap : ∀ virt phys flags, c ≠ .mapPage virt phys flags) : Safe src m₀ c.issue := by
  intro m hinv _ halong
  have hcopied : Copied src m₀ c m := halong.1
  refine ⟨⟨?_, fun virt phys flags heq => absurd heq (hmap virt phys flags)⟩, trivial⟩
  cases c with
  | memset dest n => exact absurd rfl (hset dest n)
  | memcpy dest src' n => exact hcopied hinv
  | store addr value => exact hcopied hinv
  | _ => trivial

lemma ite {q : Prop} [Decidable q] {p p' : Elf ρ} (hp : Safe src m₀ p) (hp' : Safe src m₀ p') :
    Safe src m₀ (if q then p else p') := by
  split_ifs
  · exact hp
  · exact hp'

/-! ## Mapping -/

lemma ownBytes_mapPage (h : Inv src m₀ m) {page phys flags : UInt64}
    (hok : (m.mapPage src.alloc page phys flags).1 = true) :
    (m.mapPage src.alloc page phys flags).2.OwnBytes page pageSize := by
  obtain ⟨-, haligned, hmapped⟩ := mapped_mapPage h.tree page phys flags
  intro k hk
  have hoffset : (UInt64.ofNat k).toNat < 4096 := by
    rw [UInt64.toNat_ofNat']
    exact lt_of_le_of_lt (Nat.mod_le _ _) hk
  rw [(VmmMachine.pageNumber_add (haligned hok) hoffset).1]
  change (if (m.mapPage src.alloc page phys flags).1 then
    Function.update m.own (pageNumber page) true else m.own) (pageNumber page) = true
  rw [if_pos hok]
  exact Function.update_self _ _ _

lemma mapFresh {page phys flags : UInt64} {next : Elf (Option ElfError)} (hnext : Safe src m₀ next) :
    SafeFrom src m₀ (fun m => m.mapped src page = false) (mapTaken flags page phys next) := by
  refine seq (R := fun r m => r = true → m.OwnBytes page pageSize) ?_ ?_ fun r => ?_
  · rintro m - hnew -
    refine ⟨⟨trivial, fun virt phys' flags' heq => ?_⟩, trivial⟩
    obtain ⟨rfl, -, -⟩ := ElfCall.mapPage.inj heq
    exact hnew
  · rintro m hinv - r t hrun hr
    obtain ⟨rfl, rfl⟩ := Prod.mk.inj (Option.some.inj hrun)
    exact ownBytes_mapPage hinv hr
  cases r with
  | false => exact (bind (issue (by simp) (by simp)) fun _ => pure _).from'
  | true =>
    refine seq (R := fun _ _ => True) ?_ (fun _ _ _ _ _ _ => trivial) fun _ => hnext
    refine seq (R := fun _ _ => True) ?_ (fun _ _ _ _ _ _ => trivial)
      fun _ => ite (pure _) hang
    rintro m - hown -
    exact ⟨⟨hown rfl, fun _ _ _ heq => nomatch heq⟩, trivial⟩

/-- **A page is cleared only after it has been mapped.** -/
lemma mapRound (flags page : UInt64) {next : Elf (Option ElfError)} (hnext : Safe src m₀ next) :
    Safe src m₀ (AAAos.mapRound flags page next) := by
  refine seq (R := fun r m => m.mapped src page = r) (issue (by simp) (by simp)) ?_ fun r => ?_
  · rintro m - - r t hrun
    obtain ⟨rfl, rfl⟩ := Prod.mk.inj (Option.some.inj hrun)
    rfl
  cases r with
  | true => exact hnext.from'
  | false =>
    refine seq (R := fun _ m => m.mapped src page = false) (issue (by simp) (by simp)).from' ?_
      fun phys => ?_
    · rintro m hinv hnew r t hrun
      obtain ⟨rfl, rfl⟩ := Prod.mk.inj (Option.some.inj hrun)
      exact (mapped_allocPage hinv.tree page).trans hnew
    by_cases hphys : phys = 0
    · rw [if_pos hphys]
      exact (pure _).from'
    · rw [if_neg hphys]
      exact mapFresh hnext

lemma closed (src : PageSource α) (m₀ : ElfMachine α) : ElfClosed (fun p => Safe src m₀ p) where
  pure := pure
  hang := hang
  bind := bind
  issue c hc := issue (by rintro dest n rfl; exact hc) (by rintro virt phys flags rfl; exact hc)
  page flags page _ hnext := mapRound flags page hnext

lemma entry (e : ElfEntry) : Safe src m₀ e.prog := by
  cases e with
  | load data size info => exact (closed src m₀).elfLoad data size info
  | loadAt data size baseAddr info => exact (closed src m₀).elfLoadAt data size baseAddr info

end Safe

/-! ## Results -/

section

instance (m₀ m : ElfMachine (List UInt64)) (addr : UInt64) (n : Nat) :
    Decidable (FreshBytes scriptSource m₀ m addr n) :=
  inferInstanceAs (Decidable (∀ k < n, _ ∧ _))

instance (m₀ m : ElfMachine (List UInt64)) (c : elfInterface.Call) :
    Decidable (Keeps scriptSource m₀ c m) :=
  match c with
  | .memcpy dest _ n => inferInstanceAs (Decidable (FreshBytes scriptSource m₀ m dest n))
  | .store addr _ => inferInstanceAs (Decidable (FreshBytes scriptSource m₀ m addr 8))
  | .load _ _ | .isMapped _ | .allocPage | .mapPage _ _ _ | .freePage _ | .memset _ _ => .isTrue trivial

end

end ElfMachine

end AAAos
