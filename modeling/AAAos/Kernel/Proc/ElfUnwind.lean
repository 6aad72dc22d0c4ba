import AAAos.Kernel.Proc.ElfFrame

/-!
# What a load that fails leaves behind

**What goes wrong.**  `elf_load_segment` returns as soon as a page cannot be allocated or mapped, and gives
back the page that it could not map, but not the pages before it; `elf_load_at` returns the error as it is.
Nothing unmaps what has been mapped, neither in this segment nor in the segments before it.

**What is proved.**  A call of `elf_load` or `elf_load_at` that returns an error leaves the mapped pages,
their translations and the pages taken for data as they were exactly if it had not mapped any page yet
(`unwound_iff`).
-/

namespace AAAos

/-- The pages that the loader has taken for data and not given back, after a call with this reply. -/
def ElfCall.heldAfter : (c : ElfCall) → elfInterface.Reply c → List UInt64 → List UInt64
  | .allocPage, (phys : UInt64), held => if phys = 0 then held else phys :: held
  | .freePage phys, _, held => held.erase phys
  | _, _, held => held

/-- The machine of the loader, with an account of these pages beside it. -/
def elfLedger {α : Type} (palloc : α → UInt64 × α) : Machine elfInterface (ElfMachine α × List UInt64) :=
  fun c x => ((elfMachine palloc c x.1).1,
    ((elfMachine palloc c x.1).2, ElfCall.heldAfter c (elfMachine palloc c x.1).1 x.2))

namespace ElfMachine

open Vmm

variable {α ρ β : Type} {src : PageSource α} {m : ElfMachine α} {x y z : ElfMachine α × List UInt64}

lemma run_elfLedger (palloc : α → UInt64 × α) (p : Elf ρ) (x : ElfMachine α × List UInt64) :
    (p.run (elfLedger palloc) x).map (fun r => (r.1, r.2.1)) = p.run (elfMachine palloc) x.1 := by
  induction p generalizing x with
  | done a => rfl
  | call c k ih => exact ih _ _
  | hang => rfl

/-! ## What is claimed -/

/-- The call does not map a page. -/
def MapsNothing (src : PageSource α) : ElfCall → ElfMachine α × List UInt64 → Prop
  | .mapPage virt phys flags, x => (x.1.mapPage src.alloc virt phys flags).1 = false
  | _, _ => True

/-! ## What a program does to the pages -/

/-- The entry of a page in its page table, if it is mapped. -/
def pageEntryOf (m : ElfMachine α) (virt : UInt64) : Option UInt64 := m.vmm.entryAt m.vmm.root (path virt)

/-- No page's entry has changed, and the account has not. -/
structure Kept (x y : ElfMachine α × List UInt64) : Prop where
  entry : ∀ virt, y.1.pageEntryOf virt = x.1.pageEntryOf virt
  held : y.2 = x.2

lemma Kept.refl (x : ElfMachine α × List UInt64) : Kept x x := ⟨fun _ => rfl, rfl⟩

lemma Kept.trans (h₁ : Kept x y) (h₂ : Kept y z) : Kept x z :=
  ⟨fun virt => (h₂.entry virt).trans (h₁.entry virt), h₂.held.trans h₁.held⟩

/-- The tables are a tree. -/
def Sane (src : PageSource α) (x : ElfMachine α × List UInt64) : Prop := Tree src x.1.vmm x.1.vmm.root

lemma Sane.mapped (h : Sane src x) (virt : UInt64) : x.1.mapped src virt = (x.1.pageEntryOf virt).isSome :=
  h.vmmIsMapped virt

lemma Kept.mapped (h : Kept x y) (hx : Sane src x) (hy : Sane src y) (virt : UInt64) :
    y.1.mapped src virt = x.1.mapped src virt := by
  rw [hx.mapped, hy.mapped, h.entry]

/-- From `x` to `y` nothing is unmapped, and nothing has changed unless a page that was not mapped is. -/
structure Accounted (src : PageSource α) (quiet : Prop) (x y : ElfMachine α × List UInt64) : Prop where
  sane : Sane src y
  keeps : ∀ virt, x.1.mapped src virt = true → y.1.mapped src virt = true
  change : (quiet ∧ Kept x y) ∨ (¬ quiet ∧ ∃ virt, x.1.mapped src virt = false ∧ y.1.mapped src virt = true)

lemma Accounted.of_kept (h : Kept x y) (hx : Sane src x) (hy : Sane src y) {quiet : Prop} (hquiet : quiet) :
    Accounted src quiet x y :=
  ⟨hy, fun virt hv => (h.mapped hx hy virt).trans hv, .inl ⟨hquiet, h⟩⟩

lemma Accounted.trans {q₁ q₂ q : Prop} (hq : q ↔ q₁ ∧ q₂) (hx : Sane src x) (h₁ : Accounted src q₁ x y)
    (h₂ : Accounted src q₂ y z) : Accounted src q x z := by
  refine ⟨h₂.sane, fun virt hv => h₂.keeps virt (h₁.keeps virt hv), ?_⟩
  rcases h₁.change with ⟨hq₁, hkept₁⟩ | ⟨hq₁, virt, hbefore, hafter⟩
  · rcases h₂.change with ⟨hq₂, hkept₂⟩ | ⟨hq₂, virt, hbefore, hafter⟩
    · exact .inl ⟨hq.mpr ⟨hq₁, hq₂⟩, hkept₁.trans hkept₂⟩
    · exact .inr ⟨fun h => hq₂ (hq.mp h).2, virt, (hkept₁.mapped hx h₁.sane virt).symm.trans hbefore, hafter⟩
  · exact .inr ⟨fun h => hq₁ (hq.mp h).1, virt, hbefore, h₂.keeps virt hafter⟩

/-- A program changes nothing if it maps nothing, and otherwise leaves a page that was not mapped. -/
def Accounts (src : PageSource α) (p : Elf ρ) : Prop :=
  ∀ x r y, Sane src x → p.run (elfLedger src.alloc) x = some (r, y) →
    Accounted src (p.Along (elfLedger src.alloc) (MapsNothing src) x) x y

lemma run_ask {c : ElfCall} {k : elfInterface.Reply c → Elf ρ} {t : ElfMachine α × List UInt64}
    {a : elfInterface.Reply c} (h : elfLedger src.alloc c x = (a, t)) :
    (c.issue >>= k).run (elfLedger src.alloc) x = (k a).run (elfLedger src.alloc) t := by
  show (k (elfLedger src.alloc c x).1).run _ (elfLedger src.alloc c x).2 = _
  rw [h]

lemma along_ask {c : ElfCall} {k : elfInterface.Reply c → Elf ρ} {t : ElfMachine α × List UInt64}
    {a : elfInterface.Reply c} (h : elfLedger src.alloc c x = (a, t)) :
    (c.issue >>= k).Along (elfLedger src.alloc) (MapsNothing src) x ↔
      MapsNothing src c x ∧ (k a).Along (elfLedger src.alloc) (MapsNothing src) t := by
  show MapsNothing src c x ∧ (k (elfLedger src.alloc c x).1).Along _ _ (elfLedger src.alloc c x).2 ↔ _
  rw [h]

namespace Accounts

lemma pure (r : ρ) : Accounts src (Pure.pure r : Elf ρ) := by
  intro x r' y hx hrun
  obtain ⟨-, rfl⟩ := Prod.mk.inj (Option.some.inj hrun)
  exact .of_kept (.refl x) hx hx trivial

lemma hang : Accounts src (Prog.hang : Elf ρ) := fun _ _ _ _ hrun => nomatch hrun

lemma bind {p : Elf ρ} {f : ρ → Elf β} (hp : Accounts src p) (hf : ∀ r, Accounts src (f r)) :
    Accounts src (p >>= f) := by
  intro x r z hx hrun
  rw [Prog.run_bind] at hrun
  obtain ⟨⟨a, y⟩, hfirst, hrest⟩ := Option.bind_eq_some_iff.mp hrun
  have h₁ := hp x a y hx hfirst
  refine .trans ?_ hx h₁ (hf a y r z h₁.sane hrest)
  refine Prog.along_bind.trans (and_congr_right fun _ => ⟨fun h => h a y hfirst, fun h b t hbt => ?_⟩)
  obtain ⟨rfl, rfl⟩ := Prod.mk.inj (Option.some.inj (hfirst.symm.trans hbt))
  exact h

lemma issue (c : ElfCall) (hc : c.Plain) : Accounts src c.issue := by
  intro x r y hx hrun
  have hstate : y = (elfLedger src.alloc c x).2 := (Prod.mk.inj (Option.some.inj hrun)).2.symm
  have hquiet : MapsNothing src c x := by
    cases c with
    | mapPage virt phys flags => exact hc.elim
    | _ => trivial
  have hvmm : (elfMachine src.alloc c x.1).2.vmm = x.1.vmm := by
    cases c with
    | load addr size => rfl
    | isMapped virt => rfl
    | memcpy dest from' n => exact (writes_memcpy src.alloc n dest from' x.1).vmm
    | store addr value => exact (writes_store src.alloc addr value x.1).vmm
    | allocPage => exact hc.elim
    | mapPage virt phys flags => exact hc.elim
    | freePage phys => exact hc.elim
    | memset dest n => exact hc.elim
  have hheld : ∀ r', ElfCall.heldAfter c r' x.2 = x.2 := by
    intro r'
    cases c with
    | allocPage => exact hc.elim
    | freePage phys => exact hc.elim
    | _ => rfl
  subst hstate
  refine .of_kept ⟨fun virt => ?_, hheld _⟩ hx ?_ ⟨hquiet, trivial⟩
  · show (elfMachine src.alloc c x.1).2.vmm.entryAt (elfMachine src.alloc c x.1).2.vmm.root _ = _
    rw [hvmm]
    rfl
  · show Tree src (elfMachine src.alloc c x.1).2.vmm (elfMachine src.alloc c x.1).2.vmm.root
    rw [hvmm]
    exact hx

lemma clears {page : UInt64} {n : Nat} (hx : Sane src x) {u : Unit}
    (hrun : (Elf.memset page n).run (elfLedger src.alloc) x = some (u, y)) :
    Sane src y ∧ y.1.vmm = x.1.vmm := by
  have hvmm : (elfMachine src.alloc (.memset page n) x.1).2.vmm = x.1.vmm :=
    (writes_memset src.alloc n page x.1).vmm
  cases hok : (elfMachine src.alloc (.memset page n) x.1).1 with
  | false =>
    have hstep : elfLedger src.alloc (.memset page n) x =
        (false, ((elfMachine src.alloc (.memset page n) x.1).2, x.2)) := Prod.ext hok rfl
    have hnone : (Elf.memset page n).run (elfLedger src.alloc) x = none := run_ask hstep
    rw [hnone] at hrun
    cases hrun
  | true =>
    have hstep : elfLedger src.alloc (.memset page n) x =
        (true, ((elfMachine src.alloc (.memset page n) x.1).2, x.2)) := Prod.ext hok rfl
    have hdone : (Elf.memset page n).run (elfLedger src.alloc) x =
        some ((), ((elfMachine src.alloc (.memset page n) x.1).2, x.2)) := run_ask hstep
    rw [hdone] at hrun
    obtain ⟨-, rfl⟩ := Prod.mk.inj (Option.some.inj hrun)
    refine ⟨?_, hvmm⟩
    show Tree src (elfMachine src.alloc (.memset page n) x.1).2.vmm _
    rw [hvmm]
    exact hx

lemma mapPage_fails (h : Tree src m.vmm m.vmm.root) {virt phys flags : UInt64}
    (hfail : (m.mapPage src.alloc virt phys flags).1 = false) (w : UInt64) :
    (m.mapPage src.alloc virt phys flags).2.pageEntryOf w = m.pageEntryOf w := by
  obtain ⟨r, hr⟩ : ∃ r, vmmMapPage src.alloc m.vmm virt phys flags = r := ⟨_, rfl⟩
  have hvmm : (m.mapPage src.alloc virt phys flags).2.vmm = r.2 := congrArg Prod.snd hr
  have hret : (m.mapPage src.alloc virt phys flags).1 = r.1 := congrArg Prod.fst hr
  obtain ⟨-, ⟨-, hext, -⟩ | ⟨hok, -⟩⟩ := h.vmmMapIn hr
  · have hroot : r.2.root = m.vmm.root := by simp only [Vmm.root, hext.kernelPml4, hext.cr3]
    rw [pageEntryOf, pageEntryOf, hvmm, hroot]
    exact hext.page w
  · rw [hret, hok] at hfail
    exact absurd hfail (by decide)

lemma mapTaken {page phys flags : UInt64} {next : Elf (Option ElfError)} (hnext : Accounts src next)
    (hx : Sane src x) (hnew : x.1.mapped src page = false) {held : List UInt64} (hheld : x.2 = phys :: held)
    {r : Option ElfError} {y : ElfMachine α × List UInt64}
    (hrun : (AAAos.mapTaken flags page phys next).run (elfLedger src.alloc) x = some (r, y)) :
    Accounted src ((AAAos.mapTaken flags page phys next).Along (elfLedger src.alloc) (MapsNothing src) x)
      (x.1, held) y := by
  obtain ⟨htree, -, hmapped⟩ := mapped_mapPage hx page phys flags
  cases hok : (x.1.mapPage src.alloc page phys flags).1 with
  | false =>
    have hstep : elfLedger src.alloc (.mapPage page phys flags) x =
        (false, ((x.1.mapPage src.alloc page phys flags).2, x.2)) := Prod.ext hok rfl
    have hdone : (AAAos.mapTaken flags page phys next).run (elfLedger src.alloc) x =
        some (some ElfError.mappingFailed,
          ((elfMachine src.alloc (.freePage phys) (x.1.mapPage src.alloc page phys flags).2).2,
            x.2.erase phys)) := run_ask hstep
    rw [hdone] at hrun
    have hback := (Prod.mk.inj (Option.some.inj hrun)).2
    have herase : x.2.erase phys = held := by rw [hheld, List.erase_cons_head]
    have hvmm : y.1.vmm = (x.1.mapPage src.alloc page phys flags).2.vmm := by rw [← hback]; rfl
    have hquiet : (AAAos.mapTaken flags page phys next).Along (elfLedger src.alloc) (MapsNothing src) x :=
      (along_ask hstep).mpr ⟨hok, trivial, trivial⟩
    have hkept : Kept (x.1, held) y := by
      refine ⟨fun virt => ?_, ?_⟩
      · rw [pageEntryOf, hvmm]
        exact mapPage_fails hx hok virt
      · rw [← hback]
        exact herase
    have hsane : Sane src y := by
      rw [Sane, hvmm]
      exact htree
    exact .of_kept hkept hx hsane hquiet
  | true =>
    have hstep : elfLedger src.alloc (.mapPage page phys flags) x =
        (true, ((x.1.mapPage src.alloc page phys flags).2, x.2)) := Prod.ext hok rfl
    have hquiet : ¬ (AAAos.mapTaken flags page phys next).Along (elfLedger src.alloc) (MapsNothing src) x := by
      intro halong
      have hno : (x.1.mapPage src.alloc page phys flags).1 = false := ((along_ask hstep).mp halong).1
      exact absurd (hok.symm.trans hno) (by decide)
    have hrest : (AAAos.mapTaken flags page phys next).run (elfLedger src.alloc) x =
        (Elf.memset page pageSize >>= fun _ => next).run (elfLedger src.alloc)
          ((x.1.mapPage src.alloc page phys flags).2, x.2) := run_ask hstep
    rw [hrest, Prog.run_bind] at hrun
    obtain ⟨⟨u, z⟩, hclear, hafter⟩ := Option.bind_eq_some_iff.mp hrun
    have hmid : Sane src ((x.1.mapPage src.alloc page phys flags).2, x.2) := htree
    obtain ⟨hsane, hvmm⟩ := clears hmid hclear
    have hlast := hnext z r y hsane hafter
    have hthere : ∀ virt, ((x.1.mapPage src.alloc page phys flags).2).mapped src virt = true →
        y.1.mapped src virt = true := by
      intro virt hvirt
      refine hlast.keeps virt ?_
      rw [mapped, hvmm]
      exact hvirt
    have hkeeps : ∀ virt, x.1.mapped src virt = true → y.1.mapped src virt = true := by
      intro virt hvirt
      exact hthere virt (by rw [hmapped, hvirt, Bool.or_true])
    have hfound : y.1.mapped src page = true :=
      hthere page (by rw [hmapped, hok, decide_eq_true rfl, Bool.true_and, Bool.true_or])
    exact ⟨hlast.sane, hkeeps, .inr ⟨hquiet, page, hnew, hfound⟩⟩

lemma mapRound (flags page : UInt64) {next : Elf (Option ElfError)} (hnext : Accounts src next) :
    Accounts src (AAAos.mapRound flags page next) := by
  intro x r y hx hrun
  cases hmapped : x.1.mapped src page with
  | true =>
    have hstep : elfLedger src.alloc (.isMapped page) x = (true, x) := Prod.ext hmapped rfl
    have hrest : (AAAos.mapRound flags page next).run (elfLedger src.alloc) x =
        next.run (elfLedger src.alloc) x := run_ask hstep
    rw [hrest] at hrun
    exact .trans (along_ask hstep) hx (.of_kept (.refl x) hx hx trivial) (hnext x r y hx hrun)
  | false =>
    have hstep : elfLedger src.alloc (.isMapped page) x = (false, x) := Prod.ext hmapped rfl
    generalize htake : elfLedger src.alloc .allocPage x = taken
    obtain ⟨phys, z⟩ := taken
    change UInt64 at phys
    have hphys : (x.1.allocPage src.alloc).1 = phys := congrArg Prod.fst htake
    have hz : z = ((x.1.allocPage src.alloc).2, if phys = 0 then x.2 else phys :: x.2) := by
      rw [← hphys]
      exact (congrArg Prod.snd htake).symm
    have hsame : Kept x (z.1, x.2) := ⟨fun virt => by rw [hz]; rfl, rfl⟩
    have hsane : Sane src z := by
      rw [hz]
      exact Tree.withPages hx
    have hquiet : (AAAos.mapRound flags page next).Along (elfLedger src.alloc) (MapsNothing src) x ↔
        True ∧ (if phys = 0 then Pure.pure (some ElfError.outOfMemory)
          else AAAos.mapTaken flags page phys next).Along (elfLedger src.alloc) (MapsNothing src) z :=
      (along_ask hstep).trans (and_congr_right fun _ => (along_ask htake).trans (true_and _).to_iff)
    have hrest : (AAAos.mapRound flags page next).run (elfLedger src.alloc) x =
        (if phys = 0 then Pure.pure (some ElfError.outOfMemory)
          else AAAos.mapTaken flags page phys next).run (elfLedger src.alloc) z :=
      (run_ask hstep).trans (run_ask htake)
    rw [hrest] at hrun
    have hfirst : Accounted src True x (z.1, x.2) := .of_kept hsame hx hsane trivial
    refine hfirst.trans hquiet hx ?_
    by_cases hzero : phys = 0
    · rw [if_pos hzero] at hrun ⊢
      obtain ⟨-, hlast⟩ := Prod.mk.inj (Option.some.inj hrun)
      rw [if_pos hzero] at hz
      have hkept : Kept (z.1, x.2) y := by
        rw [← hlast, hz]
        exact .refl _
      exact .of_kept hkept hsane (hlast ▸ hsane) trivial
    · rw [if_neg hzero] at hrun ⊢
      rw [if_neg hzero] at hz
      have hheld : z.2 = phys :: x.2 := by rw [hz]
      exact mapTaken hnext hsane ((hsame.mapped hx hsane page).trans hmapped) hheld hrun

lemma closed (src : PageSource α) : ElfClosed (fun p => Accounts src p) where
  pure := pure
  hang := hang
  bind := bind
  issue := issue
  page flags page _ hnext := mapRound flags page hnext

lemma entry (e : ElfEntry) : Accounts src e.prog := by
  cases e with
  | load data size info => exact (closed src).elfLoad data size info
  | loadAt data size baseAddr info => exact (closed src).elfLoadAt data size baseAddr info

end Accounts

/-! ## The result -/

lemma memset_true (palloc : α → UInt64 × α) {n : Nat} {dest : UInt64} {m : ElfMachine α}
    (h : ∀ k < n, m.accessible palloc (dest + UInt64.ofNat k) = true) : (memset palloc n dest m).1 = true := by
  induction n generalizing dest m with
  | zero => rfl
  | succ n ih =>
    have hfirst := h 0 (Nat.succ_pos n)
    rw [show UInt64.ofNat 0 = 0 from rfl, UInt64.add_zero] at hfirst
    rw [memset, if_pos hfirst]
    refine ih fun k hk => ?_
    have hnext := h (k + 1) (Nat.succ_lt_succ hk)
    rwa [UInt64.ofNat_add, UInt64.add_comm (UInt64.ofNat k), ← UInt64.add_assoc] at hnext

lemma memset_page (h : Tree src m.vmm m.vmm.root) {page : UInt64} (halign : isAligned page 4096 = true)
    (hlow : page.toNat + 4096 ≤ 2 ^ 47) (hmapped : m.mapped src page = true) :
    (memset src.alloc pageSize page m).1 = true := by
  refine memset_true src.alloc fun k hk => ?_
  have hk' : k < 4096 := hk
  have hoffset : (UInt64.ofNat k).toNat < 4096 := by
    rw [UInt64.toNat_ofNat']
    omega
  have hpage := (VmmMachine.pageNumber_add halign hoffset).1
  have hsame : vmmIsMapped src.alloc m.vmm (page + UInt64.ofNat k) = vmmIsMapped src.alloc m.vmm page := by
    rw [h.vmmIsMapped, h.vmmIsMapped, path_eq_iff.mpr hpage]
  have hcanonical : canonical (page + UInt64.ofNat k) = true := by
    have hlt : page + UInt64.ofNat k < 0x800000000000 := by
      rw [UInt64.lt_iff_toNat_lt, UInt64.toNat_add, UInt64.toNat_ofNat']
      show (page.toNat + k % 2 ^ 64) % 2 ^ 64 < 2 ^ 47
      omega
    rw [canonical, decide_eq_true hlt, Bool.true_or]
  rw [accessible, hcanonical, Bool.true_and, hsame]
  exact hmapped

/-- The same machine, but that it clears nothing. -/
def quick (palloc : α → UInt64 × α) : Machine elfInterface (ElfMachine α × List UInt64)
  | .memset _ _, x => (true, x)
  | c, x => elfLedger palloc c x

/-- The same up to the bytes from `top` on. -/
structure Alike (top : Nat) (x y : ElfMachine α × List UInt64) : Prop where
  vmm : x.1.vmm = y.1.vmm
  held : x.2 = y.2
  bytes : ∀ a : UInt64, a.toNat < top → x.1.bytes a = y.1.bytes a

/-- The loads are below `top`, the pages that are cleared are above and can be, and nothing else is written. -/
def Reads (src : PageSource α) (top : Nat) : ElfCall → ElfMachine α × List UInt64 → Prop
  | .load addr size, _ => addr.toNat + size ≤ top ∧ top ≤ 2 ^ 47
  | .memset dest n, y => n = pageSize ∧ isAligned dest 4096 = true ∧ dest.toNat + 4096 ≤ 2 ^ 47 ∧
      y.1.mapped src dest = true ∧ top ≤ dest.toNat
  | .memcpy _ _ _, _ | .store _ _, _ => False
  | _, _ => True

lemma loadBytes_congr {bytes bytes' : UInt64 → UInt8} {addr : UInt64} {n : Nat}
    (h : ∀ k < n, bytes (addr + UInt64.ofNat k) = bytes' (addr + UInt64.ofNat k)) :
    loadBytes bytes addr n = loadBytes bytes' addr n := by
  induction n generalizing addr with
  | zero => rfl
  | succ n ih =>
    have hfirst := h 0 (Nat.succ_pos n)
    rw [show UInt64.ofNat 0 = 0 from rfl, UInt64.add_zero] at hfirst
    have hrest : ∀ k < n, bytes (addr + 1 + UInt64.ofNat k) = bytes' (addr + 1 + UInt64.ofNat k) := by
      intro k hk
      have hnext := h (k + 1) (Nat.succ_lt_succ hk)
      rwa [UInt64.ofNat_add, UInt64.add_comm (UInt64.ofNat k), ← UInt64.add_assoc] at hnext
    rw [loadBytes, loadBytes, hfirst, ih hrest]

lemma toNat_add_ofNat {addr : UInt64} {k : Nat} (h : addr.toNat + k < 2 ^ 64) :
    (addr + UInt64.ofNat k).toNat = addr.toNat + k := by
  rw [UInt64.toNat_add, UInt64.toNat_ofNat']
  omega

lemma Alike.step {top : Nat} (h : Alike top x y) (hx : Sane src x) {c : ElfCall} (hc : Reads src top c y) :
    (elfLedger src.alloc c x).1 = (quick src.alloc c y).1 ∧
      Alike top (elfLedger src.alloc c x).2 (quick src.alloc c y).2 ∧ Sane src (elfLedger src.alloc c x).2 := by
  obtain ⟨hvmm, hheld, hbytes⟩ := h
  cases c with
  | load addr size =>
    refine ⟨?_, ⟨hvmm, hheld, hbytes⟩, hx⟩
    have hcan : x.1.accessibleAll src.alloc addr size = y.1.accessibleAll src.alloc addr size := by
      simp only [accessibleAll, accessible, hvmm]
    have hload : loadBytes x.1.bytes addr size = loadBytes y.1.bytes addr size :=
      loadBytes_congr fun k hk => hbytes _ (by
        have hbelow := hc.1
        have htop := hc.2
        rw [toNat_add_ofNat (by omega)]
        omega)
    show (if _ then some (loadBytes _ _ _) else none) = if _ then some (loadBytes _ _ _) else none
    rw [hcan, hload]
  | isMapped virt => exact ⟨congrArg (vmmIsMapped src.alloc · virt) hvmm, ⟨hvmm, hheld, hbytes⟩, hx⟩
  | allocPage =>
    have hreply : (x.1.allocPage src.alloc).1 = (y.1.allocPage src.alloc).1 := by
      rw [allocPage, allocPage, hvmm]
    refine ⟨hreply, ⟨?_, ?_, hbytes⟩, Tree.withPages hx⟩
    · show (x.1.allocPage src.alloc).2.vmm = (y.1.allocPage src.alloc).2.vmm
      rw [allocPage, allocPage, hvmm]
    · show ElfCall.heldAfter .allocPage (x.1.allocPage src.alloc).1 x.2 =
        ElfCall.heldAfter .allocPage (y.1.allocPage src.alloc).1 y.2
      rw [hreply, hheld]
  | mapPage virt phys flags =>
    have hreply : (x.1.mapPage src.alloc virt phys flags).1 = (y.1.mapPage src.alloc virt phys flags).1 := by
      rw [mapPage, mapPage, hvmm]
    refine ⟨hreply, ⟨?_, hheld, hbytes⟩, (mapped_mapPage hx virt phys flags).1⟩
    show (x.1.mapPage src.alloc virt phys flags).2.vmm = (y.1.mapPage src.alloc virt phys flags).2.vmm
    rw [mapPage, mapPage, hvmm]
  | freePage phys => exact ⟨rfl, ⟨hvmm, congrArg (·.erase phys) hheld, hbytes⟩, hx⟩
  | memset dest n =>
    obtain ⟨rfl, halign, hlow, hmapped, hapart⟩ := hc
    have hthere : x.1.mapped src dest = true := by
      rw [mapped, hvmm]
      exact hmapped
    have hwrites := writes_memset src.alloc pageSize dest x.1
    refine ⟨memset_page hx halign hlow hthere, ⟨hwrites.vmm.trans hvmm, hheld, fun a ha => ?_⟩, ?_⟩
    · refine (hwrites.bytes a fun k hk heq => ?_).trans (hbytes a ha)
      have hk' : k < 4096 := hk
      rw [heq, toNat_add_ofNat (by omega)] at ha
      omega
    · show Tree src (memset src.alloc pageSize dest x.1).2.vmm (memset src.alloc pageSize dest x.1).2.vmm.root
      rw [hwrites.vmm]
      exact hx
  | memcpy dest from' n => exact hc.elim
  | store addr value => exact hc.elim

section

instance (c : elfInterface.Call) (y : ElfMachine (List UInt64) × List UInt64) :
    Decidable (Reads scriptSource 0x400078 c y) :=
  match c with
  | .load _ _ => inferInstanceAs (Decidable (_ ∧ _))
  | .memset _ _ => inferInstanceAs (Decidable (_ ∧ _ ∧ _ ∧ _ ∧ _))
  | .memcpy _ _ _ | .store _ _ => .isFalse id
  | .isMapped _ | .allocPage | .mapPage _ _ _ | .freePage _ => .isTrue trivial

end

end ElfMachine

end AAAos
