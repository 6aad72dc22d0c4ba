import AAAos.Kernel.Mm.VmmTree
import AAAos.Kernel.Mm.PmmStats

/-!
# Creating and destroying address spaces

`vmm_create_address_space` copies entries of the kernel's PML4 into a new one, among them the
entries of the lower half that are not for users; `vmm_destroy_address_space` frees everything
below the lower half of the new one.

**What is shared.**  The identity mapping of `vmm_init` starts at address 0, so the first entry of
the kernel's PML4 is present and not for users in every state after it (`Ready`), unless the page
allocator had nothing left to give.  Mappings, in the kernel's space or in the new one, leave that
entry alone.

**What is freed.**  The teardown only clears bits (`OnlyFrees`), and it clears the one of the table
that the first entry points to.  So a space that could be created takes kernel tables with it when
it is destroyed, whatever has been mapped before (`isolated_iff`).
-/

namespace AAAos

namespace Vmm

/-! ## The physical memory manager as a source of pages -/

/-- `pmm_alloc_page` on a well-formed manager. -/
lemma pmmAllocPage_spec {p : Pmm} (hp : p.WellFormed) :
    ((pmmAllocPage p).1 = 0 ∧ (pmmAllocPage p).2 = p ∧ findFreePages p 1 = none) ∨
      ∃ start, 0 < start ∧ start < p.totalPages.toNat ∧ (pmmAllocPage p).1.toNat = 4096 * start ∧
        bitmapTest p.bitmap start = false ∧
        MarksUsed p (pmmAllocPage p).2 fun i => i = start := by
  rcases pmmAllocPages_spec hp 1 with ⟨hzero, hsame⟩ | ⟨start, hpos, hle, -, haddr, hclear, hmarks⟩
  · refine .inl ⟨hzero, hsame, ?_⟩
    by_contra hsome
    obtain ⟨start, hfind⟩ := Option.ne_none_iff_exists'.mp hsome
    obtain ⟨hlt, hclear⟩ := findFreePages_spec (by decide) hfind
    have hmax := hp.total_le
    have hstart : start ≠ 0 := by
      rintro rfl
      have := hclear 0 (by omega) (by omega)
      rw [hp.zero_used] at this
      cases this
    have haddr := toNat_pfnToAddr (show start < pmmMaxPages by omega)
    rw [pmmAllocPages, if_neg (by decide), show (1 : UInt64).toNat = 1 from rfl, hfind] at hzero
    rw [show UInt64.ofNat start <<< 12 = 0 from hzero, UInt64.toNat_zero] at haddr
    omega
  · have hone : (1 : UInt64).toNat = 1 := rfl
    rw [hone] at hle hmarks
    refine .inr ⟨start, hpos, by omega, haddr, hclear start le_rfl (by omega), ?_⟩
    exact hmarks.congr fun i _ => by omega

/-- The page at an address is below the total, and its bit is set. -/
def PageTaken (p : Pmm) (addr : UInt64) : Prop :=
  addr.toNat / 4096 < p.totalPages.toNat ∧ bitmapTest p.bitmap (addr.toNat / 4096) = true

lemma pmmAllocPage_given {p : Pmm} (hp : p.WellFormed) (hgiven : (pmmAllocPage p).1 ≠ 0) :
    ∃ start, 0 < start ∧ start < p.totalPages.toNat ∧ (pmmAllocPage p).1.toNat = 4096 * start ∧
      bitmapTest p.bitmap start = false ∧ MarksUsed p (pmmAllocPage p).2 fun i => i = start := by
  rcases pmmAllocPage_spec hp with ⟨hzero, -⟩ | h
  · exact absurd hzero hgiven
  · exact h

/-- The physical memory manager hands out pages that are not taken. -/
def pmmSource : PageSource Pmm where
  alloc := pmmAllocPage
  Ok := Pmm.WellFormed
  Taken := PageTaken
  ok h := h.pmmAllocPages 1
  address {p} h hgiven := by
    obtain ⟨start, -, hlt, haddr, -⟩ := pmmAllocPage_given h hgiven
    have hmax : p.totalPages.toNat ≤ 1048576 := h.total_le
    exact and_addrMask_of_aligned (by omega) (by omega)
  fresh h hgiven := by
    obtain ⟨start, -, -, haddr, hclear, -⟩ := pmmAllocPage_given h hgiven
    rintro ⟨-, htest⟩
    rw [haddr, Nat.mul_div_cancel_left _ (by decide), hclear] at htest
    cases htest
  taken h hgiven := by
    obtain ⟨start, -, hlt, haddr, -, hmarks⟩ := pmmAllocPage_given h hgiven
    rw [PageTaken, haddr, Nat.mul_div_cancel_left _ (by decide), hmarks.total]
    exact ⟨hlt, (hmarks.test start).mpr (.inr rfl)⟩
  keeps {p q} h hq := by
    rcases pmmAllocPage_spec h with ⟨-, hsame, -⟩ | ⟨start, -, -, -, -, hmarks⟩
    · rw [hsame]
      exact hq
    · rw [PageTaken, hmarks.total]
      exact ⟨hq.1, (hmarks.test _).mpr (.inl hq.2)⟩

lemma no_free_of_refused {p : Pmm} (h : pmmSource.Refused p) : p.WellFormed ∧ findFreePages p 1 = none := by
  obtain ⟨a, ha, hzero, rfl⟩ := h
  rcases pmmAllocPage_spec ha with ⟨-, hsame, hnone⟩ | ⟨start, hpos, -, haddr, -⟩
  · rw [show (pmmSource.alloc a).2 = a from hsame]
    exact ⟨ha, hnone⟩
  · rw [show (pmmAllocPage a).1 = 0 from hzero, UInt64.toNat_zero] at haddr
    omega

/-- Without a free page, `pmm_alloc_page` fails and changes nothing. -/
lemma pmmAllocPage_of_none {p : Pmm} (h : findFreePages p 1 = none) : pmmAllocPage p = (0, p) := by
  rw [pmmAllocPage, pmmAllocPages, if_neg (by decide), show (1 : UInt64).toNat = 1 from rfl, h]

/-! ## Mapping without free pages -/

variable {s k : Vmm Pmm} {root virt phys flags t : UInt64} {i : Fin 512}

lemma getOrCreateEntry_pages (t : UInt64) (i : Fin 512) (flags : UInt64) (h : findFreePages s.pages 1 = none) :
    (getOrCreateEntry pmmAllocPage s t i true flags).2.pages = s.pages := by
  unfold getOrCreateEntry
  split_ifs
  · rfl
  · simp_all
  · simp [allocPageTable, pmmAllocPage_of_none h]

lemma vmmWalk_pages (root virt flags : UInt64) (h : findFreePages s.pages 1 = none) :
    (vmmWalk pmmAllocPage s root virt true flags).2.pages = s.pages := by
  have h₁ := getOrCreateEntry_pages root (pml4Index virt) flags h
  simp only [vmmWalk]
  split_ifs with hz₁ hz₂ hz₃
  · exact h₁
  all_goals
    have h₂ := getOrCreateEntry_pages (getOrCreateEntry pmmAllocPage s root (pml4Index virt)
      true flags).1 (pdptIndex virt) flags (h₁.symm ▸ h)
    rw [h₁] at h₂
  · exact h₂
  all_goals exact (getOrCreateEntry_pages _ _ flags (h₂.symm ▸ h)).trans h₂

lemma vmmMapIn_pages (root virt phys flags : UInt64) (h : findFreePages s.pages 1 = none) :
    (vmmMapIn pmmAllocPage s root virt phys flags).2.pages = s.pages := by
  have hwalk := vmmWalk_pages root virt flags h
  unfold vmmMapIn
  split_ifs
  · rfl
  · obtain ⟨w, hw⟩ : ∃ w, vmmWalk pmmAllocPage s root virt true flags = w := ⟨_, rfl⟩
    rw [hw] at hwalk ⊢
    rcases w with ⟨_ | ⟨pt, j⟩, s'⟩
    · exact hwalk
    · exact hwalk

/-! ## The first entry of a PML4 -/

/-- The first entry of the PML4 at `root` is for the table `t` and not for users. -/
structure Ready (s : Vmm Pmm) (root t : UInt64) : Prop where
  address : root &&& vmmAddrMask = root
  tree : Tree pmmSource s root
  table : t &&& vmmAddrMask = t
  first : s.entryAt root [0] = some (t ||| 3)

lemma first_ne_path : [0] ≠ path virt := by simp [path]

lemma Ready.vmmMapIn (h : Ready s root t) {r : Bool × Vmm Pmm}
    (hr : Vmm.vmmMapIn pmmAllocPage s root virt phys flags = r) :
    Ready r.2 root t ∧ r.2.kernelPml4 = s.kernelPml4 ∧ r.2.cr3 = s.cr3 := by
  obtain ⟨htree, ⟨-, hext, -⟩ | ⟨-, -, -, s₁, pt, hext, -, heq, hentry⟩⟩ :=
    Tree.vmmMapIn h.tree hr
  · exact ⟨⟨h.address, htree, h.table, hext.keeps (by simp) h.first⟩, hext.kernelPml4, hext.cr3⟩
  · refine ⟨⟨h.address, htree, h.table, ?_⟩, ?_, ?_⟩
    · rw [hentry _ (by simp), if_neg first_ne_path, hext.keeps (by simp) h.first]
    · rw [heq]
      exact hext.kernelPml4
    · rw [heq]
      exact hext.cr3

/-- The first mapping of `vmm_init` makes the first entry, or there is no free page. -/
lemma ready_of_first (h : Tree pmmSource s root) (haddr : root &&& vmmAddrMask = root)
    (hempty : s.mem root = fun _ => 0)
    {r : Bool × Vmm Pmm} (hr : Vmm.vmmMapIn pmmAllocPage s root 0 0 vmmFlagsKernel = r) :
    (findFreePages r.2.pages 1 = none ∨ ∃ t, Ready r.2 root t) ∧ r.2.kernelPml4 = s.kernelPml4 ∧ r.2.cr3 = s.cr3 := by
  have hal : isAligned 0 4096 = true := by decide
  obtain ⟨htree, ⟨-, hext, href⟩ | ⟨-, -, -, s₁, pt, hext, hpt, heq, hentry⟩⟩ :=
    Tree.vmmMapIn h hr
  · exact ⟨.inl (no_free_of_refused (href hal hal)).2, hext.kernelPml4, hext.cr3⟩
  · have hfirst := hentry [0] (by simp)
    rw [if_neg first_ne_path] at hfirst
    refine ⟨.inr ?_, ?_, ?_⟩
    · rcases hext.entry [0] (by simp) with hsame | ⟨-, -, t, ht, hnew⟩
      · -- the way to the page is there, so the entry is not the empty one of before
        have hway : s₁.tableAt root (tablePath 0) ≠ none := by
          rw [hpt]
          simp
        refine absurd (RadixTable.tableAt_cons_none (RadixTable.tableAt_cons_none ?_ _) _) hway
        rw [show pml4Index 0 = 0 by decide, RadixTable.tableAt_cons,
          show RadixTable.entryAt child s₁.mem root [0] = none from hsame.trans (entryAt_empty hempty)]
        rfl
      · exact ⟨t, haddr, htree, ht, hfirst.trans hnew⟩
    · rw [heq]
      exact hext.kernelPml4
    · rw [heq]
      exact hext.cr3

/-- The kernel's tables are ready, or there is no free page. -/
def KernelReady (s : Vmm Pmm) : Prop :=
  findFreePages s.pages 1 = none ∨ s.kernelPml4 ≠ 0 ∧ ∃ t, Ready s s.kernelPml4 t

lemma root_of_kernel (h : s.kernelPml4 ≠ 0) : s.root = s.kernelPml4 := by
  rw [root, if_neg h]

lemma KernelReady.vmmMapPage (h : KernelReady s) {r : Bool × Vmm Pmm}
    (hr : Vmm.vmmMapPage pmmAllocPage s virt phys flags = r) :
    KernelReady r.2 ∧ (findFreePages r.2.pages 1 = none ∨ r.2.kernelPml4 = s.kernelPml4 ∧ r.2.cr3 = s.cr3) := by
  subst hr
  rcases h with hnone | ⟨hk, hready⟩
  · have hpages := vmmMapIn_pages s.root virt phys flags hnone
    rw [← hpages] at hnone
    exact ⟨.inl hnone, .inl hnone⟩
  · obtain ⟨t, hready⟩ := hready
    obtain ⟨hready', hk', hc'⟩ := @Ready.vmmMapIn _ _ virt phys flags _ hready _ rfl
    rw [Vmm.vmmMapPage, root_of_kernel hk]
    exact ⟨.inr ⟨hk'.symm ▸ hk, t, hk'.symm ▸ hready'⟩, .inr ⟨hk', hc'⟩⟩

lemma KernelReady.identityMap (h : KernelReady s) (page n : Nat) :
    KernelReady (Vmm.identityMap pmmAllocPage s page n) := by
  induction n generalizing s page with
  | zero => exact h
  | succ n ih => exact ih (h.vmmMapPage rfl).1 (page + 1)

/-- After `vmm_init`: also, the kernel's tables are the current ones. -/
def Booted (s : Vmm Pmm) : Prop :=
  findFreePages s.pages 1 = none ∨
    s.kernelPml4 ≠ 0 ∧ (∃ t, Ready s s.kernelPml4 t) ∧ s.cr3 &&& vmmAddrMask = s.kernelPml4

lemma Booted.vmmMapPage (h : Booted s) : Booted (Vmm.vmmMapPage pmmAllocPage s virt phys flags).2 := by
  obtain ⟨r, hr⟩ : ∃ r, Vmm.vmmMapPage pmmAllocPage s virt phys flags = r := ⟨_, rfl⟩
  have hkernel : KernelReady s := h.imp_right fun h => ⟨h.1, h.2.1⟩
  obtain ⟨hready, hsame⟩ := hkernel.vmmMapPage hr
  rw [hr]
  rcases hready with hnone | ⟨hk, hready⟩
  · exact .inl hnone
  rcases hsame with hnone | ⟨hk', hc'⟩
  · exact .inl hnone
  rcases h with hnone | ⟨-, -, hc⟩
  · have hpages := vmmMapIn_pages s.root virt phys flags hnone
    rw [Vmm.vmmMapPage] at hr
    rw [hr] at hpages
    exact .inl (hpages ▸ hnone)
  · exact .inr ⟨hk, hready, by rw [hc', hk', hc]⟩

/-- `vmm_switch_address_space` makes a root the current one. -/
lemma vmmSwitchAddressSpace_cr3 {pml4 : UInt64} (hne : pml4 ≠ 0) (haddr : pml4 &&& vmmAddrMask = pml4) :
    (s.vmmSwitchAddressSpace pml4).cr3 &&& vmmAddrMask = pml4 := by
  unfold vmmSwitchAddressSpace
  rw [if_neg hne]
  split_ifs with hc
  · exact haddr
  · exact not_not.mp hc

lemma vmmSwitchAddressSpace_same (pml4 : UInt64) :
    (s.vmmSwitchAddressSpace pml4).mem = s.mem ∧ (s.vmmSwitchAddressSpace pml4).pages = s.pages ∧
      (s.vmmSwitchAddressSpace pml4).kernelPml4 = s.kernelPml4 := by
  unfold vmmSwitchAddressSpace
  split_ifs <;> exact ⟨rfl, rfl, rfl⟩

lemma Ready.switch (h : Ready s root t) (pml4 : UInt64) : Ready (s.vmmSwitchAddressSpace pml4) root t := by
  obtain ⟨hmem, hpages, -⟩ := vmmSwitchAddressSpace_same (s := s) pml4
  obtain ⟨hok, hsep, hnz, htaken⟩ := h.tree
  refine ⟨h.address, ⟨?_, ?_, ?_, ?_⟩, h.table, ?_⟩
  all_goals simp only [tableAt, entryAt, hmem, hpages]
  · exact hok
  · exact hsep
  · exact hnz
  · exact htaken
  · exact h.first

lemma kernelReady_identityMap (h : Tree pmmSource s s.kernelPml4)
    (haddr : s.kernelPml4 &&& vmmAddrMask = s.kernelPml4)
    (hempty : s.mem s.kernelPml4 = fun _ => 0) (hk : s.kernelPml4 ≠ 0) (n : Nat) :
    KernelReady (identityMap pmmAllocPage s 0 (n + 1)) := by
  obtain ⟨r, hr⟩ : ∃ r, Vmm.vmmMapPage pmmAllocPage s 0 0 vmmFlagsKernel = r := ⟨_, rfl⟩
  have hrun : identityMap pmmAllocPage s 0 (n + 1) = identityMap pmmAllocPage r.2 1 n := by
    rw [identityMap, show UInt64.ofNat (4096 * 0) = 0 from rfl, hr]
  rw [Vmm.vmmMapPage, root_of_kernel hk] at hr
  obtain ⟨hcases, hk', -⟩ := ready_of_first h haddr hempty hr
  rw [hrun]
  refine KernelReady.identityMap (hcases.imp_right fun hready => ⟨hk'.symm ▸ hk, hk'.symm ▸ hready⟩) 1 n

/-- `alloc_page_table` in full. -/
lemma allocPageTable_cases (hwf : s.pages.WellFormed) :
    findFreePages s.pages 1 = none ∧ allocPageTable pmmAllocPage s = (0, s) ∨
      ∃ a, a ≠ 0 ∧ (pmmAllocPage s.pages).1 = a ∧ allocPageTable pmmAllocPage s =
        (a, { s with mem := RadixTable.fill s.mem a 0, pages := (pmmAllocPage s.pages).2 }) := by
  by_cases hgiven : (pmmAllocPage s.pages).1 = 0
  · rcases pmmAllocPage_spec hwf with ⟨-, -, hnone⟩ | ⟨start, hpos, -, haddr, -⟩
    · refine .inl ⟨hnone, ?_⟩
      rw [allocPageTable, pmmAllocPage_of_none hnone]
      rfl
    · rw [hgiven, UInt64.toNat_zero] at haddr
      omega
  · refine .inr ⟨_, hgiven, rfl, ?_⟩
    rw [allocPageTable]
    exact if_neg hgiven

lemma tree_of_alloc (hwf : s.pages.WellFormed) {a : UInt64} (ha : a ≠ 0)
    (hgiven : (pmmAllocPage s.pages).1 = a) {s' : Vmm Pmm} (hmem : s'.mem a = fun _ => 0)
    (hpages : s'.pages = (pmmAllocPage s.pages).2) : Tree pmmSource s' a := by
  subst hgiven
  refine .of_empty ?_ ha ?_ hmem
  · rw [hpages]
    exact pmmSource.ok hwf
  · rw [hpages]
    exact pmmSource.taken hwf ha

/-- **`vmm_init`** leaves a kernel root whose first entry is not for users, or no free page. -/
lemma booted_vmmInit (hwf : s.pages.WellFormed) : Booted (vmmInit pmmAllocPage s) := by
  rcases allocPageTable_cases hwf with ⟨hnone, halloc⟩ | ⟨a, ha, hgiven, halloc⟩
  · refine .inl ?_
    simp only [vmmInit, halloc, if_true]
    exact hnone
  · have htree : Tree pmmSource ⟨RadixTable.fill s.mem a 0, a, s.cr3, (pmmAllocPage s.pages).2⟩ a :=
      tree_of_alloc hwf ha hgiven (by simp [RadixTable.fill]) rfl
    have haddr : a &&& vmmAddrMask = a := by
      subst hgiven
      exact pmmSource.address hwf ha
    have hready := (kernelReady_identityMap htree haddr (by simp [RadixTable.fill]) ha 1023).identityMap
      1024 3072
    simp only [vmmInit, halloc, if_neg ha]
    generalize identityMap pmmAllocPage (identityMap pmmAllocPage _ 0 1024) 1024 3072 = s₁ at hready ⊢
    obtain ⟨-, hpages, hk'⟩ := vmmSwitchAddressSpace_same (s := s₁) s₁.kernelPml4
    rcases hready with hnone | ⟨hk, t, hready⟩
    · exact .inl (hpages.symm ▸ hnone)
    · refine .inr ⟨hk'.symm ▸ hk, ⟨t, hk'.symm ▸ hready.switch _⟩, ?_⟩
      rw [hk', vmmSwitchAddressSpace_cr3 hk hready.address]

/-! ## A new space -/

lemma entry_eq_of_root {e : UInt64} (h : s.entryAt root [i] = some e) : s.mem root i = e := by
  rw [entryAt, RadixTable.entryAt_of_table rfl, RadixTable.live] at h
  split_ifs at h
  exact Option.some.inj h

lemma present_of_root {e : UInt64} (h : s.entryAt root [i] = some e) : present e = true := by
  have he := entry_eq_of_root h
  rw [entryAt, RadixTable.entryAt_of_table rfl, he] at h
  by_contra hp
  rw [live_of_absent (by simpa using hp)] at h
  cases h

/-- **`vmm_create_address_space`** shares the first entry. -/
lemma Ready.create (h : Ready k k.kernelPml4 t) (hk : k.kernelPml4 ≠ 0) (hfree : findFreePages k.pages 1 ≠ none) :
    ∃ a s, vmmCreateAddressSpace pmmAllocPage k = (a, s) ∧ a ≠ 0 ∧ a ≠ k.kernelPml4 ∧
      s.kernelPml4 = k.kernelPml4 ∧ s.cr3 = k.cr3 ∧ Ready s a t := by
  rcases allocPageTable_cases h.tree.ok with ⟨hnone, -⟩ | ⟨a, ha, hgiven, halloc⟩
  · exact absurd hnone hfree
  have hfresh : ¬ PageTaken k.pages a := by
    subst hgiven
    exact pmmSource.fresh h.tree.ok ha
  have hnot : ∀ q, q.length ≤ 3 → RadixTable.tableAt child k.mem k.kernelPml4 q ≠ some a :=
    fun q hq hqa => hfresh (h.tree.taken q a hq hqa)
  have hne : a ≠ k.kernelPml4 := by
    rintro rfl
    exact hnot [] (by simp) rfl
  obtain ⟨s, hs⟩ : ∃ s : Vmm Pmm, Vmm.mk (Function.update (RadixTable.fill k.mem a 0) a fun i =>
    copiedEntry i (RadixTable.fill k.mem a 0 k.kernelPml4 i)) k.kernelPml4 k.cr3
    (pmmAllocPage k.pages).2 = s := ⟨_, rfl⟩
  have hrun : vmmCreateAddressSpace pmmAllocPage k = (a, s) := by
    simp only [vmmCreateAddressSpace, halloc, if_neg ha, if_neg hk, hs]
  have hmem : s.mem = Function.update (RadixTable.fill k.mem a 0) a fun i =>
      copiedEntry i (RadixTable.fill k.mem a 0 k.kernelPml4 i) := by rw [← hs]
  have hsame : ∀ t, t ≠ a → s.mem t = k.mem t := by
    intro t ht
    rw [hmem, Function.update_of_ne ht, RadixTable.fill, Function.update_of_ne ht]
  have hcopy : ∀ i, s.mem a i = copiedEntry i (k.mem k.kernelPml4 i) := by
    intro i
    rw [hmem, Function.update_self, RadixTable.fill, Function.update_of_ne (Ne.symm hne)]
  have hgraft : ∀ i, s.mem a i = k.mem k.kernelPml4 i ∨ child (s.mem a i) = none := by
    intro i
    rw [hcopy, copiedEntry]
    split_ifs
    · exact .inl rfl
    · exact .inl rfl
    · exact .inr (child_eq_none.mpr (show present 0 = false by decide))
  have hpages : s.pages = (pmmSource.alloc k.pages).2 := by
    rw [← hs]
    rfl
  have hold : ∀ q t, q.length ≤ 3 → s.tableAt a q = some t → q ≠ [] → k.tableAt k.kernelPml4 q = some t :=
    fun q t hq ht hnil => RadixTable.tableAt_graft hnot hsame hgraft hq hnil ht
  have haddr : a &&& vmmAddrMask = a := by
    subst hgiven
    exact pmmSource.address h.tree.ok ha
  refine ⟨a, s, hrun, ha, hne, by rw [← hs], by rw [← hs], haddr, ⟨?_, ?_, ?_, ?_⟩, h.table, ?_⟩
  · rw [hpages]
    exact pmmSource.ok h.tree.ok
  · exact h.tree.separate.graft hnot hsame hgraft
  · intro q t hq ht
    by_cases hnil : q = []
    · subst hnil
      exact Option.some.inj ht ▸ ha
    · exact h.tree.nonzero q t hq (hold q t hq ht hnil)
  · intro q t hq ht
    rw [hpages]
    by_cases hnil : q = []
    · subst hnil
      obtain rfl : a = t := Option.some.inj ht
      subst hgiven
      exact pmmSource.taken h.tree.ok ha
    · exact pmmSource.keeps h.tree.ok (h.tree.taken q t hq (hold q t hq ht hnil))
  · have hentry : k.mem k.kernelPml4 0 = t ||| 3 := entry_eq_of_root h.first
    have huser : (t ||| 3) &&& vmmFlagUser = 0 := by
      rw [or_and_mask, and_eq_zero_of_addr h.table (by decide)]
      decide
    have hpresent := present_of_root h.first
    rw [entryAt, RadixTable.entryAt_of_table rfl, hcopy, hentry, copiedEntry,
      if_neg (by decide), if_pos ⟨hpresent, huser⟩, live_of_present hpresent]

/-! ## Teardown -/

/-- From `p` to `p'` bits have been cleared, and nothing else. -/
structure OnlyFrees (p p' : Pmm) : Prop where
  wf : p'.WellFormed
  total : p'.totalPages = p.totalPages
  clear : ∀ i, bitmapTest p.bitmap i = false → bitmapTest p'.bitmap i = false

lemma OnlyFrees.refl {p : Pmm} (hp : p.WellFormed) : OnlyFrees p p := ⟨hp, rfl, fun _ h => h⟩

lemma OnlyFrees.trans {p q r : Pmm} (h₁ : OnlyFrees p q) (h₂ : OnlyFrees q r) : OnlyFrees p r :=
  ⟨h₂.wf, h₂.total.trans h₁.total, fun i hi => h₂.clear i (h₁.clear i hi)⟩

lemma onlyFrees_pmmFreePages {p : Pmm} (hp : p.WellFormed) (addr count : UInt64) :
    OnlyFrees p (pmmFreePages p addr count) := by
  have hmarks := pmmFreePages_marks hp addr count
  refine ⟨hp.pmmFreePages addr count, hmarks.total, fun i hi => ?_⟩
  by_contra hset
  have := ((hmarks.test i).mp (by simpa using hset)).1
  rw [hi] at this
  cases this

lemma pmmFreePages_clear {p : Pmm} (hp : p.WellFormed) {addr : UInt64} (hne : addr ≠ 0)
    (hal : addr.toNat % 4096 = 0) (hlt : addr.toNat / 4096 < p.totalPages.toNat) :
    bitmapTest (pmmFreePages p addr 1).bitmap (addr.toNat / 4096) = false := by
  have hmarks := pmmFreePages_marks hp addr 1
  by_contra hset
  refine ((hmarks.test (addr.toNat / 4096)).mp (by simpa using hset)).2 ⟨hne, hal, le_rfl, ?_, hlt⟩
  rw [show (1 : UInt64).toNat = 1 from rfl]
  omega

lemma onlyFrees_freeEntry {below : UInt64 → Pmm → Pmm}
    (hbelow : ∀ t p, p.WellFormed → OnlyFrees p (below t p)) {p : Pmm} (hp : p.WellFormed)
    (e : UInt64) : OnlyFrees p (freeEntry below p e) := by
  unfold freeEntry
  split_ifs
  · exact .refl hp
  · exact .refl hp
  · exact (hbelow _ p hp).trans (onlyFrees_pmmFreePages (hbelow _ p hp).wf _ _)

lemma onlyFrees_foldl {f : Pmm → Fin 512 → Pmm} (hf : ∀ p i, p.WellFormed → OnlyFrees p (f p i))
    (is : List (Fin 512)) {p : Pmm} (hp : p.WellFormed) : OnlyFrees p (is.foldl f p) := by
  induction is generalizing p with
  | nil => exact .refl hp
  | cons i is ih => exact (hf p i hp).trans (ih (hf p i hp).wf)

lemma foldl_clear {f : Pmm → Fin 512 → Pmm} (hf : ∀ p i, p.WellFormed → OnlyFrees p (f p i))
    {is : List (Fin 512)} {p : Pmm} (hp : p.WellFormed) {i : Fin 512} (hi : i ∈ is) {n : Nat}
    (hclear : ∀ q, OnlyFrees p q → bitmapTest (f q i).bitmap n = false) :
    bitmapTest (is.foldl f p).bitmap n = false := by
  obtain ⟨as, bs, rfl⟩ := List.append_of_mem hi
  rw [List.foldl_append, List.foldl_cons]
  have hbefore := onlyFrees_foldl hf as hp
  exact (onlyFrees_foldl hf bs (hf _ i hbefore.wf).wf).clear n (hclear _ hbefore)

lemma onlyFrees_freePageTableRecursive (mem : UInt64 → Fin 512 → UInt64) (n : Nat) (t : UInt64)
    (userOnly : Bool) {p : Pmm} (hp : p.WellFormed) :
    OnlyFrees p (freePageTableRecursive mem n t userOnly p) := by
  induction n generalizing t userOnly p with
  | zero =>
    unfold freePageTableRecursive
    split_ifs
    · exact .refl hp
    all_goals
      exact onlyFrees_foldl (fun p i hp => onlyFrees_freeEntry (fun _ p hp => .refl hp) hp _) _ hp
  | succ n ih =>
    unfold freePageTableRecursive
    split_ifs
    · exact .refl hp
    all_goals
      exact onlyFrees_foldl
        (fun p i hp => onlyFrees_freeEntry (fun t p hp => ih t false hp) hp _) _ hp

lemma zero_mem_lowerHalf : (0 : Fin 512) ∈ (List.finRange 512).take 256 := by
  rw [List.finRange_succ, List.take_succ_cons]
  exact List.mem_cons_self ..

lemma Ready.first_child (h : Ready s root t) : (t ||| 3) &&& vmmAddrMask = t := by
  rw [or_and_mask, h.table, show (3 : UInt64) &&& vmmAddrMask = 0 by decide, UInt64.or_zero]

lemma Ready.first_table (h : Ready s root t) : s.tableAt root [0] = some t := by
  have hfirst := h.first
  rw [entryAt] at hfirst
  rw [tableAt, RadixTable.tableAt_cons, hfirst, Option.bind_some,
    child_of_present (present_of_root h.first), h.first_child]

/-- **`vmm_destroy_address_space`** frees the table that the first entry points to. -/
lemma Ready.destroy {a : UInt64} (h : Ready s a t) (ha : a ≠ 0) (hkernel : a ≠ s.kernelPml4)
    (hcurrent : a ≠ s.cr3 &&& vmmAddrMask) :
    bitmapTest (vmmDestroyAddressSpace s a).pages.bitmap (t.toNat / 4096) = false := by
  have hpresent := present_of_root h.first
  have hhuge : ¬ (t ||| 3) &&& vmmFlagHuge ≠ 0 := by
    rw [or_and_mask, and_eq_zero_of_addr h.table (by decide)]
    decide
  have hne := h.tree.nonzero [0] t (by simp) h.first_table
  have hlt : t.toNat / 4096 < s.pages.totalPages.toNat := (h.tree.taken [0] t (by simp) h.first_table).1
  have hal : t.toNat % 4096 = 0 := by
    have := toNat_and_addrMask t
    rw [h.table] at this
    omega
  have hstep : ∀ p (i : Fin 512), p.WellFormed → OnlyFrees p (freeEntry
      (fun child p => freePageTableRecursive s.mem 2 child false p) p (s.mem a i)) := fun p i hp =>
    onlyFrees_freeEntry (fun t p hp => onlyFrees_freePageTableRecursive s.mem 2 t false hp) hp _
  have hrec : bitmapTest (freePageTableRecursive s.mem 3 a true s.pages).bitmap (t.toNat / 4096) = false := by
    rw [freePageTableRecursive, if_neg ha, if_pos rfl]
    refine foldl_clear hstep h.tree.ok zero_mem_lowerHalf fun q hq => ?_
    have hbelow := onlyFrees_freePageTableRecursive s.mem 2 t false hq.wf
    simp only [freeEntry, entry_eq_of_root h.first, hpresent, Bool.not_true, Bool.false_eq_true,
      if_false, if_neg hhuge, h.first_child]
    refine pmmFreePages_clear hbelow.wf hne hal ?_
    rw [hbelow.total, hq.total]
    exact hlt
  rw [vmmDestroyAddressSpace, if_neg (by simp [ha, hkernel]), if_neg hcurrent]
  exact (onlyFrees_pmmFreePages (onlyFrees_freePageTableRecursive s.mem 3 a true h.tree.ok).wf a
    1).clear _ hrec

/-! ## The life of a space -/

/-- The arguments of a mapping call. -/
structure Mapping where
  virt : UInt64
  phys : UInt64
  flags : UInt64

/-- A sequence of mappings in the space of `root`. -/
def mapsIn (s : Vmm Pmm) (root : UInt64) (ms : List Mapping) : Vmm Pmm :=
  ms.foldl (fun s m => (Vmm.vmmMapIn pmmAllocPage s root m.virt m.phys m.flags).2) s

/-- The kernel's tables after `vmm_init` and a sequence of `vmm_map_page` calls. -/
def kernelState (s : Vmm Pmm) (ms : List Mapping) : Vmm Pmm :=
  ms.foldl (fun s m => (Vmm.vmmMapPage pmmAllocPage s m.virt m.phys m.flags).2)
    (vmmInit pmmAllocPage s)

/-- A space is created, mappings are made in it, and it is destroyed. -/
def spaceLife (k : Vmm Pmm) (ms : List Mapping) : Vmm Pmm :=
  let r := vmmCreateAddressSpace pmmAllocPage k
  if r.1 = 0 then vmmDestroyAddressSpace r.2 r.1
  else vmmDestroyAddressSpace (mapsIn r.2 r.1 ms) r.1

/-- What the kernel relies on: its translations are the same, no frame of its own has become free,
neither one that holds a table nor one that a mapping points to, and no frame at all but those given
to the space by its mappings. -/
structure Isolated (k : Vmm Pmm) (ms : List Mapping) (e : Vmm Pmm) : Prop where
  mapped : ∀ w, vmmIsMapped pmmAllocPage e w = vmmIsMapped pmmAllocPage k w
  physical : ∀ w, vmmGetPhysical pmmAllocPage e w = vmmGetPhysical pmmAllocPage k w
  tables : ∀ q t, q.length ≤ 3 → k.tableAt k.root q = some t → bitmapTest k.pages.bitmap (t.toNat / 4096) = true →
    bitmapTest e.pages.bitmap (t.toNat / 4096) = true
  frames : ∀ w, vmmIsMapped pmmAllocPage k w = true →
    bitmapTest k.pages.bitmap ((vmmGetPhysical pmmAllocPage k w).toNat / 4096) = true →
    bitmapTest e.pages.bitmap ((vmmGetPhysical pmmAllocPage k w).toNat / 4096) = true
  others : ∀ i, (∀ m ∈ ms, m.phys.toNat / 4096 ≠ i) → bitmapTest k.pages.bitmap i = true →
    bitmapTest e.pages.bitmap i = true

lemma booted_kernelState (hwf : s.pages.WellFormed) (ms : List Mapping) : Booted (kernelState s ms) := by
  have hrun : ∀ s, Booted s → Booted (ms.foldl (fun s m =>
      (Vmm.vmmMapPage pmmAllocPage s m.virt m.phys m.flags).2) s) := by
    induction ms with
    | nil => exact fun s h => h
    | cons m ms ih => exact fun s h => ih _ h.vmmMapPage
  exact hrun _ (booted_vmmInit hwf)

lemma Ready.mapsIn (h : Ready s root t) (ms : List Mapping) :
    Ready (Vmm.mapsIn s root ms) root t ∧ (Vmm.mapsIn s root ms).kernelPml4 = s.kernelPml4 ∧
      (Vmm.mapsIn s root ms).cr3 = s.cr3 := by
  induction ms generalizing s with
  | nil => exact ⟨h, rfl, rfl⟩
  | cons m ms ih =>
    obtain ⟨hready, hk, hc⟩ := @Ready.vmmMapIn _ _ m.virt m.phys m.flags _ h _ rfl
    obtain ⟨hready', hk', hc'⟩ := ih hready
    exact ⟨hready', hk'.trans hk, hc'.trans hc⟩

lemma Ready.not_isolated (h : Ready k k.kernelPml4 t) (hk : k.kernelPml4 ≠ 0)
    (hc : k.cr3 &&& vmmAddrMask = k.kernelPml4) (hfree : findFreePages k.pages 1 ≠ none)
    (ms : List Mapping) : ¬ Isolated k ms (spaceLife k ms) := by
  obtain ⟨a, s, hcreate, ha, hne, hks, hcs, hready⟩ := h.create hk hfree
  obtain ⟨hready', hks', hcs'⟩ := hready.mapsIn ms
  intro hisolated
  have htaken : PageTaken k.pages t := h.tree.taken [0] t (by simp) h.first_table
  have hkept := hisolated.tables [0] t (by simp) (root_of_kernel hk ▸ h.first_table) htaken.2
  have hfreed := hready'.destroy ha (by rwa [hks', hks]) (by rwa [hcs', hcs, hc])
  simp only [spaceLife, hcreate, if_neg ha] at hkept
  rw [hfreed] at hkept
  cases hkept

lemma spaceLife_of_none (h : findFreePages k.pages 1 = none) (ms : List Mapping) : spaceLife k ms = k := by
  have halloc : allocPageTable pmmAllocPage k = (0, k) := by
    rw [allocPageTable, pmmAllocPage_of_none h]
    rfl
  simp [spaceLife, vmmCreateAddressSpace, halloc, vmmDestroyAddressSpace]

/-- **Teardown is isolated only where there was nothing to tear down.**  On a page allocator in any
state, after `vmm_init` and any mappings: creating a space, mapping in it and destroying it leaves
the kernel's tables, frames and translations alone if and only if there was no free page for the
new PML4. -/
theorem isolated_iff (info : Option BootInfo) (boots : List PmmCall) (p : PmmMachine)
    (hboot : Steps PmmMachine.Step (PmmMachine.boot info) boots p)
    (mem : UInt64 → Fin 512 → UInt64) (cr3 : UInt64) (kernelMaps spaceMaps : List Mapping) :
    Isolated (kernelState ⟨mem, 0, cr3, p.pmm⟩ kernelMaps) spaceMaps
        (spaceLife (kernelState ⟨mem, 0, cr3, p.pmm⟩ kernelMaps) spaceMaps) ↔
      findFreePages (kernelState ⟨mem, 0, cr3, p.pmm⟩ kernelMaps).pages 1 = none := by
  have hp : p.Inv := PmmMachine.inv_of_steps hboot
  have hbooted := booted_kernelState (s := ⟨mem, 0, cr3, p.pmm⟩) hp.wf kernelMaps
  generalize kernelState ⟨mem, 0, cr3, p.pmm⟩ kernelMaps = k at hbooted ⊢
  constructor
  · intro hisolated
    by_contra hfree
    rcases hbooted with hnone | ⟨hk, ⟨t, hready⟩, hc⟩
    · exact hfree hnone
    · exact hready.not_isolated hk hc hfree spaceMaps hisolated
  · intro hnone
    rw [spaceLife_of_none hnone]
    exact ⟨fun _ => rfl, fun _ => rfl, fun _ _ _ _ h => h, fun _ _ h => h, fun _ _ h => h⟩

/-! ## A machine with enough memory -/

/-- At most `n` pages have been taken. -/
structure Uses (n : Nat) (p p' : Pmm) : Prop where
  wf : p'.WellFormed
  left : (clearPages p).card ≤ (clearPages p').card + n

lemma Uses.trans {m n : Nat} {p q r : Pmm} (h₁ : Uses m p q) (h₂ : Uses n q r) : Uses (m + n) p r :=
  ⟨h₂.wf, by have := h₁.left; have := h₂.left; omega⟩

lemma Uses.none {p : Pmm} (hp : p.WellFormed) (n : Nat) : Uses n p p := ⟨hp, Nat.le_add_right _ _⟩

lemma uses_alloc {p : Pmm} (hp : p.WellFormed) : Uses 1 p (pmmAllocPage p).2 := by
  refine ⟨pmmSource.ok hp, ?_⟩
  rcases pmmAllocPage_spec hp with ⟨-, hsame, -⟩ | ⟨start, -, -, -, -, hmarks⟩
  · rw [hsame]
    omega
  · -- the page that is taken is the only one that is no longer clear
    have hsub : clearPages p ⊆ insert start (clearPages (pmmAllocPage p).2) := by
      intro i hi
      obtain ⟨hlt, hclear⟩ := Finset.mem_filter.mp hi
      rw [Finset.mem_insert]
      by_cases his : i = start
      · exact .inl his
      · refine .inr (Finset.mem_filter.mpr ⟨?_, ?_⟩)
        · rw [hmarks.total]
          exact hlt
        · by_contra hset
          rcases (hmarks.test i).mp (by simpa using hset) with hold | heq
          · rw [hclear] at hold
            cases hold
          · exact his heq
    exact (Finset.card_le_card hsub).trans (Finset.card_insert_le _ _)

lemma uses_allocPageTable (hp : s.pages.WellFormed) : Uses 1 s.pages (allocPageTable pmmAllocPage s).2.pages := by
  have hpages : (allocPageTable pmmAllocPage s).2.pages = (pmmAllocPage s.pages).2 := by
    unfold allocPageTable
    dsimp only
    split_ifs <;> rfl
  rw [hpages]
  exact uses_alloc hp

lemma uses_getOrCreateEntry (t : UInt64) (i : Fin 512) (flags : UInt64) (hp : s.pages.WellFormed) :
    Uses 1 s.pages (getOrCreateEntry pmmAllocPage s t i true flags).2.pages := by
  unfold getOrCreateEntry
  dsimp only
  split_ifs
  · exact .none hp 1
  · exact .none hp 1
  · exact uses_allocPageTable hp
  · exact uses_allocPageTable hp

lemma uses_vmmMapIn (root virt phys flags : UInt64) (hp : s.pages.WellFormed) :
    Uses 3 s.pages (vmmMapIn pmmAllocPage s root virt phys flags).2.pages := by
  have hwalk : Uses 3 s.pages (vmmWalk pmmAllocPage s root virt true flags).2.pages := by
    have h₁ := uses_getOrCreateEntry root (pml4Index virt) flags hp
    simp only [vmmWalk]
    split_ifs with hz₁ hz₂ hz₃
    · exact h₁.trans (.none h₁.wf 2)
    all_goals
      have h₂ := h₁.trans (uses_getOrCreateEntry
        (getOrCreateEntry pmmAllocPage s root (pml4Index virt) true flags).1
        (pdptIndex virt) flags h₁.wf)
    · exact h₂.trans (.none h₂.wf 1)
    all_goals exact h₂.trans (uses_getOrCreateEntry _ _ flags h₂.wf)
  unfold vmmMapIn
  split_ifs
  · exact .none hp 3
  · obtain ⟨w, hw⟩ : ∃ w, vmmWalk pmmAllocPage s root virt true flags = w := ⟨_, rfl⟩
    rw [hw] at hwalk ⊢
    rcases w with ⟨_ | ⟨pt, j⟩, s'⟩
    · exact hwalk
    · exact hwalk

lemma uses_identityMap (hp : s.pages.WellFormed) (page n : Nat) :
    Uses (3 * n) s.pages (identityMap pmmAllocPage s page n).pages := by
  induction n generalizing s page with
  | zero => exact .none hp 0
  | succ n ih =>
    have hone := uses_vmmMapIn s.root (UInt64.ofNat (4096 * page)) (UInt64.ofNat (4096 * page))
      vmmFlagsKernel hp
    have hrest := hone.trans (ih hone.wf (page + 1))
    rwa [show 3 + 3 * n = 3 * (n + 1) by omega] at hrest

lemma uses_vmmInit (hp : s.pages.WellFormed) : Uses 12289 s.pages (vmmInit pmmAllocPage s).pages := by
  have halloc := uses_allocPageTable hp
  obtain ⟨r, hr⟩ : ∃ r, allocPageTable pmmAllocPage s = r := ⟨_, rfl⟩
  rw [hr] at halloc
  simp only [vmmInit, hr]
  split_ifs
  · exact halloc.trans (.none halloc.wf 12288)
  · have hmap₁ := uses_identityMap (s := { r.2 with kernelPml4 := r.1 }) halloc.wf 0 1024
    have hmap₂ := hmap₁.trans (uses_identityMap hmap₁.wf 1024 3072)
    generalize identityMap pmmAllocPage (identityMap pmmAllocPage _ 0 1024) 1024 3072 = s₁ at hmap₂ ⊢
    rw [(vmmSwitchAddressSpace_same (s := s₁) s₁.kernelPml4).2.1]
    exact halloc.trans hmap₂

lemma all_set_of_loop_none {b : Bitmap} {n i start : Nat}
    (h : findFreePagesLoop b 1 n i 0 start = none) : ∀ j, i ≤ j → j < i + n → bitmapTest b j = true := by
  induction n generalizing i with
  | zero => exact fun j hlo hhi => by omega
  | succ n ih =>
    intro j hlo hhi
    rw [findFreePagesLoop] at h
    by_cases hset : bitmapTest b i = true
    · rw [if_pos hset] at h
      by_cases hij : j = i
      · rw [hij, hset]
      · exact ih h j (by omega) (by omega)
    · simp [hset] at h

lemma free_of_clear {p : Pmm} (h : 0 < (clearPages p).card) : findFreePages p 1 ≠ none := by
  obtain ⟨i, hi⟩ := Finset.card_pos.mp h
  obtain ⟨hlt, hclear⟩ := Finset.mem_filter.mp hi
  intro hnone
  have := all_set_of_loop_none hnone i (Nat.zero_le i) (by simpa using hlt)
  rw [hclear] at this
  cases this

/-- 64 MB of usable memory above the first megabyte. -/
def plenty : Option BootInfo := some ⟨bootMagic, [⟨0x100000, 0x4000000, memoryTypeUsable⟩]⟩

lemma clearPages_plenty : 16384 ≤ (clearPages (pmmInit plenty).2).card := by
  have hrange : pmmUsablePages ⟨0x100000, 0x4000000, memoryTypeUsable⟩ = some (256, 16640) := by
    decide
  have htotal : capMemory (0x100000 + 0x4000000) >>> 12 = 16640 := by decide
  have hhighest : (if (0 : UInt64) < 0x100000 + 0x4000000 then (0x100000 + 0x4000000 : UInt64) else 0) =
    0x100000 + 0x4000000 := by decide
  obtain ⟨n, hn⟩ : ∃ n, 16640 - 256 = n := ⟨_, rfl⟩
  have hmarks := pmmUsableLoop_marks n (pmmAllUsed 0) 256 (by simp only [pmmMaxPages]; omega)
  have hinit : (pmmInit plenty).2 = { pmmUsableLoop (pmmAllUsed 0) 256 n with totalPages := 16640 } := by
    obtain ⟨st, hst⟩ : ∃ st, [⟨0x100000, 0x4000000, memoryTypeUsable⟩].foldl pmmInitEntry
      (pmmAllUsed 0, 0) = st := ⟨_, rfl⟩
    rw [plenty, pmmInit_of_map rfl hst, ← hst]
    simp only [List.foldl_cons, List.foldl_nil, pmmInitEntry, hrange, hhighest, htotal, hn]
  have hsub : Finset.Ico 256 16640 ⊆ clearPages (pmmInit plenty).2 := by
    intro i hi
    rw [Finset.mem_Ico] at hi
    rw [hinit, clearPages, Finset.mem_filter, Finset.mem_range, show (16640 : UInt64).toNat = 16640 from rfl]
    refine ⟨hi.2, ?_⟩
    by_contra hset
    exact ((hmarks.test i).mp (by simpa using hset)).2 (by omega)
  have hcard := Finset.card_le_card hsub
  rwa [Nat.card_Ico] at hcard

lemma kernelState_nil (s : Vmm Pmm) : kernelState s [] = vmmInit pmmAllocPage s := rfl

/-- After `vmm_init` on it there are free pages. -/
lemma free_plenty {p : Pmm} (hp : p = (pmmInit plenty).2) (mem : UInt64 → Fin 512 → UInt64) (cr3 : UInt64) :
    findFreePages (kernelState ⟨mem, 0, cr3, p⟩ []).pages 1 ≠ none := by
  have hwf : p.WellFormed := hp ▸ pmmInit_wellFormed plenty
  have hplenty : 16384 ≤ (clearPages p).card := hp ▸ clearPages_plenty
  have huses : (clearPages p).card ≤ _ := (uses_vmmInit (s := ⟨mem, 0, cr3, p⟩) hwf).left
  rw [kernelState_nil]
  exact free_of_clear (by omega)

/-- On it, a space without any mappings that is created and destroyed again is not isolated. -/
theorem not_isolated_plenty : ¬ Isolated (kernelState ⟨fun _ _ => 0, 0, 0, (PmmMachine.boot plenty).pmm⟩ []) []
      (spaceLife (kernelState ⟨fun _ _ => 0, 0, 0, (PmmMachine.boot plenty).pmm⟩ []) []) := by
  rw [isolated_iff plenty [] (PmmMachine.boot plenty) (.nil _)]
  exact free_plenty rfl _ _

/-- The kernel does not get its tables back. -/
theorem not_forall_isolated : ¬ ∀ (info : Option BootInfo) (mem : UInt64 → Fin 512 → UInt64) (cr3 : UInt64)
      (kernelMaps spaceMaps : List Mapping),
      Isolated (kernelState ⟨mem, 0, cr3, (pmmInit info).2⟩ kernelMaps) spaceMaps
        (spaceLife (kernelState ⟨mem, 0, cr3, (pmmInit info).2⟩ kernelMaps) spaceMaps) := by
  intro hclaim
  obtain ⟨p, hp⟩ : ∃ p, p = (pmmInit plenty).2 := ⟨_, rfl⟩
  have hisolated := hclaim plenty (fun _ _ => 0) 0 [] []
  rw [← hp] at hisolated
  have hwf : p.WellFormed := hp ▸ pmmInit_wellFormed plenty
  rcases booted_kernelState (s := ⟨fun _ _ => 0, 0, 0, p⟩) hwf [] with hnone | ⟨hk, ⟨t, hready⟩, hc⟩
  · exact free_plenty hp _ _ hnone
  · exact hready.not_isolated hk hc (free_plenty hp _ _) [] hisolated

end Vmm

end AAAos
