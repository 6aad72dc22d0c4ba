import AAAos.Kernel.Mm.HeapClients
import AAAos.Kernel.Mm.HeapStores

/-!
# The pages under the heap

Two allocators, one above the other: the heap owns the pages that it got from
`pmm_alloc_pages`, and other clients of the page allocator own theirs.  `PageMachine` runs both
sides and records who got what.

**What a heap call does to the pages.**  Only `heap_expand` asks for pages and moves `heap_end`,
and every call runs it at most once, on the state it starts from.  `expandRequest` says with
which size, and `exec_pages` that nothing else happens to the region or to the page allocator.

**When the region stays owned.**  `heap_expand` puts the new block at `heap_end` whatever address
it was given.  So the region is owned as long as the run that the page allocator is about to hand
out starts at `heap_end` (`ExpandsInPlace`), which is what the warning in `heap_expand` is about.
-/

namespace AAAos

namespace Heap

variable {h h' k : Heap} {x y : Nat}

/-- Neither the region nor the page allocator has changed. -/
structure SamePages (h h' : Heap) : Prop where
  heapStart : h'.heapStart = h.heapStart
  heapEnd : h'.heapEnd = h.heapEnd
  pmm : h'.pmm = h.pmm

lemma SamePages.refl (h : Heap) : SamePages h h := ⟨rfl, rfl, rfl⟩

lemma SamePages.trans (h₁ : SamePages h k) (h₂ : SamePages k h') : SamePages h h' :=
  ⟨h₂.heapStart.trans h₁.heapStart, h₂.heapEnd.trans h₁.heapEnd, h₂.pmm.trans h₁.pmm⟩

lemma Touches.samePages {hdrs : List Nat} (ht : Touches hdrs h h') : SamePages h h' :=
  ⟨ht.heapStart, ht.heapEnd, ht.pmm⟩

lemma untouched_samePages (h : Heap) : Untouched (SamePages h) where
  set := fun hp => hp.trans (Touches.set (List.mem_singleton_self _)).samePages
  setFreeList := fun {k _} hp => hp.trans (@Touches.setFreeList k [] _).samePages
  bumpFreeBlocks := fun {k d} hp => hp.trans ((@Touches.refl [] k).bumpFreeBlocks d).samePages
  blockCount := fun hp => ⟨hp.heapStart, hp.heapEnd, hp.pmm⟩

lemma SamePages.takeBlock (hp : SamePages h k) {size r : Nat}
    (hrun : k.takeBlock x size = some (r, h')) : SamePages h h' := by
  have hh := untouched_samePages h
  simp only [Heap.takeBlock] at hrun
  obtain ⟨k₁, hrem, hrun⟩ := Option.bind_eq_some_iff.mp hrun
  obtain ⟨k₂, hsplit, hrun⟩ := Option.bind_eq_some_iff.mp hrun
  cases hrun
  have := hh.blockSetUsed (x := x) (hh.splitBlock (hh.freeListRemove hp hrem) hsplit)
  exact ⟨this.heapStart, this.heapEnd, this.pmm⟩

lemma SamePages.growInPlace (hp : SamePages h k) {next need : Nat}
    (hrun : k.growInPlace x next need = some h') : SamePages h h' := by
  have hh := untouched_samePages h
  simp only [Heap.growInPlace] at hrun
  obtain ⟨k₁, hrem, hrun⟩ := Option.bind_eq_some_iff.mp hrun
  have hk₁ := hh.set (x := x) (f := .size) (v := k.blockGetSize x + k.blockGetSize next)
    (hh.freeListRemove hp hrem)
  refine hh.splitBlock (hh.setIf ?_) hrun
  exact ⟨hk₁.heapStart, hk₁.heapEnd, hk₁.pmm⟩

lemma kfree_samePages (hrun : h.kfree x = some h') : SamePages h h' := by
  simp only [Heap.kfree] at hrun
  split_ifs at hrun
  all_goals first
    | (cases hrun; exact .refl h)
    | skip
  obtain ⟨k₁, hadd, hrun⟩ := Option.bind_eq_some_iff.mp hrun
  have hh := untouched_samePages h
  have hk₁ := hh.freeListAdd (hh.blockSetFree (.refl h)) hadd
  refine hh.coalesceBlocks ?_ hrun
  exact ⟨hk₁.heapStart, hk₁.heapEnd, hk₁.pmm⟩

/-! ## Where pages are asked for -/

/-- `heap_expand(minSize)` went through: it got a run of pages, and the region is longer by that
many bytes. -/
structure Expanded (h : Heap) (minSize : UInt64) (h' : Heap) : Prop where
  fits : ¬ h.heapMax < (h.heapEnd + (expandSize minSize).toNat) % 2 ^ 64
  given : (pmmAllocPages h.pmm (expandSize minSize >>> 12)).1 ≠ 0
  heapStart : h'.heapStart = h.heapStart
  heapEnd : h'.heapEnd = h.heapEnd + (expandSize minSize).toNat
  pmm : h'.pmm = (pmmAllocPages h.pmm (expandSize minSize >>> 12)).2

lemma Expanded.trans {minSize : UInt64} (he : Expanded h minSize k) (hp : SamePages k h') : Expanded h minSize h' :=
  ⟨he.fits, he.given, hp.heapStart.trans he.heapStart, hp.heapEnd.trans he.heapEnd, hp.pmm.trans he.pmm⟩

/-- `heap_expand` changes the region and the pages together, or neither of them. -/
lemma heapExpand_pages (hwf : h.pmm.WellFormed) {minSize : UInt64} {r : Bool}
    (hrun : h.heapExpand minSize = some (r, h')) :
    r = false ∧ SamePages h h' ∨ r = true ∧ Expanded h minSize h' := by
  simp only [Heap.heapExpand] at hrun
  split_ifs at hrun with hfits hgiven
  · cases hrun
    exact .inl ⟨rfl, .refl h⟩
  · cases hrun
    have hsame := (PmmMachine.Inv.safe ⟨hwf, .nil, by simp, by simp, by simp, by simp⟩ :
      PmmMachine.Safe ⟨h.pmm, [], []⟩).zero_fails _ hgiven
    exact .inl ⟨rfl, rfl, rfl, hsame⟩
  · obtain ⟨prev, -, hrun⟩ := Option.bind_eq_some_iff.mp hrun
    obtain ⟨k₁, hadd, hrun⟩ := Option.bind_eq_some_iff.mp hrun
    obtain ⟨k₂, hco, hrun⟩ := Option.bind_eq_some_iff.mp hrun
    cases hrun
    have hpages := (untouched_samePages _).coalesceBlocks
      ((untouched_samePages _).freeListAdd (.refl _) hadd) hco
    refine .inr ⟨rfl, hfits, hgiven, hpages.heapStart.trans ?_, hpages.heapEnd.trans ?_, hpages.pmm.trans ?_⟩
    all_goals simp only [blockSetFree, set_heapStart, set_heapEnd, set_pmm]

/-- The size with which `kmalloc` runs `heap_expand`: when nothing on the free list fits. -/
def mallocRequest (h : Heap) (size : UInt64) : Option UInt64 :=
  if !h.heapInitialized ∨ size = 0 then none
  else if h.findFreeBlock (actualSize size).toNat = some 0 then some (actualSize size)
  else none

/-- `krealloc` goes to its last branch: a block in use, too short, that cannot absorb what
follows it. -/
def ReallocMoves (h : Heap) (ptr : Nat) (newSize : UInt64) : Prop :=
  let block := ptr - headerSize
  let next := h.blockGetNextPhysical block
  newSize ≠ 0 ∧ h.heapInitialized = true ∧ ¬ (h.get block .magic ≠ heapBlockMagic ∨ h.blockIsUsed block = false) ∧
    ¬ newSize.toNat ≤ h.blockGetSize block - headerSize ∧
    ¬ (next ≠ 0 ∧ h.blockIsUsed next = false ∧
      (actualSize newSize).toNat ≤ h.blockGetSize block + h.blockGetSize next)

instance (h : Heap) (ptr : Nat) (newSize : UInt64) : Decidable (h.ReallocMoves ptr newSize) := by
  unfold ReallocMoves
  infer_instance

/-- The size with which a call runs `heap_expand`, if it does. -/
def expandRequest (h : Heap) : HeapCall → Option UInt64
  | .kmalloc size => h.mallocRequest size
  | .kcalloc count size =>
    if count ≠ 0 ∧ (18446744073709551615 : UInt64) / count < size then none
    else h.mallocRequest (count * size)
  | .krealloc ptr newSize =>
    if ptr = 0 ∨ h.ReallocMoves ptr newSize then h.mallocRequest newSize else none
  | .heapExpand minSize => some minSize
  | .kfree _ | .store _ _ | .pages _ => none

lemma kmalloc_pages (hwf : h.pmm.WellFormed) {size : UInt64} {r : Nat} (hrun : h.kmalloc size = some (r, h')) :
    SamePages h h' ∨ ∃ minSize, h.mallocRequest size = some minSize ∧ Expanded h minSize h' := by
  have hreq : h.heapInitialized = true ∧ size ≠ 0 → h.findFreeBlock (actualSize size).toNat = some 0 →
      h.mallocRequest size = some (actualSize size) := by
    rintro ⟨hinit, hzero⟩ hnone
    simp [mallocRequest, hinit, hzero, hnone]
  cases kmalloc_run hrun with
  | refused hno => exact .inl (.refl h)
  | found hne hfind htake => exact .inl ((SamePages.refl h).takeBlock htake)
  | notExpanded hready hnone hexp =>
    rcases heapExpand_pages hwf hexp with ⟨-, hsame⟩ | ⟨hok, -⟩
    · exact .inl hsame
    · cases hok
  | noneFits hready hnone hexp =>
    rcases heapExpand_pages hwf hexp with ⟨hok, -⟩ | ⟨-, hexpanded⟩
    · cases hok
    · exact .inr ⟨_, hreq hready hnone, hexpanded⟩
  | @expanded k _ _ _ hready hnone hexp htake =>
    rcases heapExpand_pages hwf hexp with ⟨hok, -⟩ | ⟨-, hexpanded⟩
    · cases hok
    · exact .inr ⟨_, hreq hready hnone, hexpanded.trans ((SamePages.refl k).takeBlock htake)⟩

lemma krealloc_pages (hwf : h.pmm.WellFormed) {ptr r : Nat} {newSize : UInt64}
    (hrun : h.krealloc ptr newSize = some (r, h')) :
    SamePages h h' ∨ ∃ minSize, h.expandRequest (.krealloc ptr newSize) = some minSize ∧ Expanded h minSize h' := by
  simp only [Heap.krealloc] at hrun
  split_ifs at hrun with hptr hzero hinit hlive hfits hgrow
  · rw [expandRequest, if_pos (.inl hptr)]
    exact kmalloc_pages hwf hrun
  · obtain ⟨k, hfree, hrun⟩ := Option.bind_eq_some_iff.mp hrun
    cases hrun
    exact .inl (kfree_samePages hfree)
  · cases hrun
    exact .inl (.refl h)
  · cases hrun
    exact .inl (.refl h)
  · cases hrun
    exact .inl (.refl h)
  · obtain ⟨k, hgrown, hrun⟩ := Option.bind_eq_some_iff.mp hrun
    cases hrun
    exact .inl ((SamePages.refl h).growInPlace hgrown)
  · have hmoves : h.ReallocMoves ptr newSize := ⟨hzero, by simpa using hinit, hlive, hfits, hgrow⟩
    rw [expandRequest, if_pos (.inr hmoves)]
    obtain ⟨k, hmalloc, hrun⟩ := moveBlock_run hrun
    -- the copy and the final `kfree` are after the only allocation
    have hrest : SamePages k h' := by
      rcases hrun with rfl | ⟨m, hfree⟩
      · exact .refl _
      · have := kfree_samePages hfree
        exact ⟨this.heapStart, this.heapEnd, this.pmm⟩
    rcases kmalloc_pages hwf hmalloc with hsame | ⟨minSize, hreq, hexp⟩
    · exact .inl (hsame.trans hrest)
    · exact .inr ⟨minSize, hreq, hexp.trans hrest⟩

/-- **What a heap call does to the pages**: nothing, or one expansion of the size requested. -/
lemma exec_pages {m m' : HeapMachine} (hwf : m.heap.pmm.WellFormed) {c : HeapCall}
    (hc : ∀ p, c ≠ .pages p) (hrun : m.exec c = some m') :
    SamePages m.heap m'.heap ∨
      ∃ minSize, m.heap.expandRequest c = some minSize ∧ Expanded m.heap minSize m'.heap := by
  cases c with
  | kmalloc size =>
    obtain ⟨⟨r, k⟩, hmalloc, rfl⟩ := Option.map_eq_some_iff.mp hrun
    exact kmalloc_pages hwf hmalloc
  | kcalloc count size =>
    obtain ⟨⟨r, k⟩, hcalloc, rfl⟩ := Option.map_eq_some_iff.mp hrun
    rcases kcalloc_run hcalloc with rfl | ⟨hover, k₁, hmalloc, mem, rfl⟩
    · exact .inl (.refl _)
    rw [expandRequest, if_neg hover]
    have hrest : SamePages k₁ { k₁ with mem := mem } := ⟨rfl, rfl, rfl⟩
    rcases kmalloc_pages hwf hmalloc with hsame | ⟨minSize, hreq, hexp⟩
    · exact .inl (hsame.trans hrest)
    · exact .inr ⟨minSize, hreq, hexp.trans hrest⟩
  | krealloc ptr newSize =>
    obtain ⟨⟨r, k⟩, hrealloc, rfl⟩ := Option.map_eq_some_iff.mp hrun
    exact krealloc_pages hwf hrealloc
  | kfree ptr =>
    obtain ⟨k, hfree, rfl⟩ := Option.map_eq_some_iff.mp hrun
    exact .inl (kfree_samePages hfree)
  | heapExpand minSize =>
    obtain ⟨⟨r, k⟩, hexp, rfl⟩ := Option.map_eq_some_iff.mp hrun
    rcases heapExpand_pages hwf hexp with ⟨-, hsame⟩ | ⟨-, hexpanded⟩
    · exact .inl hsame
    · exact .inr ⟨minSize, rfl, hexpanded⟩
  | store addr v =>
    cases hrun
    exact .inl ⟨rfl, rfl, rfl⟩
  | pages p => exact absurd rfl (hc p)

end Heap

/-! ## Both allocators -/

/-- The page frames that were clear and are now set. -/
def obtained (p p' : Pmm) : Set Nat :=
  {i | bitmapTest p.bitmap i = false ∧ bitmapTest p'.bitmap i = true}

/-- The heap with its clients, the ranges held by other clients of the page allocator, and the
page frames that the heap got from `pmm_alloc_pages`. -/
structure PageMachine where
  heap : HeapMachine
  held : List PageRange
  owned : Set Nat

/-- A call of the heap interface, or of another client to the page allocator. -/
inductive PageCall
  | heap (c : HeapCall)
  | pages (c : PmmCall)

namespace PageMachine

/-- The page allocator as the other clients see it. -/
def others (m : PageMachine) : PmmMachine := ⟨m.heap.heap.pmm, m.held, []⟩

/-- After `heap_init` turned `p`'s page allocator into that of `h`. -/
def boot (p : PmmMachine) (h : Heap) : PageMachine := ⟨⟨h, ∅⟩, p.held, obtained p.pmm h.pmm⟩

/-- One call.  A heap call reaches the page allocator only through `pmm_alloc_pages`, so the bits
it sets are the pages it got; a client of the page allocator frees only what it holds. -/
def Step (m : PageMachine) : PageCall → PageMachine → Prop
  | .heap c, m' => (∀ p, c ≠ .pages p) ∧ ∃ k, HeapMachine.Step m.heap c k ∧
      m' = ⟨k, m.held, m.owned ∪ obtained m.heap.heap.pmm k.heap.pmm⟩
  | .pages c, m' => ∃ p, PmmMachine.Step m.others c p ∧
      m' = ⟨⟨{ m.heap.heap with pmm := p.pmm }, m.heap.live⟩, p.held, m.owned⟩

/-- If the call is about to expand the heap, the run of pages that `find_free_pages` finds starts
at `heap_end`. -/
def ExpandsInPlace (m : PageMachine) : PageCall → Prop
  | .heap c => ∀ minSize start, m.heap.heap.expandRequest c = some minSize →
      ¬ m.heap.heap.heapMax < (m.heap.heap.heapEnd + (Heap.expandSize minSize).toNat) % 2 ^ 64 →
      findFreePages m.heap.heap.pmm (Heap.expandSize minSize >>> 12).toNat = some start →
      4096 * start = m.heap.heap.heapEnd
  | .pages _ => True

/-- Every address of the heap's region is in a page that the heap got, and in no page of another
client; and the blocks are in the region. -/
structure Owned (m : PageMachine) : Prop where
  owned : ∀ a, m.heap.heap.heapStart ≤ a → a < m.heap.heap.heapEnd → a / 4096 ∈ m.owned
  apart : ∀ a, m.heap.heap.heapStart ≤ a → a < m.heap.heap.heapEnd → ∀ r ∈ m.held, ¬ r.Mem (a / 4096)
  blocks : ∃ bs, HeapMachine.Represents m.heap.heap bs ∧ ∀ b ∈ bs,
    m.heap.heap.heapStart ≤ b.addr ∧ b.addr + b.size ≤ m.heap.heap.heapEnd

/-- The inductive form: an owned page has its bit set and is in no other client's hands. -/
structure Inv (m : PageMachine) : Prop where
  heap : m.heap.Inv
  others : m.others.Inv
  set : ∀ i ∈ m.owned, bitmapTest m.heap.heap.pmm.bitmap i = true
  free : ∀ i ∈ m.owned, ∀ r ∈ m.held, ¬ r.Mem i
  covered : ∀ a, m.heap.heap.heapStart ≤ a → a < m.heap.heap.heapEnd → a / 4096 ∈ m.owned

variable {m m' : PageMachine}

lemma Inv.safe (h : m.Inv) : m.Owned := by
  refine ⟨h.covered, fun a hlo hhi => h.free _ (h.covered a hlo hhi), ?_⟩
  obtain ⟨bs, hrep, -⟩ := (HeapMachine.Inv.safe h.heap).represents
  exact ⟨bs, hrep, fun b hb => hrep.tiles.mem_bounds hb⟩

lemma inv_marksUsed {p : PmmMachine} (h : p.Inv) {q : Pmm} {S : Nat → Prop}
    (hm : MarksUsed p.pmm q S) : PmmMachine.Inv ⟨q, p.held, []⟩ where
  wf := h.wf.of_marksUsed hm
  disjoint := h.disjoint
  aligned := h.aligned
  below := fun r hr => hm.total.symm ▸ h.below r hr
  held_set := fun r hr i hi => (hm.test i).mpr (.inl (h.held_set r hr i hi))
  reserved_set := by simp

/-- The pages of an answered request: the run found, which was clear and is now set. -/
lemma allocated_run {p : Pmm} (hwf : p.WellFormed) {count : UInt64} (hgiven : (pmmAllocPages p count).1 ≠ 0) :
    ∃ start, findFreePages p count.toNat = some start ∧ (pmmAllocPages p count).1.toNat = 4096 * start ∧
      (∀ i, start ≤ i → i < start + count.toNat → bitmapTest p.bitmap i = false) ∧
      MarksUsed p (pmmAllocPages p count).2 fun i => start ≤ i ∧ i < start + count.toNat := by
  rcases pmmAllocPages_spec hwf count with ⟨hzero, -⟩ | ⟨start, -, hle, hcount, haddr, hclear, hm⟩
  · exact absurd hzero hgiven
  refine ⟨start, ?_, haddr, hclear, hm⟩
  have htotal := hwf.total_le
  have hne : count ≠ 0 := fun h0 => by simp [h0] at hcount
  rw [pmmAllocPages, if_neg hne] at haddr hgiven
  cases hfind : findFreePages p count.toNat with
  | none => simp [hfind] at hgiven
  | some s =>
    have hs := (findFreePages_spec hcount hfind).1
    rw [hfind, toNat_pfnToAddr (by omega)] at haddr
    rw [Option.some.injEq]
    omega

/-! ## One step -/

/-- An expansion in place gives the heap exactly the pages that its region grows over. -/
lemma Inv.expand (h : m.Inv) {k : HeapMachine} (hk : k.Inv) {minSize : UInt64}
    (hexp : Heap.Expanded m.heap.heap minSize k.heap)
    (hplace : ∀ start, findFreePages m.heap.heap.pmm (Heap.expandSize minSize >>> 12).toNat =
      some start → 4096 * start = m.heap.heap.heapEnd) :
    Inv ⟨k, m.held, m.owned ∪ obtained m.heap.heap.pmm k.heap.pmm⟩ := by
  have hwf : m.heap.heap.pmm.WellFormed := h.others.wf
  obtain ⟨start, hfind, -, hclear, hmarks⟩ := allocated_run hwf hexp.given
  have hend := hplace start hfind
  have hcount := toNat_shiftRight_page (Heap.expandSize minSize)
  rw [← hexp.pmm] at hmarks
  refine ⟨hk, inv_marksUsed h.others hmarks, ?_, ?_, fun a hlo hhi => ?_⟩
  · rintro i (hi | hi)
    · exact (hmarks.test i).mpr (.inl (h.set i hi))
    · exact hi.2
  · rintro i (hi | hi) r hr hmem
    · exact h.free i hi r hr hmem
    · -- what the heap got was clear, so nobody held it
      have hset := h.others.held_set r hr i hmem
      rw [show m.others.pmm = m.heap.heap.pmm from rfl, hi.1] at hset
      cases hset
  · rw [hexp.heapStart] at hlo
    rw [hexp.heapEnd] at hhi
    by_cases hold : a < m.heap.heap.heapEnd
    · exact .inl (h.covered a hlo hold)
    · have hwhole : (Heap.expandSize minSize).toNat % 4096 = 0 := by
        rw [Heap.expandSize, toNat_alignUp_page]
        omega
      have hrun : start ≤ a / 4096 ∧ a / 4096 < start + (Heap.expandSize minSize >>> 12).toNat := by
        omega
      exact .inr ⟨hclear _ hrun.1 hrun.2, (hmarks.test _).mpr (.inr hrun)⟩

lemma Inv.same (h : m.Inv) {k : HeapMachine} (hk : k.Inv) (hsame : Heap.SamePages m.heap.heap k.heap) :
    Inv ⟨k, m.held, m.owned ∪ obtained m.heap.heap.pmm k.heap.pmm⟩ := by
  have hnone : m.owned ∪ obtained m.heap.heap.pmm k.heap.pmm = m.owned := by
    rw [hsame.pmm, Set.union_eq_left]
    intro i hi
    have := hi.1.symm.trans hi.2
    cases this
  rw [hnone]
  refine ⟨hk, ?_, ?_, h.free, ?_⟩
  · have hothers := h.others
    rwa [PageMachine.others, ← hsame.pmm] at hothers
  · exact hsame.pmm.symm ▸ h.set
  · intro a hlo hhi
    exact h.covered a (hsame.heapStart ▸ hlo) (hsame.heapEnd ▸ hhi)

/-- A page that is taken and in no client's hands stays so, whatever the clients call: only clear
pages are handed out, and only pages in hand are given back. -/
lemma unheld_stays {p p' : PmmMachine} (h : p.Inv) {c : PmmCall} (hstep : p.Step c p') {i : Nat}
    (hset : bitmapTest p.pmm.bitmap i = true) (hfree : ∀ r ∈ p.held, ¬ r.Mem i) :
    bitmapTest p'.pmm.bitmap i = true ∧ ∀ r ∈ p'.held, ¬ r.Mem i := by
  cases c with
  | alloc count =>
    obtain rfl : p' = p.alloc count := hstep
    by_cases hgiven : (pmmAllocPages p.pmm count).1 = 0
    · have hsame := h.safe.zero_fails count hgiven
      simp only [PmmMachine.alloc, hgiven, if_true, hsame]
      exact ⟨hset, hfree⟩
    obtain ⟨start, -, haddr, hclear, hmarks⟩ := allocated_run h.wf hgiven
    refine ⟨(hmarks.test i).mpr (.inl hset), fun r hr hmem => ?_⟩
    simp only [PmmMachine.alloc, if_neg hgiven, List.mem_cons] at hr
    rcases hr with rfl | hr
    · simp only [PageRange.Mem, haddr] at hmem
      have := hclear i (by omega) (by omega)
      rw [hset] at this
      cases this
    · exact hfree r hr hmem
  | free addr count =>
    obtain ⟨r, hr, hc, rfl⟩ := hstep
    have hmarks := pmmFreePages_marks h.wf addr count
    refine ⟨(hmarks.test i).mpr ⟨hset, fun hf => hfree r hr ?_⟩, fun s hs hmem => ?_⟩
    · obtain ⟨-, hal, hlo, hhi, -⟩ := hf
      obtain ⟨-, hc1, hc2⟩ := hc
      have := (h.aligned r hr).1
      simp only [PageRange.Mem]
      omega
    · rcases List.mem_append.mp hs with hs | hs
      · exact hfree s (List.mem_of_mem_erase hs) hmem
      · exact hfree r hr ((PmmMachine.mem_without (h.aligned r hr).1 hc hs).2.2.2 i hmem).1
  | reserve addr size =>
    obtain rfl : p' = p.reserve addr size := hstep
    exact ⟨((pmmReserveRange_marks h.wf addr size).test i).mpr (.inl hset), hfree⟩

lemma Inv.pages (h : m.Inv) {c : PmmCall} {p : PmmMachine} (hstep : PmmMachine.Step m.others c p) :
    Inv ⟨⟨{ m.heap.heap with pmm := p.pmm }, m.heap.live⟩, p.held, m.owned⟩ := by
  have hp := h.others.step hstep
  have hothers : PmmMachine.Inv ⟨p.pmm, p.held, []⟩ :=
    ⟨hp.wf, hp.disjoint, hp.aligned, hp.below, hp.held_set, by simp⟩
  have hstay : ∀ i ∈ m.owned, bitmapTest p.pmm.bitmap i = true ∧ ∀ r ∈ p.held, ¬ r.Mem i :=
    fun i hi => unheld_stays h.others hstep (h.set i hi) (h.free i hi)
  obtain ⟨bs, hs, hlive⟩ := h.heap
  exact ⟨⟨bs, hs.withPmm p.pmm, hlive⟩, hothers, fun i hi => (hstay i hi).1,
    fun i hi => (hstay i hi).2, h.covered⟩

lemma Inv.step (h : m.Inv) {c : PageCall} (hplace : m.ExpandsInPlace c) (hstep : m.Step c m') : m'.Inv := by
  cases c with
  | heap c =>
    obtain ⟨hc, k, ⟨hlegal, hrun⟩, rfl⟩ := hstep
    obtain ⟨k', hrun', hk⟩ := h.heap.exec hlegal
    obtain rfl : k = k' := by simpa [hrun] using hrun'
    rcases Heap.exec_pages h.others.wf hc hrun with hsame | ⟨minSize, hreq, hexp⟩
    · exact h.same hk hsame
    · exact h.expand hk hexp fun start hfind => hplace minSize start hreq hexp.fits hfind
  | pages c =>
    obtain ⟨p, hp, rfl⟩ := hstep
    exact h.pages hp

/-! ## Every run -/

/-- Where `heap_init` puts the heap: at the address it was given. -/
lemma heapInit_pages {p : Pmm} {mem : Mem} {start initialSize : UInt64} {h : Heap}
    (hinit : (Heap.uninitialised p mem).heapInit start initialSize = (true, h)) :
    (pmmAllocPages p (Heap.initialPages initialSize >>> 12)).1 ≠ 0 ∧
      h.heapStart = (pmmAllocPages p (Heap.initialPages initialSize >>> 12)).1.toNat ∧
      h.heapEnd = h.heapStart + (Heap.initialPages initialSize).toNat ∧
      h.pmm = (pmmAllocPages p (Heap.initialPages initialSize >>> 12)).2 := by
  obtain ⟨r, hr⟩ : ∃ r, pmmAllocPages p (Heap.initialPages initialSize >>> 12) = r := ⟨_, rfl⟩
  simp only [Heap.heapInit, Heap.uninitialised, hr, Bool.false_eq_true, if_false] at hinit
  rw [hr]
  by_cases hgiven : r.1 = 0
  · rw [if_pos hgiven] at hinit
    simp at hinit
  · rw [if_neg hgiven] at hinit
    obtain ⟨-, rfl⟩ := Prod.mk.inj hinit
    refine ⟨hgiven, ?_, ?_, ?_⟩
    all_goals simp only [Heap.blockSetFree, Heap.set_heapStart, Heap.set_heapEnd, Heap.set_pmm]

/-- `heap_init` lies in the pages that it got. -/
lemma inv_boot {p : PmmMachine} (hp : p.Inv) {mem : Mem} {start initialSize : UInt64} {h : Heap}
    (hinit : (Heap.uninitialised p.pmm mem).heapInit start initialSize = (true, h)) :
    (boot p h).Inv := by
  obtain ⟨bs, hs, hused⟩ := Heap.heapInit_sound hp.wf hinit
  obtain ⟨hgiven, hstart, hend, hpmm⟩ := heapInit_pages hinit
  obtain ⟨first, -, haddr, hclear, hmarks⟩ := allocated_run hp.wf hgiven
  rw [← hpmm] at hmarks
  refine ⟨⟨bs, hs, by simp [boot, hused]⟩, inv_marksUsed hp hmarks, fun i hi => hi.2, ?_, ?_⟩
  · intro i hi r hr hmem
    have hset := hp.held_set r hr i hmem
    rw [hi.1] at hset
    cases hset
  · intro a hlo hhi
    have hcount := toNat_shiftRight_page (Heap.initialPages initialSize)
    have hwhole := (Heap.initialPages_spec initialSize).2
    simp only [boot] at hlo hhi
    have hrun : first ≤ a / 4096 ∧ a / 4096 < first + (Heap.initialPages initialSize >>> 12).toNat := by omega
    exact ⟨hclear _ hrun.1 hrun.2, (hmarks.test _).mpr (.inr hrun)⟩

/-- **The heap's memory is its own.**  On a page allocator in any state, once `heap_init` has
succeeded, along every interleaving of heap calls and calls of other clients in which every
expansion is in place. -/
theorem owned_of_expandsInPlace (info : Option BootInfo) (boots : List PmmCall) (p : PmmMachine)
    (hboot : Steps PmmMachine.Step (PmmMachine.boot info) boots p)
    (mem : Mem) (start initialSize : UInt64) (h : Heap)
    (hinit : (Heap.uninitialised p.pmm mem).heapInit start initialSize = (true, h))
    (calls : List PageCall) (m : PageMachine)
    (hrun : Steps (fun m c m' => m.ExpandsInPlace c ∧ m.Step c m') (boot p h) calls m) :
    m.Owned := by
  have hp : p.Inv := PmmMachine.inv_of_steps hboot
  exact (hrun.invariant (fun _ _ _ hi hs => hi.step hs.1 hs.2) (inv_boot hp hinit)).safe

/-- Eighteen usable pages right above the first megabyte. -/
def eighteenPages : Option BootInfo :=
  some ⟨bootMagic, [⟨0x100000, 0x12000, memoryTypeUsable⟩]⟩

/-- One page of heap on it. -/
def smallHeap : Bool × Heap :=
  (Heap.uninitialised (PmmMachine.boot eighteenPages).pmm fun _ => 0).heapInit 0 4096

lemma smallHeap_init : smallHeap = (true, smallHeap.2) := by
  have hflag : smallHeap.1 = true := by
    set_option maxRecDepth 8192 in decide
  calc smallHeap = (smallHeap.1, smallHeap.2) := Prod.mk.eta.symm
    _ = (true, smallHeap.2) := by rw [hflag]

/-- The state after a heap call, for writing down runs. -/
def afterHeap (m : PageMachine) (c : HeapCall) : PageMachine :=
  ⟨m.heap.after c, m.held, m.owned ∪ obtained m.heap.heap.pmm (m.heap.after c).heap.pmm⟩

/-- The state after another client's request for pages. -/
def afterAlloc (m : PageMachine) (count : UInt64) : PageMachine :=
  ⟨⟨{ m.heap.heap with pmm := (m.others.alloc count).pmm }, m.heap.live⟩,
    (m.others.alloc count).held, m.owned⟩

lemma step_afterHeap {c : HeapCall} (hc : ∀ p, c ≠ .pages p) (hlegal : m.heap.Legal c)
    (hrun : (m.heap.exec c).isSome = true) : m.Step (.heap c) (m.afterHeap c) :=
  ⟨hc, _, HeapMachine.step_after hlegal hrun, rfl⟩

lemma kmalloc_5000_legal (m : HeapMachine) : m.Legal (.kmalloc 5000) :=
  show (5000 : UInt64).toNat ≤ heapMaxSize by decide

lemma kmalloc_5000_runs : ((boot (PmmMachine.boot eighteenPages) smallHeap.2).heap.exec (.kmalloc 5000)).isSome ∧
    let m := (boot (PmmMachine.boot eighteenPages) smallHeap.2).afterAlloc 1
    let m' := m.afterHeap (.kmalloc 5000)
    (m.heap.exec (.kmalloc 5000)).isSome ∧ m'.heap.heap.heapStart ≤ 0x101000 ∧
      0x101000 < m'.heap.heap.heapEnd ∧ ⟨0x101000, 1⟩ ∈ m'.held := by
  refine ⟨?_, ?_, ?_, ?_, ?_⟩
  all_goals decide +kernel

/-- With nobody else at work, an allocation of more than a page expands in place. -/
theorem owned_grownHeap : ((boot (PmmMachine.boot eighteenPages) smallHeap.2).afterHeap (.kmalloc 5000)).Owned := by
  refine owned_of_expandsInPlace eighteenPages [] _ (.nil _) (fun _ => 0) 0 4096 smallHeap.2
    smallHeap_init [.heap (.kmalloc 5000)] _
    (.cons ⟨?_, step_afterHeap (by simp) (kmalloc_5000_legal _) kmalloc_5000_runs.1⟩ (.nil _))
  intro minSize start hreq _ hfind
  have hsize : smallHeap.2.expandRequest (.kmalloc 5000) = some 5040 := by
    set_option maxRecDepth 8192 in with_unfolding_all decide
  simp only [boot, hsize, Option.some.injEq] at hreq hfind ⊢
  subst hreq
  have hpage : findFreePages smallHeap.2.pmm (Heap.expandSize 5040 >>> 12).toNat = some 257 := by
    set_option maxRecDepth 8192 in with_unfolding_all decide
  have hend : smallHeap.2.heapEnd = 4096 * 257 := by
    set_option maxRecDepth 8192 in with_unfolding_all decide
  rw [hpage, Option.some.injEq] at hfind
  rw [hend, hfind]

/-- When another client has taken the page after the heap, the same allocation puts that page
under the heap. -/
theorem not_owned_after_alloc : ¬ ∀ (info : Option BootInfo) (boots : List PmmCall) (p : PmmMachine),
      Steps PmmMachine.Step (PmmMachine.boot info) boots p →
      ∀ (mem : Mem) (start initialSize : UInt64) (h : Heap),
      (Heap.uninitialised p.pmm mem).heapInit start initialSize = (true, h) →
      ∀ (calls : List PageCall) (m : PageMachine), Steps Step (boot p h) calls m → m.Owned := by
  intro hclaim
  obtain ⟨hruns, hstart, hend, hheld⟩ := kmalloc_5000_runs.2
  have howned := hclaim eighteenPages [] _ (.nil _) (fun _ => 0) 0 4096 smallHeap.2 smallHeap_init
    [.pages (.alloc 1), .heap (.kmalloc 5000)]
    (((boot (PmmMachine.boot eighteenPages) smallHeap.2).afterAlloc 1).afterHeap (.kmalloc 5000))
    (.cons ⟨_, rfl, rfl⟩ (.cons (step_afterHeap (by simp) (kmalloc_5000_legal _)
      hruns) (.nil _)))
  have hmem : PageRange.Mem ⟨0x101000, 1⟩ (0x101000 / 4096) := by
    simp only [PageRange.Mem]
    omega
  exact howned.apart 0x101000 hstart hend ⟨0x101000, 1⟩ hheld hmem

end PageMachine

end AAAos
