import AAAos.Kernel.Mm.HeapSizes

/-!
# The heap statistics

**What goes wrong.**  `heap_init` enters the first block with 32 bytes less than its size, and
everything later enters blocks with their whole size.  So `used_size + free_size` is 32 bytes short
of `total_size` from the first state on, which is what `test_heap_stats` asserts first.  The
in-place branch of `krealloc` takes the absorbed block out of `free_size` and enters it nowhere,
so the sum falls further behind each time.

**What is proved.**  `total_size` is exact in every state.  No other call changes what the sum is
short by (`shortfall`), and the in-place branch adds the size of one block.  As a block is smaller
than the region, the sum is not exact in any state that a run of fewer than `2 ^ 30` calls reaches.
-/

namespace AAAos

namespace Heap

variable {h h' k : Heap} {b c : Block} {bs pre post : List Block} {x : Nat}

/-- `heap_stats` says what is in memory, where the blocks are `bs`. -/
structure StatsExact (h : Heap) (bs : List Block) : Prop where
  sum : h.stats.usedSize + h.stats.freeSize = h.stats.totalSize
  total : h.stats.totalSize.toNat = h.heapEnd - h.heapStart
  used : h.stats.usedSize.toNat = ((usedBlocks bs).map Block.size).sum
  blocks : h.stats.blockCount.toNat = bs.length
  freeBlocks : h.stats.freeBlockCount.toNat = (freeAddrs bs).length

/-- What `used_size + free_size` is short of `total_size` by. -/
def shortfall (h : Heap) : UInt64 := h.stats.totalSize - (h.stats.usedSize + h.stats.freeSize)

/-- What `total_size` is more than the region. -/
def excess (h : Heap) : UInt64 :=
  h.stats.totalSize - (UInt64.ofNat h.heapEnd - UInt64.ofNat h.heapStart)

/-! ## What balances -/

/-- The sums are off by as much as before, and the region is the same or still below its limit. -/
structure Balanced (h h' : Heap) : Prop where
  shortfall : h'.shortfall = h.shortfall
  excess : h'.excess = h.excess
  heapStart : h'.heapStart = h.heapStart
  heapMax : h'.heapMax = h.heapMax
  heapEnd : h'.heapEnd = h.heapEnd ∨ h'.heapEnd ≤ h.heapMax

lemma Balanced.refl (h : Heap) : Balanced h h := ⟨rfl, rfl, rfl, rfl, .inl rfl⟩

lemma Balanced.trans (h₁ : Balanced h k) (h₂ : Balanced k h') : Balanced h h' where
  shortfall := h₂.shortfall.trans h₁.shortfall
  excess := h₂.excess.trans h₁.excess
  heapStart := h₂.heapStart.trans h₁.heapStart
  heapMax := h₂.heapMax.trans h₁.heapMax
  heapEnd := by
    have hmax := h₁.heapMax
    rcases h₂.heapEnd with hsame | hle
    · exact hsame ▸ h₁.heapEnd
    · exact .inr (hmax ▸ hle)

lemma untouched_balanced (h : Heap) : Untouched (Balanced h) where
  set := fun {k x f v} hp => by
    have hstats : (k.set x f v).stats = k.stats := by simp only [Heap.set]
    exact hp.trans ⟨by rw [Heap.shortfall, Heap.shortfall, hstats],
      by rw [Heap.excess, Heap.excess, hstats, set_heapEnd, set_heapStart],
      set_heapStart, set_heapMax, .inl set_heapEnd⟩
  setFreeList := fun {k x} hp => hp.trans (by
    simp only [Heap.setFreeList]
    exact ⟨rfl, rfl, rfl, rfl, .inl rfl⟩)
  bumpFreeBlocks := fun {k d} hp => hp.trans (by
    simp only [Heap.bumpFreeBlocks]
    exact ⟨rfl, rfl, rfl, rfl, .inl rfl⟩)
  blockCount := fun hp => hp.trans ⟨rfl, rfl, rfl, rfl, .inl rfl⟩

/-- `kmalloc` enters under used what it takes from free. -/
lemma takeBlock_balanced {size r : Nat} (hrun : h.takeBlock x size = some (r, h')) : Balanced h h' := by
  have hh := untouched_balanced h
  simp only [Heap.takeBlock] at hrun
  obtain ⟨k₁, hrem, hrun⟩ := Option.bind_eq_some_iff.mp hrun
  obtain ⟨k₂, hsplit, hrun⟩ := Option.bind_eq_some_iff.mp hrun
  cases hrun
  refine (hh.blockSetUsed (x := x) (hh.splitBlock (hh.freeListRemove (.refl h) hrem) hsplit)).trans
    ⟨?_, rfl, rfl, rfl, .inl rfl⟩
  simp only [Heap.shortfall]
  grind

/-- `kfree` does the reverse. -/
lemma kfree_balanced (hrun : h.kfree x = some h') : Balanced h h' := by
  have hh := untouched_balanced h
  simp only [Heap.kfree] at hrun
  split_ifs at hrun
  all_goals first
    | (cases hrun; exact .refl h)
    | skip
  obtain ⟨k₁, hadd, hrun⟩ := Option.bind_eq_some_iff.mp hrun
  refine hh.coalesceBlocks ?_ hrun
  refine (hh.freeListAdd (hh.blockSetFree (.refl h)) hadd).trans ⟨?_, rfl, rfl, rfl, .inl rfl⟩
  simp only [Heap.shortfall]
  grind

/-- `heap_expand` enters its block under total and free, and moves `heap_end` by as much. -/
lemma heapExpand_balanced (hend : h.heapEnd < 2 ^ 63) {minSize : UInt64}
    (hmin : minSize.toNat ≤ 2 ^ 62 ∨ h.pmm.WellFormed) {r : Bool}
    (hrun : h.heapExpand minSize = some (r, h')) : Balanced h h' := by
  simp only [Heap.heapExpand] at hrun
  split_ifs at hrun with hmax hgiven
  · cases hrun
    exact .refl h
  · cases hrun
    exact ⟨rfl, rfl, rfl, rfl, .inl rfl⟩
  · have hsmall : minSize.toNat ≤ 2 ^ 62 := by
      by_contra hbig
      rcases hmin with hle | hwf
      · exact hbig hle
      · exact hgiven (pages_refused hwf (not_le.mp hbig))
    have hsize := (expandSize_spec hsmall).2.2
    rw [Nat.mod_eq_of_lt (by omega), not_lt] at hmax
    obtain ⟨prev, -, hrun⟩ := Option.bind_eq_some_iff.mp hrun
    obtain ⟨k₁, hadd, hrun⟩ := Option.bind_eq_some_iff.mp hrun
    obtain ⟨k₂, hco, hrun⟩ := Option.bind_eq_some_iff.mp hrun
    cases hrun
    have hh := untouched_balanced h
    obtain ⟨p, hp⟩ : ∃ p, (pmmAllocPages h.pmm (expandSize minSize >>> 12)).2 = p := ⟨_, rfl⟩
    rw [hp] at hadd
    have hpages : Balanced h { h with pmm := p } := ⟨rfl, rfl, rfl, rfl, .inl rfl⟩
    have hhdr := hh.blockSetFree (x := h.heapEnd) (hh.set (x := h.heapEnd) (f := .prev) (v := prev)
      (hh.set (x := h.heapEnd) (f := .flags) (v := 0) (hh.set (x := h.heapEnd) (f := .next) (v := 0)
      (hh.set (x := h.heapEnd) (f := .size) (v := (expandSize minSize).toNat) hpages))))
    refine hh.coalesceBlocks (hh.freeListAdd ?_ hadd) hco
    refine hhdr.trans ⟨?_, ?_, rfl, rfl, .inr ?_⟩
    · simp only [Heap.shortfall]
      grind
    · simp only [Heap.excess, UInt64.ofNat_add, UInt64.ofNat_toNat]
      grind
    · simpa [blockSetFree] using hmax

lemma Sound.kmalloc_balanced (hs : h.Sound bs) {size : UInt64} (hsize : h.Served size) {r : Nat}
    (hrun : h.kmalloc size = some (r, h')) : Balanced h h' := by
  have hmin : (actualSize size).toNat ≤ 2 ^ 62 ∨ h.pmm.WellFormed := by
    rcases hsize with hmax | ⟨-, hwf⟩
    · exact .inl ((actualSize_spec hmax).2.2.2.trans (by omega))
    · exact .inr hwf
  have hend := hs.listed.end_lt
  cases kmalloc_run hrun with
  | refused hno => exact .refl h
  | found hne hfind htake => exact takeBlock_balanced htake
  | notExpanded hready hnone hexp => exact heapExpand_balanced hend hmin hexp
  | noneFits hready hnone hexp => exact heapExpand_balanced hend hmin hexp
  | expanded hready hnone hexp htake =>
    exact (heapExpand_balanced hend hmin hexp).trans (takeBlock_balanced htake)

/-! ## What does not balance -/

/-- `d` bytes are taken out of `free_size` and entered nowhere. -/
def absorbing (h : Heap) (d : Nat) : Heap :=
  { h with stats := { h.stats with freeSize := h.stats.freeSize - UInt64.ofNat d } }

lemma shortfall_absorbing (d : Nat) : (h.absorbing d).shortfall = h.shortfall + UInt64.ofNat d := by
  simp only [shortfall, absorbing]
  grind

/-- Balanced, but for at most one block whose bytes are entered nowhere. -/
def FallsBehind (h h' : Heap) : Prop :=
  ∃ d ≤ h.heapEnd - h.heapStart, Balanced (h.absorbing d) h'

lemma Balanced.fallsBehind (hb : Balanced h h') : FallsBehind h h' := by
  have hsame : Balanced (h.absorbing 0) h :=
    ⟨by rw [shortfall_absorbing]; exact (UInt64.add_zero _).symm, rfl, rfl, rfl, .inl rfl⟩
  exact ⟨0, Nat.zero_le _, hsame.trans hb⟩

/-- The in-place branch of `krealloc` loses the block it absorbs. -/
lemma Sound.growInPlace_balanced {need : Nat} (hs : h.Sound (pre ++ b :: c :: post))
    (hb : b.used = true) (hc : c.used = false) (hrun : h.growInPlace b.addr c.addr need = some h') :
    Balanced (h.absorbing c.size) h' := by
  have hl : h.Shape (pre ++ b :: c :: post) (freeAddrs pre ++ c.addr :: freeAddrs post) := by
    simpa [Listed, freeAddrs_cons_used hb, freeAddrs_cons_free hc] using hs.listed
  obtain ⟨k, hrem, hk, -⟩ := hl.freeListRemove
  simp only [Heap.growInPlace, hrem, Option.bind_eq_bind, Option.bind_some] at hrun
  obtain ⟨k₁, hk₁⟩ : ∃ k₁, k.set b.addr .size (h.blockGetSize b.addr + h.blockGetSize c.addr) = k₁ :=
    ⟨_, rfl⟩
  -- the header of the absorbed block is still there when its size is read
  have hcsize : k₁.blockGetSize c.addr = c.size := by
    have hapart : b.addr + 32 ≤ c.addr := by
      have hmin := (hk.tiles.mem_size (b := b) (by simp)).1
      have hle := hk.tiles.lt_of_post (c := c) (by simp)
      omega
    have hget : k₁.get c.addr .size = k.get c.addr .size := hk₁ ▸ get_set_apart (.inr hapart)
    rw [blockGetSize, hget]
    exact hk.header_next.blockGetSize (hk.tiles.mem_size (b := c) (by simp)).2
  have hbal : Balanced h k₁ := by
    have hh := untouched_balanced h
    exact hk₁ ▸ hh.set (hh.freeListRemove (.refl h) hrem)
  have hh := untouched_balanced (h.absorbing c.size)
  rw [hk₁, hcsize] at hrun
  refine hh.splitBlock (hh.setIf ?_) hrun
  refine ⟨?_, ?_, hbal.heapStart, hbal.heapMax, hbal.heapEnd⟩
  · have hshort := hbal.shortfall
    simp only [shortfall, absorbing] at hshort ⊢
    grind
  · exact hbal.excess

lemma Sound.moveBlock_balanced (hs : h.Sound bs) {ptr n r : Nat} {newSize : UInt64}
    (hsize : h.Served newSize) (hrun : h.moveBlock ptr n newSize = some (r, h')) :
    Balanced h h' := by
  obtain ⟨k, hmalloc, hrun⟩ := moveBlock_run hrun
  have hk := hs.kmalloc_balanced hsize hmalloc
  rcases hrun with rfl | ⟨m, hfree⟩
  · exact hk
  · have hcopy : Balanced h { k with mem := m } := hk.trans ⟨rfl, rfl, rfl, rfl, .inl rfl⟩
    exact hcopy.trans (kfree_balanced hfree)

lemma Sound.krealloc_fallsBehind {newSize : UInt64} (hs : h.Sound (pre ++ b :: post))
    (hb : b.used = true) (hnz : newSize ≠ 0) (hsize : h.Served newSize) {r : Nat}
    (hrun : h.krealloc (b.addr + headerSize) newSize = some (r, h')) : FallsBehind h h' := by
  obtain ⟨hmagic, hmark⟩ := hs.used_header hb
  have hbsize := hs.listed.chain.header.blockGetSize (hs.listed.tiles.mem_size (b := b) (by simp)).2
  rw [krealloc_eq hs.initialized hmagic hmark hnz hbsize] at hrun
  split_ifs at hrun with hfits hgrow
  · cases hrun
    exact (Balanced.refl h).fallsBehind
  · have hnext := Shape.nextPhysical hs.listed
    cases post with
    | nil => exact absurd hnext hgrow.1
    | cons c post =>
      have hnext : h.blockGetNextPhysical b.addr = c.addr := hnext
      rw [hnext] at hgrow hrun
      rw [hs.listed.header_next.blockIsUsed] at hgrow
      obtain ⟨k, hgrown, hrun⟩ := Option.bind_eq_some_iff.mp hrun
      cases hrun
      have hbounds := hs.listed.tiles.mem_bounds (b := c) (by simp)
      exact ⟨c.size, by omega, hs.growInPlace_balanced hb hgrow.2.1 hgrown⟩
  · exact (hs.moveBlock_balanced hsize hrun).fallsBehind

/-! ## Initialisation -/

lemma heapInit_shortfall {p : Pmm} (hp : p.WellFormed) {mem : Mem} {start initialSize : UInt64}
    (hrun : (uninitialised p mem).heapInit start initialSize = (true, h)) :
    h.shortfall = 32 ∧ h.excess = 0 ∧ h.heapMax ≤ 2 ^ 33 ∧ h.heapEnd ≤ 2 ^ 33 := by
  obtain ⟨s, hs⟩ : ∃ s, initialPages initialSize = s := ⟨_, rfl⟩
  obtain ⟨r, hr⟩ : ∃ r, pmmAllocPages p (s >>> 12) = r := ⟨_, rfl⟩
  have hwhole := (initialPages_spec initialSize).2
  have hspec := pmmAllocPages_spec hp (s >>> 12)
  rw [hr, toNat_shiftRight_page] at hspec
  rw [hs] at hwhole
  simp only [heapInit, uninitialised, hs, hr, Bool.false_eq_true, if_false] at hrun
  rcases hspec with ⟨hfail, -⟩ | ⟨pfn, -, hle, -, haddr, -⟩
  · rw [if_pos hfail] at hrun
    simp at hrun
  have htotal : pfn + s.toNat / 4096 ≤ 1048576 := hle.trans hp.total_le
  split_ifs at hrun
  · simp at hrun
  obtain ⟨-, rfl⟩ := Prod.mk.inj hrun
  refine ⟨?_, ?_, ?_, ?_⟩
  · simp only [shortfall]
    grind
  · simp only [excess, blockSetFree, set_heapEnd, set_heapStart, UInt64.ofNat_add, UInt64.ofNat_toNat]
    grind
  · simp only [blockSetFree, set_heapMax, heapMaxSize]
    omega
  · simp only [blockSetFree, set_heapEnd]
    omega

end Heap

namespace HeapMachine

variable {m m' : HeapMachine}

/-- The statistics are right about what is in memory. -/
def StatsExact (m : HeapMachine) : Prop := ∃ bs, Represents m.heap bs ∧ m.heap.StatsExact bs

/-- One call with any size that is served. -/
def SuitedStep (m : HeapMachine) (c : HeapCall) (m' : HeapMachine) : Prop :=
  m.Suited c ∧ m.exec c = some m'

/-- **What a call does to the sums**: nothing, or it loses at most one block. -/
lemma Inv.fallsBehind (hm : m.Inv) {c : HeapCall} (hstep : m.SuitedStep c m') : m.heap.FallsBehind m'.heap := by
  obtain ⟨bs, hs, hlive⟩ := id hm
  obtain ⟨hc, hrun⟩ := hstep
  cases c with
  | kmalloc size =>
    obtain ⟨⟨r, k⟩, hmalloc, rfl⟩ := Option.map_eq_some_iff.mp hrun
    exact (hs.kmalloc_balanced hc hmalloc).fallsBehind
  | kcalloc count size =>
    obtain ⟨⟨r, k⟩, hcalloc, rfl⟩ := Option.map_eq_some_iff.mp hrun
    rcases Heap.kcalloc_run hcalloc with rfl | ⟨-, k₁, hmalloc, mem, rfl⟩
    · exact (Heap.Balanced.refl _).fallsBehind
    · have hclear : m.heap.Balanced { k₁ with mem := mem } :=
        (hs.kmalloc_balanced hc hmalloc).trans ⟨rfl, rfl, rfl, rfl, .inl rfl⟩
      exact hclear.fallsBehind
  | krealloc ptr newSize =>
    obtain ⟨⟨r, k⟩, hrealloc, rfl⟩ := Option.map_eq_some_iff.mp hrun
    by_cases hnz : newSize = 0
    · rw [hnz, krealloc_zero hs.initialized] at hrealloc
      obtain ⟨k₁, hfree, hrealloc⟩ := Option.map_eq_some_iff.mp hrealloc
      cases hrealloc
      exact (Heap.kfree_balanced hfree).fallsBehind
    rcases hc.1 with rfl | hptr
    · have hmalloc : m.heap.kmalloc newSize = some (r, k) := by
        simpa [Heap.krealloc] using hrealloc
      exact (hs.kmalloc_balanced hc.2 hmalloc).fallsBehind
    · obtain ⟨pre, b, post, rfl, hb, rfl⟩ := exists_split hlive hptr
      exact hs.krealloc_fallsBehind hb hnz hc.2 hrealloc
  | kfree ptr =>
    obtain ⟨k, hfree, rfl⟩ := Option.map_eq_some_iff.mp hrun
    exact (Heap.kfree_balanced hfree).fallsBehind
  | heapExpand minSize =>
    obtain ⟨⟨r, k⟩, hexp, rfl⟩ := Option.map_eq_some_iff.mp hrun
    exact (Heap.heapExpand_balanced hs.listed.end_lt hc hexp).fallsBehind
  | store addr v =>
    cases hrun
    exact Heap.Balanced.fallsBehind ⟨rfl, rfl, rfl, rfl, .inl rfl⟩
  | pages p =>
    cases hrun
    exact Heap.Balanced.fallsBehind ⟨rfl, rfl, rfl, rfl, .inl rfl⟩

/-- After `n` calls the sum is short by the header and by at most `n` blocks. -/
structure Short (n : Nat) (m : HeapMachine) : Prop where
  inv : m.Inv
  shortfall : ∃ d ≤ n * 2 ^ 33, m.heap.shortfall = 32 + UInt64.ofNat d
  excess : m.heap.excess = 0
  heapMax : m.heap.heapMax ≤ 2 ^ 33
  heapEnd : m.heap.heapEnd ≤ 2 ^ 33

lemma Short.step {n : Nat} {c : HeapCall} (h : Short n m) (hstep : m.SuitedStep c m') : Short (n + 1) m' := by
  obtain ⟨d, hd, hbal⟩ := h.inv.fallsBehind hstep
  obtain ⟨e, he, hshort⟩ := h.shortfall
  obtain ⟨k, hrun, hinv⟩ := h.inv.execSuited hstep.1
  rw [hstep.2, Option.some.injEq] at hrun
  have hend := h.heapEnd
  refine ⟨hrun ▸ hinv, ⟨e + d, by omega, ?_⟩, hbal.excess.trans h.excess,
    hbal.heapMax.trans_le h.heapMax, ?_⟩
  · rw [hbal.shortfall, Heap.shortfall_absorbing, hshort, UInt64.ofNat_add, UInt64.add_assoc]
  · exact hbal.heapEnd.elim (fun hsame => hsame.trans_le hend) fun hle => hle.trans h.heapMax

/-- `total_size` is the length of the region. -/
lemma Short.total {n : Nat} (h : Short n m) : m.heap.stats.totalSize.toNat = m.heap.heapEnd - m.heap.heapStart := by
  obtain ⟨bs, hs, -⟩ := h.inv
  have hend := h.heapEnd
  have hlt := hs.start_lt
  have htotal : m.heap.stats.totalSize = UInt64.ofNat (m.heap.heapEnd - m.heap.heapStart) := by
    have hexcess := h.excess
    rw [Heap.excess] at hexcess
    rw [UInt64.ofNat_sub hlt.le]
    grind
  rw [htotal, UInt64.toNat_ofNat', Nat.mod_eq_of_lt (by omega)]

lemma Short.not_statsExact {n : Nat} (h : Short n m) (hn : n < 2 ^ 30) : ¬ m.StatsExact := by
  rintro ⟨bs, -, hexact⟩
  obtain ⟨d, hd, hshort⟩ := h.shortfall
  have hzero : m.heap.shortfall = 0 := by
    rw [Heap.shortfall, hexact.sum]
    exact UInt64.sub_self _
  rw [hshort] at hzero
  have hnat := congrArg UInt64.toNat hzero
  rw [UInt64.toNat_add, UInt64.toNat_ofNat', Nat.mod_eq_of_lt (a := d) (by omega)] at hnat
  simp only [show (32 : UInt64).toNat = 32 from rfl, show (0 : UInt64).toNat = 0 from rfl] at hnat
  omega

lemma short_of_heapInit {info : Option BootInfo} {boots : List PmmCall} {p : PmmMachine}
    (hboot : Steps PmmMachine.Step (PmmMachine.boot info) boots p)
    {mem : Mem} {start initialSize : UInt64} {h : Heap}
    (hinit : (Heap.uninitialised p.pmm mem).heapInit start initialSize = (true, h))
    {calls : List HeapCall} (hrun : Steps SuitedStep ⟨h, ∅⟩ calls m) : Short calls.length m := by
  have hp : p.Inv := PmmMachine.inv_of_steps hboot
  obtain ⟨hshort, hexcess, hmax, hend⟩ := Heap.heapInit_shortfall hp.wf hinit
  have hfirst : Short 0 ⟨h, ∅⟩ :=
    ⟨inv_of_heapInit hboot hinit (.nil _), ⟨0, le_rfl, hshort.trans (UInt64.add_zero _).symm⟩, hexcess, hmax, hend⟩
  have hall := hrun.counted (fun _ _ _ _ _ hi hs => hi.step hs) (Nat.zero_add _).le hfirst
  rwa [Nat.zero_add] at hall

/-- **`total_size` is exact.**  On a page allocator in any state its clients can bring it to, once
`heap_init` has succeeded, in every state. -/
theorem totalSize_of_heapInit (info : Option BootInfo) (boots : List PmmCall) (p : PmmMachine)
    (hboot : Steps PmmMachine.Step (PmmMachine.boot info) boots p)
    (mem : Mem) (start initialSize : UInt64) (h : Heap)
    (hinit : (Heap.uninitialised p.pmm mem).heapInit start initialSize = (true, h))
    (calls : List HeapCall) (m : HeapMachine) (hrun : Steps SuitedStep ⟨h, ∅⟩ calls m) :
    m.heap.stats.totalSize.toNat = m.heap.heapEnd - m.heap.heapStart :=
  (short_of_heapInit hboot hinit hrun).total

/-- **The statistics are never exact.**  On a page allocator in any state its clients can bring it
to, once `heap_init` has succeeded: they are wrong in the first state, and in every state that
fewer than `2 ^ 30` calls lead to. -/
theorem not_statsExact_of_heapInit (info : Option BootInfo) (boots : List PmmCall) (p : PmmMachine)
    (hboot : Steps PmmMachine.Step (PmmMachine.boot info) boots p)
    (mem : Mem) (start initialSize : UInt64) (h : Heap)
    (hinit : (Heap.uninitialised p.pmm mem).heapInit start initialSize = (true, h)) :
    (¬ ∀ calls m, Steps SuitedStep ⟨h, ∅⟩ calls m → m.StatsExact) ∧
      ∀ calls m, Steps SuitedStep ⟨h, ∅⟩ calls m → calls.length < 2 ^ 30 → ¬ m.StatsExact := by
  have hshort : ∀ calls m, Steps SuitedStep ⟨h, ∅⟩ calls m → calls.length < 2 ^ 30 →
      ¬ m.StatsExact := fun calls m hrun hlen =>
    (short_of_heapInit hboot hinit hrun).not_statsExact hlen
  exact ⟨fun hall => hshort [] _ (.nil _) (by simp) (hall [] _ (.nil _)), hshort⟩

lemma suitedRun_twoAllocations : Steps SuitedStep ⟨onePage.2, ∅⟩
    [.kmalloc 100, .kmalloc 8, .kfree 0x100020] twoAllocations :=
  run_twoAllocations.imp fun _ _ _ hs => ⟨hs.1.suited, hs.2⟩

theorem totalSize_twoAllocations : twoAllocations.heap.stats.totalSize.toNat =
    twoAllocations.heap.heapEnd - twoAllocations.heap.heapStart :=
  totalSize_of_heapInit PmmMachine.threePages [] _ (.nil _) (fun _ => 0) 0 4096 onePage.2 onePage_init _ _
    suitedRun_twoAllocations

theorem not_statsExact_twoAllocations : ¬ twoAllocations.StatsExact :=
  (not_statsExact_of_heapInit PmmMachine.threePages [] _ (.nil _) (fun _ => 0) 0 4096 onePage.2
    onePage_init).2 _ _ suitedRun_twoAllocations (by decide)

lemma not_statsExact_of_sum {h : Heap} (hsum : h.stats.usedSize + h.stats.freeSize ≠ h.stats.totalSize) :
    ¬ ∀ calls m, Steps SuitedStep ⟨h, ∅⟩ calls m → m.StatsExact := by
  intro hall
  obtain ⟨bs, -, hexact⟩ := hall [] _ (.nil _)
  exact hsum hexact.sum

/-- After `heap_init` of one page, `used_size` is 0 and `free_size` is 4064. -/
theorem not_statsExact_onePage : ¬ ∀ calls m, Steps SuitedStep ⟨onePage.2, ∅⟩ calls m → m.StatsExact :=
  not_statsExact_of_sum (by set_option maxRecDepth 8192 in decide)

end HeapMachine

end AAAos
