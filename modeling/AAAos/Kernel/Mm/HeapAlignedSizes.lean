import AAAos.Kernel.Mm.HeapSizes

/-!
# How large an aligned allocation is

`kmalloc_aligned` adds the alignment and a pointer to the size, and the sum of the three can wrap as
a whole.  The size is then almost as large as the address space and the block that is allocated is
small, so the call is right only when there is nothing to allocate.

An alignment of 0 is the exception: the answer is null whatever happened, and what counts is the
chain.  It is broken when a block is cut below its own header, and it is not when the first free
block is too small to be cut.
-/

namespace AAAos

namespace Heap

variable {h h' k : Heap} {b c : Block} {bs bs' pre post : List Block} {size alignment : UInt64} {n r x y need : Nat}

/-- The size that `kmalloc_aligned` asks `kmalloc` for. -/
def slackSize (size alignment : UInt64) : UInt64 := size + (alignment + 8)

/-- The first free block would not be split for a request of `size`. -/
def TakesWhole (h : Heap) (size : UInt64) : Prop :=
  h.freeList ≠ 0 ∧ h.blockGetSize h.freeList < (actualSize size).toNat + 64

/-- `Fits` for `kmalloc_aligned`. -/
def FitsAligned (h : Heap) (size alignment : UInt64) : Prop :=
  size = 0 ∨ alignment &&& (alignment - 1) ≠ 0 ∨
    size.toNat + alignment.toNat + 8 ≤ 2 ^ 64 - 48 ∨ slackSize size alignment = 0 ∨
    h.Refuses (slackSize size alignment) ∨
    alignment = 0 ∧ (2 ^ 64 ≤ size.toNat + 8 ∨ h.TakesWhole (slackSize size alignment))

/-! ## Memory from an address on -/

/-- Only memory from `x` on has been written, and the region is the same. -/
structure Beyond (x : Nat) (h h' : Heap) : Prop where
  mem : ∀ a < x, h'.mem a = h.mem a
  heapStart : h'.heapStart = h.heapStart
  heapEnd : h'.heapEnd = h.heapEnd

lemma Beyond.refl : Beyond x h h := ⟨fun _ _ => rfl, rfl, rfl⟩

lemma Beyond.set (hk : Beyond x h k) {f : HeapField} {v : Nat} (hle : x ≤ y + f.offset) :
    Beyond x h (k.set y f v) := by
  refine ⟨fun a ha => ?_, by simpa using hk.heapStart, by simpa using hk.heapEnd⟩
  rw [← hk.mem a ha, Heap.set]
  exact writeLE_outside (.inl (by omega))

lemma Beyond.bumpFreeBlocks (hk : Beyond x h k) {d : UInt64} : Beyond x h (k.bumpFreeBlocks d) := by
  rw [Heap.bumpFreeBlocks]
  exact ⟨hk.mem, hk.heapStart, hk.heapEnd⟩

lemma Beyond.setFreeList (hk : Beyond x h k) : Beyond x h (k.setFreeList y) := by
  rw [Heap.setFreeList]
  exact ⟨hk.mem, hk.heapStart, hk.heapEnd⟩

lemma Beyond.blockSetFree (hk : Beyond x h k) (hle : x ≤ y + 24) : Beyond x h (k.blockSetFree y) :=
  (hk.set (f := .flags) (by simp only [HeapField.offset]; omega)).set hle

lemma Beyond.blockSetUsed (hk : Beyond x h k) (hle : x ≤ y + 24) : Beyond x h (k.blockSetUsed y) :=
  (hk.set (f := .flags) (by simp only [HeapField.offset]; omega)).set hle

lemma Beyond.freeListAdd (hk : Beyond x h k) (hle : x ≤ y + 8)
    (hfirst : k.freeList = 0 ∨ y < k.freeList) (hrun : k.freeListAdd y = some h') : Beyond x h h' := by
  rw [freeListAdd_head rfl (by simpa using hfirst), Option.some.injEq] at hrun
  have hset : Beyond x h (k.blockSetFree y) := hk.blockSetFree (by omega)
  rw [← hrun]
  exact (hset.set hle).setFreeList.bumpFreeBlocks

lemma Beyond.stats (hk : Beyond x h k) (st : HeapStats) : Beyond x h { k with stats := st } :=
  ⟨hk.mem, hk.heapStart, hk.heapEnd⟩

lemma Beyond.trans (h₁ : Beyond x h k) (h₂ : Beyond y k h') (hxy : x ≤ y) : Beyond x h h' :=
  ⟨fun a ha => (h₂.mem a (ha.trans_le hxy)).trans (h₁.mem a ha), h₂.heapStart.trans h₁.heapStart,
    h₂.heapEnd.trans h₁.heapEnd⟩

lemma Beyond.get_size (hk : Beyond x h k) (hle : y + 8 ≤ x) : k.get y .size = h.get y .size := by
  rw [Heap.get, Heap.get]
  refine readLE_congr fun a _ hhi => hk.mem a ?_
  simp only [HeapField.offset, HeapField.width] at hhi
  omega

/-! ## A block that is cut below its header -/

lemma le_blockGetNextPhysical (h : Heap) (y : Nat) : h.blockGetNextPhysical y = 0 ∨ y ≤ h.blockGetNextPhysical y := by
  simp only [Heap.blockGetNextPhysical]
  split_ifs
  · exact .inl rfl
  · exact .inr (Nat.le_add_right _ _)

/-- `split_block` to less than a header: the size that is stored is not seen by the stores after it,
and everything is stored from `x` on. -/
lemma splitBlock_cut (hfirst : k.freeList = 0 ∨ x + need < k.freeList) (hneed : need < 64)
    (hroom : need + 64 ≤ k.blockGetSize x) (hrun : k.splitBlock x need = some h') :
    Beyond x k h' ∧ h'.get x .size = need := by
  have hsplit : ¬ k.blockGetSize x - need < headerSize + 32 := by simp only [headerSize]; omega
  simp only [Heap.splitBlock, if_neg hsplit] at hrun
  obtain ⟨k₁, hadd, hrun⟩ := Option.bind_eq_some_iff.mp hrun
  obtain ⟨k₀, hk₀⟩ : ∃ k₀, (((((k.set (x + need) .size (k.blockGetSize x - need)).set
    (x + need) .prev x).set (x + need) .next 0).set (x + need) .flags 0).blockSetFree
    (x + need)).set x .size need = k₀ := ⟨_, rfl⟩
  rw [hk₀] at hadd
  have hbefore : Beyond x k k₀ := by
    have hnew : Beyond x k (((k.set (x + need) .size (k.blockGetSize x - need)).set (x + need) .prev x).set
        (x + need) .next 0) := ((Beyond.refl.set (by omega)).set (by omega)).set (by omega)
    exact hk₀ ▸ ((hnew.set (by omega)).blockSetFree (by omega)).set (by omega)
  have hsize : k₀.get x .size = need := by
    rw [← hk₀, get_set_self (by simp only [HeapField.width]; omega)]
  have hlist : k₀.freeList = k.freeList := by simp [← hk₀]
  have hafter : Beyond (x + 8) k₀ k₁ := by
    split_ifs at hadd with hnone
    · have hle := (le_blockGetNextPhysical k₀ (x + need)).resolve_left hnone
      have hprev : Beyond (x + 8) k₀ (k₀.set (k₀.blockGetNextPhysical (x + need)) .prev (x + need)) :=
        Beyond.refl.set (by simp only [HeapField.offset]; omega)
      exact hprev.freeListAdd (by omega) (by simpa [hlist] using hfirst) hadd
    · exact Beyond.refl.freeListAdd (by omega) (by rwa [hlist]) hadd
  cases hrun
  exact ⟨hbefore.trans (hafter.stats _) (by omega), ((hafter.stats _).get_size le_rfl).trans hsize⟩

/-- Where the first free block is cut to `need` bytes, that is what its header says in the end, and
nothing before it has changed. -/
lemma takeBlock_cut (hlist : h.freeList = x) (hx : x ≠ 0)
    (hnext : h.get x .next = 0 ∨ x + need < h.get x .next) (hneed : need < 64)
    (hroom : need + 64 ≤ h.blockGetSize x) (hrun : h.takeBlock x need = some (r, h')) :
    Beyond x h h' ∧ h'.get x .size = need := by
  obtain ⟨k, hrem, hrun⟩ := Option.bind_eq_some_iff.mp hrun
  obtain ⟨k', hsplit, hrun⟩ := Option.bind_eq_some_iff.mp hrun
  rw [freeListRemove_head hlist hx, Option.some.injEq] at hrem
  have hk : Beyond x h k := hrem ▸ (Beyond.refl.setFreeList.set (by omega)).bumpFreeBlocks
  have hfree : k.freeList = h.get x .next := by simp [← hrem]
  have hsize : k.blockGetSize x = h.blockGetSize x := by simp [← hrem, blockGetSize]
  obtain ⟨hbefore, hcut⟩ := splitBlock_cut (hfree ▸ hnext) hneed (hsize ▸ hroom) hsplit
  have hused : Beyond (x + 8) k' (k'.blockSetUsed x) := Beyond.refl.blockSetUsed (by omega)
  simp only [Option.some.injEq, Prod.mk.injEq] at hrun
  obtain ⟨-, rfl⟩ := hrun
  exact ⟨(hk.trans hbefore le_rfl).trans (hused.stats _) (by omega),
    ((hused.stats _).get_size le_rfl).trans hcut⟩

/-- A chain whose headers up to `x` say what they said has a block at `x`. -/
lemma exists_block {a e e' p p' : Nat} (ht : Tiles a (pre ++ b :: post) e)
    (hc : h.Chain p (pre ++ b :: post)) (ht' : Tiles a bs' e') (hc' : h'.Chain p' bs')
    (hsize : ∀ c ∈ pre, h'.get c.addr .size = h.get c.addr .size) (hlt : b.addr < e') :
    ∃ c ∈ bs', c.addr = b.addr := by
  induction pre generalizing a p p' bs' with
  | nil =>
    cases bs' with
    | nil =>
      have ha : a = e' := ht'
      have hb : b.addr = a := ht.1
      omega
    | cons c bs' => exact ⟨c, by simp, ht'.1.trans ht.1.symm⟩
  | cons d pre ih =>
    obtain ⟨hd, -, -, hrest⟩ := ht
    cases bs' with
    | nil =>
      have ha : a = e' := ht'
      have hle := (hrest.mem_bounds (b := b) (by simp)).1
      omega
    | cons c bs' =>
      obtain ⟨hc0, -, -, hrest'⟩ := ht'
      have hcd : c.size = d.size := by
        rw [← hc.1.size, ← hc'.1.size, ← hsize d (by simp), hd, hc0]
      obtain ⟨c', hmem, heq⟩ := ih hrest hc.2 (hcd ▸ hrest') hc'.2 fun c hc => hsize c (by simp [hc])
      exact ⟨c', by simp [hmem], heq⟩

/-- **A cut below the header breaks the chain**, whatever is written past the region afterwards. -/
lemma Sound.broken (hs : h.Sound (pre ++ b :: post)) (hb : Beyond b.addr h h')
    (hcut : h'.get b.addr .size < 64) : ¬ h'.Sound bs' := by
  intro hs'
  have hbounds := hs.listed.tiles.mem_bounds (b := b) (by simp)
  have hsize := (hs.listed.tiles.mem_size (b := b) (by simp)).1
  obtain ⟨c, hc, haddr⟩ := exists_block hs.listed.tiles hs.listed.chain
    (hb.heapStart ▸ hs'.listed.tiles) hs'.listed.chain
    (fun c hc => hb.get_size (by
      have := hs.listed.tiles.lt_of_pre hc
      have := (hs.listed.tiles.mem_size (b := c) (by simp [hc])).1
      omega)) (by rw [hb.heapEnd]; omega)
  have hmin := (hs'.listed.tiles.mem_size hc).1
  obtain ⟨xs, ys, rfl⟩ := List.append_of_mem hc
  rw [← haddr, hs'.listed.chain.header.size] at hcut
  omega

/-! ## What the first free block is -/

/-- Every free block fits a request that is no larger than the smallest block, so the first one is
taken. -/
lemma Sound.findFreeBlock_head (hs : h.Sound bs) (hne : h.freeList ≠ 0) (hn : n ≤ 64) :
    ∃ pre b post, bs = pre ++ b :: post ∧ h.freeList = b.addr ∧
      h.findFreeBlock n = some b.addr ∧ h.blockGetSize b.addr = b.size ∧ b.used = false ∧
      (h.get b.addr .next = 0 ∨ b.addr + b.size ≤ h.get b.addr .next) := by
  obtain ⟨l, hl⟩ : ∃ l, freeAddrs bs = l := ⟨_, rfl⟩
  have hseg := hs.listed.list
  have hsorted := hs.listed.sorted
  rw [hl] at hseg hsorted
  cases l with
  | nil => exact absurd hseg hne
  | cons y l =>
    obtain ⟨hhead, hrest⟩ := hseg
    obtain ⟨b, hb, hfree, rfl⟩ := mem_freeAddrs.mp (hl ▸ List.mem_cons_self : y ∈ freeAddrs bs)
    obtain ⟨pre, post, rfl⟩ := List.append_of_mem hb
    have hmin := hs.listed.tiles.mem_size hb
    have hsize := hs.listed.chain.header.blockGetSize hmin.2
    refine ⟨pre, b, post, rfl, hhead, ?_, hsize, hfree, ?_⟩
    · rw [Heap.findFreeBlock, walkFuel, firstFit, if_neg hne, hhead, if_pos (by omega)]
    · cases l with
      | nil => exact .inl hrest
      | cons z l =>
        have hz : h.get b.addr .next = z := hrest.1
        obtain ⟨c, hc, -, rfl⟩ := mem_freeAddrs.mp
          (hl ▸ List.mem_cons_of_mem _ List.mem_cons_self : z ∈ freeAddrs _)
        have hlt := List.rel_of_pairwise_cons hsorted (List.mem_cons_self (a := c.addr) (l := l))
        rw [hz]
        rcases hs.listed.tiles.apart hb hc with rfl | hbc | hcb
        · exact absurd hlt (lt_irrefl _)
        · exact .inr hbc
        · have := (hs.listed.tiles.mem_size hc).1
          omega

/-- Where the blocks in use lie end to end, a free block is the rest of the region. -/
lemma room_of_free {a e e' : Nat} (ht : Tiles a bs e') (hco : Coalesced bs)
    (hused : Tiles a (usedBlocks bs) e) (hc : c ∈ bs) (hfree : c.used = false) : e + c.size = e' := by
  induction bs generalizing a with
  | nil => cases hc
  | cons d bs ih =>
    obtain ⟨hd, hmin, -, hrest⟩ := ht
    by_cases hdused : d.used = true
    · rw [usedBlocks_cons_used hdused] at hused
      have hne : c ≠ d := fun heq => by simp [heq, hdused] at hfree
      exact ih hrest (show Coalesced ([d] ++ bs) from hco).right hused.2.2.2
        ((List.mem_cons.mp hc).resolve_left hne)
    · have hdfree : d.used = false := by simpa using hdused
      rw [usedBlocks_cons_free hdfree] at hused
      cases bs with
      | nil =>
        obtain rfl := List.mem_singleton.mp hc
        have ha : a = e := hused
        have hend : a + c.size = e' := hrest
        omega
      | cons u bs =>
        -- the next block is in use, so the blocks in use would start where the free one does
        have huused : u.used = true := (List.isChain_cons_cons.mp hco).1.resolve_left hdused
        rw [usedBlocks_cons_used huused] at hused
        have hu := hused.1
        have hu' := hrest.1
        omega

lemma splitBlock_whole (hsmall : h.blockGetSize x < n + 64) : h.splitBlock x n = some h := by
  have hrest : h.blockGetSize x - n < headerSize + 32 := by
    simp only [headerSize]
    omega
  simp only [Heap.splitBlock, if_pos hrest]

/-- A request in the band that is neither refused nor given a whole block leaves a header that
holds less than a header's size. -/
lemma Sound.kmalloc_cut (hs : h.Sound bs) (hwf : h.pmm.WellFormed) (hbig : ¬ size.toNat ≤ 2 ^ 64 - 48)
    (hyes : ¬ h.Refuses size) (hcut : ¬ h.TakesWhole size) (hrun : h.kmalloc size = some (r, h')) :
    ∃ g pre b post, g.Sound (pre ++ b :: post) ∧ Beyond b.addr g h' ∧ h'.get b.addr .size < 64 := by
  have hneed := actualSize_band hbig
  simp only [Heap.kmalloc, hs.initialized, Bool.not_true, Bool.false_eq_true, if_false,
    if_neg (toNat_ne_zero_of_big hbig)] at hrun
  by_cases hlist : h.freeList = 0
  · have hnone : h.findFreeBlock (actualSize size).toNat = some 0 := by
      rw [Heap.findFreeBlock, walkFuel, firstFit, if_pos hlist]
    obtain ⟨k, bs', hexp, hs', hused, hstart, hend, b, hb, hfree, hroom⟩ :=
      hs.heapExpand_room hwf fun hno => hyes ⟨hnone, hno⟩
    have hk : k.freeList ≠ 0 := by
      intro h0
      have hseg := hs'.listed.list
      have hmem := mem_freeAddrs.mpr ⟨b, hb, hfree, rfl⟩
      rw [h0] at hseg
      exact (hs'.listed.addr_pos (hs'.listed.listed (hseg.head_mem (List.ne_nil_of_mem hmem)))).ne' rfl
    obtain ⟨pre, c, post, rfl, hhead, hfind, hsize, hcfree, hnext⟩ :=
      hs'.findFreeBlock_head hk (hneed.trans (by omega))
    have hc : c.addr ≠ 0 := (hs'.listed.addr_pos (by simp)).ne'
    have hall : usedBlocks bs = bs := List.filter_eq_self.mpr fun d hd => by
      by_contra hdfree
      have hlt := hs.small_of_findFreeBlock hnone hd (by simpa using hdfree)
      have := (hs.listed.tiles.mem_size hd).1
      omega
    have hcsize : h.heapEnd + c.size = k.heapEnd := room_of_free (hstart ▸ hs'.listed.tiles)
      hs'.coalesced (hused.symm ▸ hall.symm ▸ hs.listed.tiles) (by simp) hcfree
    have hlarge := le_of_max_le_right (@le_expandSize (actualSize size) (by omega))
    simp only [hnone, hexp, hfind, Option.bind_eq_bind, Option.bind_some, ne_eq, not_true, if_false,
      Bool.not_true, Bool.false_eq_true, if_neg hc] at hrun
    obtain ⟨hbeyond, hget⟩ := takeBlock_cut hhead hc (hnext.imp_right fun hle => by omega) (by omega)
      (by omega) hrun
    exact ⟨k, pre, c, post, hs', hbeyond, by omega⟩
  · obtain ⟨pre, c, post, rfl, hhead, hfind, hsize, -, hnext⟩ :=
      hs.findFreeBlock_head hlist (hneed.trans (by omega))
    have hc : c.addr ≠ 0 := (hs.listed.addr_pos (by simp)).ne'
    have hlarge : (actualSize size).toNat + 64 ≤ c.size := by
      by_contra hsmall
      exact hcut ⟨hlist, by rw [hhead, hsize]; omega⟩
    simp only [hfind, Option.bind_eq_bind, Option.bind_some, ne_eq, hc, not_false_eq_true, if_true] at hrun
    obtain ⟨hbeyond, hget⟩ := takeBlock_cut hhead hc (hnext.imp_right fun hle => by omega) (by omega)
      (by omega) hrun
    exact ⟨h, pre, c, post, hs, hbeyond, by omega⟩

lemma Sound.kmalloc_whole (hs : h.Sound bs) (hbig : ¬ size.toNat ≤ 2 ^ 64 - 48)
    (hwhole : h.TakesWhole size) : ∃ r h' bs', h.kmalloc size = some (r, h') ∧ h'.Sound bs' ∧
      Allocated 0 (usedBlocks bs) (usedBlocks bs') r := by
  have hneed := actualSize_band hbig
  obtain ⟨pre, c, post, rfl, hhead, hfind, hsize, hfree, -⟩ :=
    hs.findFreeBlock_head hwhole.1 (hneed.trans (by omega))
  have hc : c.addr ≠ 0 := (hs.listed.addr_pos (by simp)).ne'
  obtain ⟨hmin, hal⟩ := hs.listed.tiles.mem_size (b := c) (by simp)
  have hsmall := hwhole.2
  rw [hhead, hsize] at hsmall
  obtain ⟨h', bs', hrun, hs', hall, -⟩ := hs.takeBlock hfree hmin hal le_rfl
  refine ⟨c.addr + headerSize, h', bs', ?_, hs', hall.mono (Nat.zero_le _)⟩
  have hsame : h.takeBlock c.addr (actualSize size).toNat = h.takeBlock c.addr c.size := by
    obtain ⟨k, hk⟩ : ∃ k, ((h.setFreeList (h.get c.addr .next)).set c.addr .next 0).bumpFreeBlocks (-1) = k :=
      ⟨_, rfl⟩
    have hksize : k.blockGetSize c.addr = c.size := by
      rw [← hsize, ← hk]
      simp [blockGetSize]
    simp only [Heap.takeBlock, freeListRemove_head hhead hc, hk, Option.bind_eq_bind, Option.bind_some]
    rw [splitBlock_whole (by omega), splitBlock_whole (by omega)]
  simp only [Heap.kmalloc, hs.initialized, Bool.not_true, Bool.false_eq_true, if_false,
    if_neg (toNat_ne_zero_of_big hbig), hfind, Option.bind_eq_bind, Option.bind_some, ne_eq, hc,
    not_false_eq_true, if_true, hsame, hrun]

/-! ## `kmalloc_aligned` -/

/-- The address for a payload is not null, and a multiple of the alignment is at least that. -/
lemma le_alignedAddr (htest : alignment &&& (alignment - 1) = 0) (hne : alignment ≠ 0)
    (hr : IsPayload r) : alignedAddr r alignment ≠ 0 ∧ alignment.toNat ≤ alignedAddr r alignment := by
  obtain ⟨k, hk, hpow⟩ := exists_pow_of_test htest hne
  have hle : 2 ^ k ≤ 2 ^ 63 := Nat.pow_le_pow_right (by omega) (by omega)
  obtain ⟨hlo, hhi⟩ := hr
  obtain ⟨hdvd, hge, -⟩ := @alignedAddr_spec alignment r htest hne (by omega)
  exact ⟨by omega, Nat.le_of_dvd (by omega) hdvd⟩

/-- A walk that does not end in `kmalloc` does not end in `kmalloc_aligned`. -/
lemma kmallocAligned_none (hinit : h.heapInitialized = true) (hpos : size ≠ 0)
    (htest : alignment &&& (alignment - 1) = 0) (hrun : h.kmalloc (slackSize size alignment) = none) :
    h.kmallocAligned size alignment = none := by
  rw [slackSize] at hrun
  rw [kmallocAligned, if_neg (by simp [hinit, hpos]), if_neg (by simp [htest])]
  simp only [hrun, Option.bind_eq_bind, Option.bind_none]

lemma Sound.kmallocAligned_refused (hs : h.Sound bs) (hpos : size ≠ 0) (htest : alignment &&& (alignment - 1) = 0)
    (hno : slackSize size alignment = 0 ∨ h.Refuses (slackSize size alignment)) :
    LargeEnough (h.kmallocAligned size alignment) n := by
  obtain ⟨k, hrun, hs'⟩ : ∃ k, h.kmalloc (slackSize size alignment) = some (0, k) ∧ k.Sound bs := by
    rcases hno with hzero | hno
    · exact ⟨h, by simp [Heap.kmalloc, hzero], hs⟩
    · exact hs.kmalloc_refused hno
  rw [kmallocAligned_eq hs.initialized hpos htest hrun, if_pos rfl]
  exact hs'.largeEnough_null

lemma toNat_slackSize (hfit : size.toNat + alignment.toNat + 8 ≤ 2 ^ 64 - 48) :
    (slackSize size alignment).toNat = size.toNat + alignment.toNat + 8 := by
  rw [slackSize, UInt64.toNat_add, UInt64.toNat_add, show (8 : UInt64).toNat = 8 from rfl]
  omega

/-- The address is inside the payload, with the size behind it, and the saved pointer too. -/
lemma Sound.savedSlot_room (hs : h.Sound bs) (hb : b ∈ bs) (htest : alignment &&& (alignment - 1) = 0)
    (hne : alignment ≠ 0) (hroom : size.toNat + alignment.toNat + 8 + headerSize ≤ b.size) :
    b.addr + headerSize ≤ alignedAddr (b.addr + headerSize) alignment ∧
      alignedAddr (b.addr + headerSize) alignment + size.toNat ≤ b.addr + b.size ∧
      Sound { h with
        mem := writeLE h.mem (savedSlot (alignedAddr (b.addr + headerSize) alignment)) 8
          (b.addr + headerSize) } bs := by
  have hend := (hs.listed.tiles.mem_bounds hb).2
  have hlt := hs.listed.end_lt
  simp only [headerSize] at hroom ⊢
  obtain ⟨-, hlo, hhi⟩ := @alignedAddr_spec alignment (b.addr + 32) htest hne (by omega)
  obtain ⟨a, ha⟩ : ∃ a, alignedAddr (b.addr + 32) alignment = a := ⟨_, rfl⟩
  rw [ha] at hlo hhi ⊢
  rw [savedSlot_eq (a := a) (by omega) (by omega)]
  exact ⟨by omega, by omega, hs.writePayload hb fun x hx => writeLE_outside (by omega)⟩

/-- Nothing wraps: the saved pointer and the size asked for are inside the payload. -/
lemma Sound.kmallocAligned_room (hs : h.Sound bs) (hwf : h.pmm.WellFormed) (hpos : size ≠ 0)
    (htest : alignment &&& (alignment - 1) = 0) (hne : alignment ≠ 0)
    (hfit : size.toNat + alignment.toNat + 8 ≤ 2 ^ 64 - 48) :
    LargeEnough (h.kmallocAligned size alignment) size.toNat := by
  have htotal := toNat_slackSize hfit
  obtain ⟨r, k, bs', hrun, hs', -, hout⟩ := @Sound.kmalloc _ _ hs (slackSize size alignment)
    (.inr ⟨htotal ▸ hfit, hwf⟩)
  rw [kmallocAligned_eq hs.initialized hpos htest hrun]
  split_ifs with hr
  · exact hs'.largeEnough_null
  obtain ⟨b, hb, hused, rfl, hroom, -⟩ := (hout.resolve_left fun hnull => hr hnull.1).apart hs'
  obtain ⟨hlo, hend, hs''⟩ := hs'.savedSlot_room hb htest hne (htotal ▸ hroom)
  exact ⟨_, _, bs', rfl, hs'', fun _ => ⟨b, hb, hused, hlo, hend⟩⟩

lemma Sound.not_kmallocAligned (hs : h.Sound bs) (hwf : h.pmm.WellFormed) (hpos : size ≠ 0)
    (htest : alignment &&& (alignment - 1) = 0) (hne : alignment ≠ 0)
    (hbig : ¬ size.toNat + alignment.toNat + 8 ≤ 2 ^ 64 - 48) (hslack : slackSize size alignment ≠ 0)
    (hyes : ¬ h.Refuses (slackSize size alignment)) :
    ¬ LargeEnough (h.kmallocAligned size alignment) size.toNat := by
  rintro ⟨a, h', bs', hrun, hs', hroom⟩
  cases hmalloc : h.kmalloc (slackSize size alignment) with
  | none =>
    rw [kmallocAligned_none hs.initialized hpos htest hmalloc] at hrun
    cases hrun
  | some q =>
    obtain ⟨r, k⟩ := q
    have hr := hs.kmalloc_isPayload hwf hslack hyes hmalloc
    rw [kmallocAligned_eq hs.initialized hpos htest hmalloc, if_neg hr.ne_zero] at hrun
    simp only [Option.some.injEq, Prod.mk.injEq] at hrun
    obtain ⟨rfl, -⟩ := hrun
    obtain ⟨ha, hle⟩ := le_alignedAddr htest hne hr
    obtain ⟨b, hb, -, -, hend⟩ := hroom ha
    have hbounds := (hs'.listed.tiles.mem_bounds hb).2
    have hlt := hs'.listed.end_lt
    omega

/-! ## Alignment 0 -/

/-- The saved pointer goes to the last bytes of the address space, away from every header. -/
lemma Sound.savedSlot_zero (hs : h.Sound bs) : Sound { h with mem := writeLE h.mem (savedSlot 0) 8 r } bs := by
  refine hs.withMem fun c hc a _ hhi => writeLE_outside (.inl ?_)
  have hend := (hs.listed.tiles.mem_bounds hc).2
  have hlt := hs.listed.end_lt
  simp only [savedSlot]
  omega

lemma Sound.kmallocAligned_zero (hs : h.Sound bs) (hpos : size ≠ 0)
    (hrun : h.kmalloc (slackSize size 0) = some (r, k)) (hs' : k.Sound bs') :
    LargeEnough (h.kmallocAligned size 0) n := by
  rw [kmallocAligned_eq hs.initialized hpos (by decide) hrun]
  split_ifs with hr
  · exact hs'.largeEnough_null
  rw [alignedAddr_zero]
  exact hs'.savedSlot_zero.largeEnough_null

lemma Sound.not_kmallocAligned_zero (hs : h.Sound bs) (hwf : h.pmm.WellFormed) (hpos : size ≠ 0)
    (hbig : ¬ (slackSize size 0).toNat ≤ 2 ^ 64 - 48) (hyes : ¬ h.Refuses (slackSize size 0))
    (hcut : ¬ h.TakesWhole (slackSize size 0)) : ¬ LargeEnough (h.kmallocAligned size 0) n := by
  rintro ⟨a, h', bs', hrun, hs', -⟩
  cases hmalloc : h.kmalloc (slackSize size 0) with
  | none =>
    rw [kmallocAligned_none hs.initialized hpos (by decide) hmalloc] at hrun
    cases hrun
  | some q =>
    obtain ⟨r, k⟩ := q
    have hr := (hs.kmalloc_isPayload hwf (toNat_ne_zero_of_big hbig) hyes hmalloc).ne_zero
    obtain ⟨g, pre, b, post, hg, hbeyond, hsize⟩ := hs.kmalloc_cut hwf hbig hyes hcut hmalloc
    have hb := (hg.isPayload (b := b) (by simp)).2
    simp only [headerSize] at hb
    rw [kmallocAligned_eq hs.initialized hpos (by decide) hmalloc, if_neg hr] at hrun
    simp only [Option.some.injEq, Prod.mk.injEq, alignedAddr_zero] at hrun
    obtain ⟨-, rfl⟩ := hrun
    have hsaved : Beyond (b.addr + 8) k { k with mem := writeLE k.mem (savedSlot 0) 8 r } :=
      ⟨fun a ha => writeLE_outside (.inl (by simp only [savedSlot]; omega)), rfl, rfl⟩
    exact hg.broken (hbeyond.trans hsaved (by omega)) ((hsaved.get_size le_rfl).symm ▸ hsize) hs'

/-- **`kmalloc_aligned`**. -/
theorem Sound.kmallocAligned_largeEnough (hs : h.Sound bs) (hwf : h.pmm.WellFormed) (size alignment : UInt64) :
    LargeEnough (h.kmallocAligned size alignment) size.toNat ↔ h.FitsAligned size alignment := by
  by_cases hpos : size = 0
  · refine iff_of_true ?_ (.inl hpos)
    rw [Heap.kmallocAligned, if_pos (.inr hpos)]
    exact hs.largeEnough_null
  by_cases htest : alignment &&& (alignment - 1) = 0
  swap
  · refine iff_of_true ?_ (.inr (.inl htest))
    rw [Heap.kmallocAligned, if_neg (by simp [hs.initialized, hpos]), if_pos htest]
    exact hs.largeEnough_null
  rw [FitsAligned, or_iff_right hpos, or_iff_right (not_not.mpr htest)]
  by_cases hno : slackSize size alignment = 0 ∨ h.Refuses (slackSize size alignment)
  · refine iff_of_true (hs.kmallocAligned_refused hpos htest hno) ?_
    rcases hno with hzero | hno
    · exact .inr (.inl hzero)
    · exact .inr (.inr (.inl hno))
  obtain ⟨hslack, hyes⟩ := not_or.mp hno
  rw [or_iff_right hslack, or_iff_right hyes]
  by_cases hzero : alignment = 0
  · subst hzero
    have hnat : (slackSize size 0).toNat = (size.toNat + 8) % 2 ^ 64 := by
      rw [slackSize, UInt64.toNat_add]
      rfl
    have hlt := size.toNat_lt
    rw [show (0 : UInt64).toNat = 0 from rfl]
    by_cases hfit : (slackSize size 0).toNat ≤ 2 ^ 64 - 48
    · obtain ⟨r, k, bs', hrun, hs', -⟩ := @Sound.kmalloc _ _ hs (slackSize size 0) (.inr ⟨hfit, hwf⟩)
      refine iff_of_true (hs.kmallocAligned_zero hpos hrun hs') ?_
      rw [hnat] at hfit
      by_cases hwrap : 2 ^ 64 ≤ size.toNat + 8
      · exact .inr ⟨rfl, .inl hwrap⟩
      · exact .inl (by omega)
    · have hband : ¬ size.toNat + 0 + 8 ≤ 2 ^ 64 - 48 ∧ ¬ 2 ^ 64 ≤ size.toNat + 8 := by omega
      rw [or_iff_right hband.1, or_iff_right hband.2, and_iff_right rfl]
      refine ⟨fun hlarge => ?_, fun hwhole => ?_⟩
      · by_contra hcut
        exact hs.not_kmallocAligned_zero hwf hpos hfit hyes hcut hlarge
      · obtain ⟨r, k, bs', hrun, hs', -⟩ := hs.kmalloc_whole hfit hwhole
        exact hs.kmallocAligned_zero hpos hrun hs'
  · rw [or_iff_left fun h => hzero h.1]
    refine ⟨fun hlarge => ?_, fun hfit => hs.kmallocAligned_room hwf hpos htest hzero hfit⟩
    by_contra hbig
    exact hs.not_kmallocAligned hwf hpos htest hzero hbig hslack hyes hlarge

end Heap

end AAAos
