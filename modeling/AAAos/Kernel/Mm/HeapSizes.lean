import AAAos.Kernel.Mm.HeapAligned
import AAAos.Kernel.Mm.HeapPages

/-!
# How large an allocation is

The header, the minimal payload, the rounding and the slack of `kmalloc_aligned` are added in words.

**What goes wrong.**  From `2 ^ 64 - 47` bytes on the size that `kmalloc` looks for wraps to at most
32, every block on the free list fits, and the pointer that is returned has nothing like the bytes
asked for behind it; the block is cut off inside its own header.  Nothing but a lack of memory can
stop it: an empty free list on a heap that cannot grow.  `kmalloc_aligned` adds the alignment first, so
a sum that wraps as a whole makes it allocate a small block for a large size.

**What is proved.**  Each of the four calls, in every state and for every size, answers as it should
exactly when its condition `Fits` holds.
-/

namespace AAAos

namespace Heap

variable {h h' k : Heap} {b c : Block} {bs bs' pre post : List Block} {size : UInt64} {n r : Nat}

/-- The call returns with the block chain well formed, and what it answers is null or the address of
`size` usable bytes in the payload of a block in use. -/
def LargeEnough (call : Option (Nat × Heap)) (size : Nat) : Prop :=
  ∃ r h' bs, call = some (r, h') ∧ h'.Sound bs ∧
    (r ≠ 0 → ∃ b ∈ bs, b.used = true ∧ b.addr + headerSize ≤ r ∧ r + size ≤ b.addr + b.size)

/-- `heap_expand` turns the request down: the limit of the heap, or no pages. -/
def ExpandRefuses (h : Heap) (minSize : UInt64) : Prop :=
  h.heapMax < (h.heapEnd + (expandSize minSize).toNat) % 2 ^ 64 ∨
    (pmmAllocPages h.pmm (expandSize minSize >>> 12)).1 = 0

/-- There is no block for the request, and none is to be had. -/
def Refuses (h : Heap) (size : UInt64) : Prop :=
  h.findFreeBlock (actualSize size).toNat = some 0 ∧ h.ExpandRefuses (actualSize size)

/-- The size can be asked for: nothing in it wraps, or there is nothing to cut. -/
def Fits (h : Heap) (size : UInt64) : Prop := size.toNat ≤ 2 ^ 64 - 48 ∨ h.Refuses size

/-! ## What the free list has -/

lemma firstFit_zero {p fuel : Nat} {l : List Nat} (hl : ∀ y ∈ l, y ≠ 0)
    (hseg : Seg (fun a => h.get a .next) p l 0) (hrun : h.firstFit n fuel p = some 0) :
    ∀ y ∈ l, h.blockGetSize y < n := by
  induction l generalizing p fuel with
  | nil => simp
  | cons y l ih =>
    obtain ⟨rfl, hrest⟩ := hseg
    have hp : p ≠ 0 := hl p (by simp)
    cases fuel with
    | zero => cases hrun
    | succ fuel =>
      rw [firstFit, if_neg hp] at hrun
      split_ifs at hrun with hfit
      · exact absurd (Option.some.inj hrun) hp
      · intro z hz
        rcases List.mem_cons.mp hz with rfl | hz
        · exact not_le.mp hfit
        · exact ih (fun w hw => hl w (by simp [hw])) hrest hrun z hz

lemma Sound.small_of_findFreeBlock (hs : h.Sound bs) (hrun : h.findFreeBlock n = some 0) (hb : b ∈ bs)
    (hfree : b.used = false) : b.size < n := by
  have hpos : ∀ y ∈ freeAddrs bs, y ≠ 0 := fun y hy => (hs.listed.addr_pos (hs.listed.listed hy)).ne'
  have hlt := firstFit_zero hpos hs.listed.list hrun b.addr (mem_freeAddrs.mpr ⟨b, hb, hfree, rfl⟩)
  obtain ⟨pre, post, rfl⟩ := List.append_of_mem hb
  rwa [hs.listed.chain.header.blockGetSize (hs.listed.tiles.mem_size hb).2] at hlt

/-- Where no block in use reaches beyond `e`, the last block is free and takes up all the room from
there on: two free blocks are no neighbours. -/
lemma Sound.exists_room (hs : h.Sound bs) {e : Nat} (hstart : h.heapStart ≤ e) (hend : e < h.heapEnd)
    (hbelow : ∀ b ∈ bs, b.used = true → b.addr + b.size ≤ e) :
    ∃ b ∈ bs, b.used = false ∧ h.heapEnd - e ≤ b.size := by
  obtain ⟨xs, c, rfl⟩ := (List.eq_nil_or_concat bs).resolve_left hs.nonempty
  rw [List.concat_eq_append] at *
  have ht := hs.listed.tiles
  obtain ⟨m, hxs, haddr, -, -, hlast⟩ := Tiles.append.mp ht
  have hlast : m + c.size = h.heapEnd := hlast
  have hfree : c.used = false := by
    by_contra hused
    have := hbelow c (by simp) (by simpa using hused)
    omega
  refine ⟨c, by simp, hfree, ?_⟩
  by_contra hshort
  rcases List.eq_nil_or_concat xs with rfl | ⟨ys, d, rfl⟩
  · have hm : h.heapStart = m := hxs
    omega
  rw [List.concat_eq_append] at *
  obtain ⟨m', -, hdaddr, -, -, hd⟩ := Tiles.append.mp hxs
  have hd : m' + d.size = m := hd
  have hdfree : d.used = false := by
    by_contra hused
    have := hbelow d (by simp) (by simpa using hused)
    omega
  have hco := hs.coalesced
  rw [List.append_assoc] at hco
  have hpair : Coalesced (d :: [c]) := (show Coalesced (ys ++ ([d] ++ [c])) from hco).right
  have := (List.isChain_pair.mp hpair)
  simp [hdfree, hfree] at this

/-! ## Expansion -/

lemma le_expandSize (hsize : size.toNat ≤ 2 ^ 62) : max size.toNat 65536 ≤ (expandSize size).toNat := by
  have hnat : (expandSize size).toNat = (max size.toNat 65536 + 4095) / 4096 * 4096 := by
    rw [expandSize, toNat_alignUp_page, UInt64.toNat_add, toNat_ite_lt,
      show (65536 : UInt64).toNat = 65536 from rfl, show ((4096 : UInt64) - 1).toNat = 4095 from rfl]
    omega
  omega

/-- `heap_expand` that turns the request down. -/
lemma Sound.heapExpand_refused (hs : h.Sound bs) (hno : h.ExpandRefuses size) :
    ∃ k, h.heapExpand size = some (false, k) ∧ k.Sound bs := by
  by_cases hmax : h.heapMax < (h.heapEnd + (expandSize size).toNat) % 2 ^ 64
  · exact ⟨h, by simp only [Heap.heapExpand, if_pos hmax], hs⟩
  · refine ⟨_, ?_, hs.withPmm (pmmAllocPages h.pmm (expandSize size >>> 12)).2⟩
    simp only [Heap.heapExpand, if_neg hmax, if_pos (hno.resolve_left hmax)]

/-- `heap_expand` that does not turn it down has a block for it. -/
lemma Sound.heapExpand_room (hs : h.Sound bs) (hwf : h.pmm.WellFormed) (hyes : ¬ h.ExpandRefuses size) :
    ∃ k bs', h.heapExpand size = some (true, k) ∧ k.Sound bs' ∧ usedBlocks bs' = usedBlocks bs ∧
      k.heapStart = h.heapStart ∧ k.heapEnd = h.heapEnd + (expandSize size).toNat ∧
      ∃ b ∈ bs', b.used = false ∧ (expandSize size).toNat ≤ b.size := by
  obtain ⟨ok, k, bs', hrun, hs', hused, -⟩ := hs.heapExpand size (.inr hwf)
  obtain ⟨hok, hexp⟩ : ok = true ∧ Expanded h size k := by
    refine (heapExpand_pages hwf hrun).resolve_left fun hfail => ?_
    rw [hfail.1] at hrun
    simp only [Heap.heapExpand] at hrun
    split_ifs at hrun with hmax hpages
    · exact hyes (.inl hmax)
    · exact hyes (.inr hpages)
    · obtain ⟨_, -, hrun⟩ := Option.bind_eq_some_iff.mp hrun
      obtain ⟨_, -, hrun⟩ := Option.bind_eq_some_iff.mp hrun
      obtain ⟨_, -, hrun⟩ := Option.bind_eq_some_iff.mp hrun
      cases hrun
  have hsmall : size.toNat ≤ 2 ^ 62 := by
    by_contra hbig
    exact hexp.given (pages_refused hwf (not_le.mp hbig))
  have hpos := (expandSize_spec hsmall).1
  have hend := hexp.heapEnd
  have hlt := hs.start_lt
  obtain ⟨b, hb, hfree, hroom⟩ := hs'.exists_room (e := h.heapEnd) (by rw [hexp.heapStart]; exact hlt.le)
    (by omega) fun b hb hbused => by
      have hmem : b ∈ usedBlocks bs := hused ▸ mem_usedBlocks.mpr ⟨hb, hbused⟩
      exact (hs.listed.tiles.mem_bounds (mem_usedBlocks.mp hmem).1).2
  exact ⟨k, bs', hok ▸ hrun, hs', hused, hexp.heapStart, hend, b, hb, hfree, by omega⟩

/-! ## When `kmalloc` answers null -/

/-- A pointer that `kmalloc` can answer. -/
def IsPayload (r : Nat) : Prop := 32 < r ∧ r + 32 ≤ 2 ^ 63

lemma IsPayload.ne_zero (hr : IsPayload r) : r ≠ 0 := by
  have := hr.1
  omega

lemma Sound.isPayload (hs : h.Sound bs) (hb : b ∈ bs) : IsPayload (b.addr + headerSize) := by
  have hpos := hs.listed.addr_pos (List.mem_map_of_mem hb)
  have hend := (hs.listed.tiles.mem_bounds hb).2
  have hsize := (hs.listed.tiles.mem_size hb).1
  have hlt := hs.listed.end_lt
  unfold IsPayload
  simp only [headerSize]
  omega

lemma takeBlock_fst {x : Nat} (hrun : h.takeBlock x n = some (r, h')) : r = x + headerSize := by
  obtain ⟨_, -, hrun⟩ := Option.bind_eq_some_iff.mp hrun
  obtain ⟨_, -, hrun⟩ := Option.bind_eq_some_iff.mp hrun
  simp only [Option.some.injEq, Prod.mk.injEq] at hrun
  exact hrun.1.symm

lemma Sound.kmalloc_refused (hs : h.Sound bs) (hno : h.Refuses size) :
    ∃ k, h.kmalloc size = some (0, k) ∧ k.Sound bs := by
  by_cases hzero : size = 0
  · exact ⟨h, by simp [Heap.kmalloc, hzero], hs⟩
  obtain ⟨k, hexp, hs'⟩ := hs.heapExpand_refused hno.2
  refine ⟨k, ?_, hs'⟩
  simp [Heap.kmalloc, hs.initialized, hzero, hno.1, hexp]

lemma Sound.kmalloc_isPayload (hs : h.Sound bs) (hwf : h.pmm.WellFormed) (hpos : size ≠ 0)
    (hyes : ¬ h.Refuses size) (hrun : h.kmalloc size = some (r, h')) : IsPayload r := by
  simp only [Heap.kmalloc, hs.initialized, Bool.not_true, Bool.false_eq_true, if_false, if_neg hpos] at hrun
  rcases hs.findFreeBlock (actualSize size).toNat with hnone | ⟨pre, b, post, rfl, -, -, hfind⟩
  · obtain ⟨k, bs', hexp, hs', -, -, -, b, hb, hfree, hroom⟩ :=
      hs.heapExpand_room hwf fun hno => hyes ⟨hnone, hno⟩
    have hsmall : (actualSize size).toNat ≤ 2 ^ 62 := by
      by_contra hbig
      exact hyes ⟨hnone, .inr (pages_refused hwf (not_le.mp hbig))⟩
    have hfit := (le_of_max_le_left (le_expandSize hsmall)).trans hroom
    rcases hs'.findFreeBlock (actualSize size).toNat with hnone' | ⟨pre, c, post, rfl, -, -, hfind⟩
    · exact absurd (hs'.small_of_findFreeBlock hnone' hb hfree) (not_lt.mpr hfit)
    · have hc : c.addr ≠ 0 := (hs'.listed.addr_pos (by simp)).ne'
      simp only [hnone, hexp, hfind, Option.bind_eq_bind, Option.bind_some, ne_eq, not_true, if_false,
        Bool.not_true, Bool.false_eq_true, if_neg hc] at hrun
      rw [takeBlock_fst hrun]
      exact hs'.isPayload (by simp)
  · have hb : b.addr ≠ 0 := (hs.listed.addr_pos (by simp)).ne'
    simp only [hfind, Option.bind_eq_bind, Option.bind_some, ne_eq, hb, not_false_eq_true, if_true] at hrun
    rw [takeBlock_fst hrun]
    exact hs.isPayload (by simp)

/-! ## Sizes that fit and sizes that do not -/

lemma Sound.largeEnough_null (hs : h.Sound bs) : LargeEnough (some (0, h)) n :=
  ⟨0, h, bs, rfl, hs, fun h0 => absurd rfl h0⟩

lemma not_largeEnough {call : Option (Nat × Heap)} (hbig : 2 ^ 63 ≤ n)
    (hne : ∀ r h', call = some (r, h') → r ≠ 0) : ¬ LargeEnough call n := by
  rintro ⟨r, h', bs, hrun, hs, hroom⟩
  obtain ⟨b, hb, -, -, hle⟩ := hroom (hne r h' hrun)
  have hend := (hs.listed.tiles.mem_bounds hb).2
  have hlt := hs.listed.end_lt
  omega

lemma Sound.largeEnough_allocated {us : List Block} (hs : h'.Sound bs)
    (hout : r = 0 ∨ Allocated (n + headerSize) us (usedBlocks bs) r) :
    LargeEnough (some (r, h')) n := by
  refine ⟨r, h', bs, rfl, hs, fun hr => ?_⟩
  obtain ⟨b, hb, hused, hrb, hle, -⟩ := (hout.resolve_left hr).apart hs
  exact ⟨b, hb, hused, hrb.ge, by simp only [headerSize] at *; omega⟩

lemma toNat_ne_zero_of_big (hbig : ¬ size.toNat ≤ 2 ^ 64 - 48) : size ≠ 0 := by
  rintro rfl
  exact hbig (by decide)

/-- **`kmalloc`**. -/
theorem Sound.kmalloc_largeEnough (hs : h.Sound bs) (hwf : h.pmm.WellFormed) (size : UInt64) :
    LargeEnough (h.kmalloc size) size.toNat ↔ h.Fits size := by
  by_cases hfit : size.toNat ≤ 2 ^ 64 - 48
  · refine iff_of_true ?_ (.inl hfit)
    obtain ⟨r, h', bs', hrun, hs', -, hout⟩ := hs.kmalloc (.inr ⟨hfit, hwf⟩)
    exact hrun ▸ hs'.largeEnough_allocated (hout.imp_left And.left)
  · refine ⟨fun hlarge => .inr ?_, fun hfits => ?_⟩
    · by_contra hyes
      refine not_largeEnough (by omega) (fun r h' hrun => ?_) hlarge
      exact (hs.kmalloc_isPayload hwf (toNat_ne_zero_of_big hfit) hyes hrun).ne_zero
    · obtain ⟨k, hrun, hs'⟩ := hs.kmalloc_refused (hfits.resolve_left hfit)
      exact hrun ▸ hs'.largeEnough_null

/-- The test of `kcalloc` is the overflow of the product. -/
lemma overflow_iff (count size : UInt64) : (count ≠ 0 ∧ (18446744073709551615 : UInt64) / count < size) ↔
      2 ^ 64 ≤ count.toNat * size.toNat := by
  by_cases hcount : count = 0
  · simp [hcount]
  have hpos : 0 < count.toNat := Nat.pos_of_ne_zero fun h0 => hcount (UInt64.toNat_inj.mp h0)
  rw [UInt64.lt_iff_toNat_lt, UInt64.toNat_div, Nat.div_lt_iff_lt_mul hpos,
    show (18446744073709551615 : UInt64).toNat = 2 ^ 64 - 1 from rfl, Nat.mul_comm size.toNat]
  exact ⟨fun h => by omega, fun h => ⟨hcount, by omega⟩⟩

/-- `Fits` for the product of `kcalloc`, which is null when the product does not fit a word. -/
def FitsProduct (h : Heap) (count size : UInt64) : Prop :=
  2 ^ 64 ≤ count.toNat * size.toNat ∨ h.Fits (count * size)

/-- **`kcalloc`**. -/
theorem Sound.kcalloc_largeEnough (hs : h.Sound bs) (hwf : h.pmm.WellFormed) (count size : UInt64) :
    LargeEnough (h.kcalloc count size) (count.toNat * size.toNat) ↔ h.FitsProduct count size := by
  by_cases hover : 2 ^ 64 ≤ count.toNat * size.toNat
  · refine iff_of_true ?_ (.inl hover)
    rw [Heap.kcalloc, if_pos ((overflow_iff count size).mpr hover)]
    exact hs.largeEnough_null
  have htest := (overflow_iff count size).not.mpr hover
  have htotal : (count * size).toNat = count.toNat * size.toNat := by
    rw [UInt64.toNat_mul, Nat.mod_eq_of_lt (not_le.mp hover)]
  rw [FitsProduct, or_iff_right hover, ← htotal]
  by_cases hfit : (count * size).toNat ≤ 2 ^ 64 - 48
  · refine iff_of_true ?_ (.inl hfit)
    obtain ⟨r, h', bs', hrun, hs', -, hout⟩ := @Sound.kcalloc h bs hs count size (.inr ⟨hfit, hwf⟩)
    exact hrun ▸ hs'.largeEnough_allocated (hout.imp_left And.left)
  · refine ⟨fun hlarge => .inr ?_, fun hfits => ?_⟩
    · by_contra hyes
      refine not_largeEnough (by omega) (fun r h' hrun => ?_) hlarge
      rw [Heap.kcalloc, if_neg htest] at hrun
      obtain ⟨⟨q, k⟩, hmalloc, hrun⟩ := Option.bind_eq_some_iff.mp hrun
      have hq := (hs.kmalloc_isPayload hwf (toNat_ne_zero_of_big hfit) hyes hmalloc).ne_zero
      simp only [if_pos hq, Option.some.injEq, Prod.mk.injEq] at hrun
      exact hrun.1 ▸ hq
    · obtain ⟨k, hrun, hs'⟩ := hs.kmalloc_refused (hfits.resolve_left hfit)
      have hcall : h.kcalloc count size = some (0, k) := by
        rw [Heap.kcalloc, if_neg htest]
        simp [hrun]
      exact hcall ▸ hs'.largeEnough_null

/-! ## Resizing -/

lemma actualSize_band (hbig : ¬ size.toNat ≤ 2 ^ 64 - 48) : (actualSize size).toNat ≤ 32 := by
  have hlt := size.toNat_lt
  have hnat : (actualSize size).toNat = ((32 + size.toNat) % 2 ^ 64 + 15) % 2 ^ 64 / 16 * 16 := by
    rw [actualSize, toNat_alignUp_16, UInt64.toNat_add, UInt64.toNat_add, toNat_ite_lt,
      show (32 : UInt64).toNat = 32 from rfl, show ((16 : UInt64) - 1).toNat = 15 from rfl,
      max_eq_left (by omega)]
  omega

/-- Growing in place answers the pointer it was given, whatever came of the size. -/
lemma Sound.krealloc_ne_zero (hs : h.Sound (pre ++ b :: post)) (hb : b.used = true)
    (hwf : h.pmm.WellFormed) (hbig : ¬ size.toNat ≤ 2 ^ 64 - 48) (hyes : ¬ h.Refuses size)
    (hrun : h.krealloc (b.addr + headerSize) size = some (r, h')) : r ≠ 0 := by
  obtain ⟨hmagic, hmark⟩ := hs.used_header hb
  have hbsize := hs.listed.chain.header.blockGetSize (hs.listed.tiles.mem_size (b := b) (by simp)).2
  have hpos := toNat_ne_zero_of_big hbig
  rw [krealloc_eq hs.initialized hmagic hmark hpos hbsize] at hrun
  have hptr : b.addr + headerSize ≠ 0 := by simp [headerSize]
  split_ifs at hrun
  · simp only [Option.some.injEq, Prod.mk.injEq] at hrun
    exact hrun.1 ▸ hptr
  · obtain ⟨_, -, hrun⟩ := Option.bind_eq_some_iff.mp hrun
    simp only [Option.some.injEq, Prod.mk.injEq] at hrun
    exact hrun.1 ▸ hptr
  · obtain ⟨⟨q, k⟩, hmalloc, hrun⟩ := Option.bind_eq_some_iff.mp hrun
    have hq := (hs.kmalloc_isPayload hwf hpos hyes hmalloc).ne_zero
    simp only [if_neg hq] at hrun
    obtain ⟨_, -, hrun⟩ := Option.bind_eq_some_iff.mp hrun
    simp only [Option.some.injEq, Prod.mk.injEq] at hrun
    exact hrun.1 ▸ hq

lemma Sound.krealloc_refused (hs : h.Sound (pre ++ b :: post)) (hb : b.used = true)
    (hbig : ¬ size.toNat ≤ 2 ^ 64 - 48) (hno : h.Refuses size) :
    ∃ k, h.krealloc (b.addr + headerSize) size = some (0, k) ∧ k.Sound (pre ++ b :: post) := by
  obtain ⟨hmagic, hmark⟩ := hs.used_header hb
  have hbounds := hs.listed.tiles.mem_bounds (b := b) (by simp)
  have hbsize := hs.listed.chain.header.blockGetSize (hs.listed.tiles.mem_size (b := b) (by simp)).2
  have hlt := hs.listed.end_lt
  have hneed := actualSize_band hbig
  obtain ⟨k, hmalloc, hs'⟩ := hs.kmalloc_refused hno
  refine ⟨k, ?_, hs'⟩
  rw [krealloc_eq hs.initialized hmagic hmark (toNat_ne_zero_of_big hbig) hbsize,
    if_neg (by simp only [headerSize]; omega), if_neg ?_]
  · simp [Heap.moveBlock, hmalloc]
  · rintro ⟨hnext, hfree, -⟩
    cases post with
    | nil => exact hnext (Shape.nextPhysical hs.listed)
    | cons c post =>
      have hc : h.blockGetNextPhysical b.addr = c.addr := Shape.nextPhysical hs.listed
      rw [hc, hs.listed.header_next.blockIsUsed] at hfree
      have hsmall := hs.small_of_findFreeBlock hno.1 (b := c) (by simp) hfree
      have := (hs.listed.tiles.mem_size (b := c) (by simp)).1
      omega

/-- **`krealloc`** of a block in use. -/
theorem Sound.krealloc_largeEnough (hs : h.Sound (pre ++ b :: post)) (hb : b.used = true)
    (hwf : h.pmm.WellFormed) (size : UInt64) :
    LargeEnough (h.krealloc (b.addr + headerSize) size) size.toNat ↔ h.Fits size := by
  by_cases hfit : size.toNat ≤ 2 ^ 64 - 48
  · refine iff_of_true ?_ (.inl hfit)
    by_cases hzero : size = 0
    · obtain ⟨h', bs', hfree, hs', -⟩ := hs.kfree hb
      have hcall : h.krealloc (b.addr + headerSize) size = some (0, h') := by
        simp [Heap.krealloc, hzero, headerSize, show h.kfree (b.addr + 32) = some h' from hfree]
      exact hcall ▸ hs'.largeEnough_null
    · obtain ⟨r, h', bs', hrun, hs', -, hout⟩ := hs.krealloc hb hzero (.inr ⟨hfit, hwf⟩)
      exact hrun ▸ hs'.largeEnough_allocated (hout.imp_left And.left)
  · refine ⟨fun hlarge => .inr ?_, fun hfits => ?_⟩
    · by_contra hyes
      exact not_largeEnough (by omega)
        (fun r h' hrun => hs.krealloc_ne_zero hb hwf hfit hyes hrun) hlarge
    · obtain ⟨k, hrun, hs'⟩ := hs.krealloc_refused hb hfit (hfits.resolve_left hfit)
      exact hrun ▸ hs'.largeEnough_null

end Heap

end AAAos
