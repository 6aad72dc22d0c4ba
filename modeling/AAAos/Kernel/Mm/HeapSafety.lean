import AAAos.Kernel.Mm.HeapCoalesce
import AAAos.Kernel.Mm.PmmSafety

/-!
# What every heap call keeps

`Heap.Sound h bs` is the invariant of `heap.c`: the blocks `bs` tile the region, their headers are
in memory, the free list holds exactly the free ones, and no two neighbours are free.  Each call
of the interface is one theorem: it returns, keeps `Sound` for some other blocks, says what became
of the blocks in use, and leaves their payloads alone.

The requests must be `Served`: `align_size` wraps near the top of the word, and a request that wraps
to a small size would be cut out of its own header.
-/

namespace AAAos

namespace Heap

variable {h h' k : Heap} {b c : Block} {bs bs' pre post us : List Block} {x : Nat}

/-- The invariant of the heap. -/
structure Sound (h : Heap) (bs : List Block) : Prop where
  listed : h.Listed bs
  coalesced : Coalesced bs
  start_lt : h.heapStart < h.heapEnd
  initialized : h.heapInitialized = true
  max_lt : h.heapMax < 2 ^ 62

lemma Sound.nonempty (hs : h.Sound bs) : bs ≠ [] := by
  rintro rfl
  exact hs.start_lt.ne hs.listed.tiles

/-- The same region, and the same readiness. -/
structure SameRegion (h h' : Heap) : Prop where
  heapStart : h'.heapStart = h.heapStart
  heapEnd : h'.heapEnd = h.heapEnd
  heapMax : h'.heapMax = h.heapMax
  heapInitialized : h'.heapInitialized = h.heapInitialized

lemma SameRegion.trans (h₁ : SameRegion h k) (h₂ : SameRegion k h') : SameRegion h h' :=
  ⟨h₂.heapStart.trans h₁.heapStart, h₂.heapEnd.trans h₁.heapEnd, h₂.heapMax.trans h₁.heapMax,
    h₂.heapInitialized.trans h₁.heapInitialized⟩

lemma Touches.sameRegion {hdrs : List Nat} (ht : Touches hdrs h h') : SameRegion h h' :=
  ⟨ht.heapStart, ht.heapEnd, ht.heapMax, ht.heapInitialized⟩

lemma Sound.of_sameRegion (hs : h.Sound bs) (hr : SameRegion h h') (hl : h'.Listed bs')
    (hco : Coalesced bs') : h'.Sound bs' where
  listed := hl
  coalesced := hco
  start_lt := by rw [hr.heapStart, hr.heapEnd]; exact hs.start_lt
  initialized := hr.heapInitialized.trans hs.initialized
  max_lt := hr.heapMax ▸ hs.max_lt

/-- The payloads of the blocks `us` are the same bytes in both. -/
def KeepsPayloads (us : List Block) (h h' : Heap) : Prop :=
  ∀ b ∈ us, ∀ a, b.addr + 32 ≤ a → a < b.addr + b.size → h'.mem a = h.mem a

lemma KeepsPayloads.refl : KeepsPayloads us h h := fun _ _ _ _ _ => rfl

lemma KeepsPayloads.trans (h₁ : KeepsPayloads us h k) (h₂ : KeepsPayloads us k h') : KeepsPayloads us h h' :=
  fun b hb a hlo hhi => (h₂ b hb a hlo hhi).trans (h₁ b hb a hlo hhi)

/-- Payloads lie between headers, also when a block is now longer than it was. -/
lemma Touches.keepsPayloads' {a e : Nat} (ht : Touches (bs.map Block.addr) h h') (htl : Tiles a bs e)
    (hsub : ∀ u ∈ us, ∃ b ∈ bs, b.addr = u.addr ∧ u.size ≤ b.size) : KeepsPayloads us h h' := by
  intro u hu y hlo hhi
  refine ht.mem y fun x hx => ?_
  obtain ⟨c, hc, rfl⟩ := List.mem_map.mp hx
  obtain ⟨b, hb, haddr, hsize⟩ := hsub u hu
  rcases htl.apart hb hc with rfl | hbc | hcb
  all_goals omega

lemma Touches.keepsPayloads {a e : Nat} (ht : Touches (bs.map Block.addr) h h') (htl : Tiles a bs e)
    (hsub : us ⊆ bs) : KeepsPayloads us h h' :=
  ht.keepsPayloads' htl fun u hu => ⟨u, hsub hu, rfl, le_rfl⟩

lemma mem_usedBlocks : b ∈ usedBlocks bs ↔ b ∈ bs ∧ b.used = true := by
  simp [usedBlocks]

/-! ## Sizes -/

/-- A request of at most `HEAP_MAX_SIZE` needs a block of legal size that holds it. -/
lemma actualSize_spec {size : UInt64} (hsize : size.toNat ≤ heapMaxSize) :
    64 ≤ (actualSize size).toNat ∧ (actualSize size).toNat % 16 = 0 ∧
      size.toNat + 32 ≤ (actualSize size).toNat ∧ (actualSize size).toNat ≤ 2 ^ 25 := by
  have hmax : size.toNat ≤ 16777216 := hsize
  have hnat : (actualSize size).toNat = (32 + max size.toNat 32 + 15) / 16 * 16 := by
    rw [actualSize, toNat_alignUp_16, UInt64.toNat_add, UInt64.toNat_add, toNat_ite_lt,
      show (32 : UInt64).toNat = 32 from rfl, show ((16 : UInt64) - 1).toNat = 15 from rfl]
    omega
  omega

lemma actualSize_room {size : UInt64} (hsize : size.toNat ≤ 2 ^ 64 - 48) :
    64 ≤ (actualSize size).toNat ∧ (actualSize size).toNat % 16 = 0 ∧ size.toNat + 32 ≤ (actualSize size).toNat := by
  have hnat : (actualSize size).toNat = (32 + max size.toNat 32 + 15) / 16 * 16 := by
    rw [actualSize, toNat_alignUp_16, UInt64.toNat_add, UInt64.toNat_add, toNat_ite_lt,
      show (32 : UInt64).toNat = 32 from rfl, show ((16 : UInt64) - 1).toNat = 15 from rfl]
    omega
  omega

/-- A request that is served or refused as it should be: one up to `HEAP_MAX_SIZE` on any page
allocator, and up to the last size in which nothing wraps on one in order. -/
def Served (h : Heap) (size : UInt64) : Prop :=
  size.toNat ≤ heapMaxSize ∨ size.toNat ≤ 2 ^ 64 - 48 ∧ h.pmm.WellFormed

lemma Served.le (hsize : h.Served size) : size.toNat ≤ 2 ^ 64 - 48 := by
  rcases hsize with hmax | ⟨hle, -⟩
  · have hnat : size.toNat ≤ 16777216 := hmax
    omega
  · exact hle

/-- An expansion is at least `HEAP_EXPAND_SIZE`, in whole pages. -/
lemma expandSize_spec {size : UInt64} (hsize : size.toNat ≤ 2 ^ 62) :
    64 ≤ (expandSize size).toNat ∧ (expandSize size).toNat % 16 = 0 ∧ (expandSize size).toNat ≤ 2 ^ 62 + 2 ^ 17 := by
  have hnat : (expandSize size).toNat = (max size.toNat 65536 + 4095) / 4096 * 4096 := by
    rw [expandSize, toNat_alignUp_page, UInt64.toNat_add, toNat_ite_lt,
      show (65536 : UInt64).toNat = 65536 from rfl, show ((4096 : UInt64) - 1).toNat = 4095 from rfl]
    omega
  omega

/-! ## Expansion -/

/-- The header that `heap_expand` writes at the old end. -/
lemma freshHeader_expand {s p : Nat} (hs : s < 2 ^ 63) (hp : p < 2 ^ 63) :
    FreshHeader h (((((h.set x .size s).set x .next 0).set x .flags 0).set x .prev p).blockSetFree x)
      x s p := by
  have hx : x ∈ [x] := by simp
  refine .of_fields ?_ (by simp) (fun y f hy => by simp [get_set_apart hy]) ?_ ?_ (by simp)
  · exact (((Touches.set hx).trans (Touches.set hx)).trans (Touches.set hx)).trans (Touches.set hx)
  all_goals simp [HeapField.width]; omega

lemma Shape.withPmm {fl : List Nat} (hs : h.Shape bs fl) (p : Pmm) : { h with pmm := p }.Shape bs fl :=
  ⟨hs.start_pos, hs.end_lt, hs.tiles, hs.chain.congr fun _ _ _ _ => get_congr rfl,
    hs.list.congr fun _ _ => get_congr rfl, hs.sorted, hs.listed⟩

lemma Sound.withPmm (hs : h.Sound bs) (p : Pmm) : { h with pmm := p }.Sound bs :=
  ⟨Shape.withPmm hs.listed p, hs.coalesced, hs.start_lt, hs.initialized, hs.max_lt⟩

/-- `heap_expand` once the pages are there: `k` has the new header. -/
lemma heapExpand_eq {minSize : UInt64} {s p : Nat} {k₀ : Heap}
    (hs : (expandSize minSize).toNat = s) (hmax : ¬ h.heapMax < (h.heapEnd + s) % 2 ^ 64)
    (hpages : (pmmAllocPages h.pmm (expandSize minSize >>> 12)).1 ≠ 0)
    (hk₀ : { h with pmm := (pmmAllocPages h.pmm (expandSize minSize >>> 12)).2 } = k₀)
    (hlast : (((k₀.set h.heapEnd .size s).set h.heapEnd .next 0).set h.heapEnd .flags 0).lastBlock
      (((k₀.set h.heapEnd .size s).set h.heapEnd .next 0).set h.heapEnd .flags 0).walkFuel
      k₀.heapStart = some p)
    (hk : ((((k₀.set h.heapEnd .size s).set h.heapEnd .next 0).set h.heapEnd .flags 0).set
      h.heapEnd .prev p).blockSetFree h.heapEnd = k) :
    ∃ st, ∀ k' h', { k with heapEnd := k.heapEnd + s, stats := st }.freeListAdd h.heapEnd = some k' →
      k'.coalesceBlocks h.heapEnd = some h' → h.heapExpand minSize = some (true, h') := by
  refine ⟨{ k.stats with
    totalSize := k.stats.totalSize + expandSize minSize
    freeSize := k.stats.freeSize + expandSize minSize
    blockCount := k.stats.blockCount + 1
    expandCount := k.stats.expandCount + 1 }, fun k' h' hadd hco => ?_⟩
  simp only [heapExpand, hs, if_neg hmax, if_neg hpages, hk₀, set_heapStart, hlast,
    Option.bind_eq_bind, Option.bind_some, hk, hadd, hco]

/-- The walk of `heap_expand` runs after the first stores of the new header, which lie past every
block. -/
lemma Sound.lastBlock {s : Nat} (hs : h.Sound bs) :
    (((h.set h.heapEnd .size s).set h.heapEnd .next 0).set h.heapEnd .flags 0).lastBlock
      (((h.set h.heapEnd .size s).set h.heapEnd .next 0).set h.heapEnd .flags 0).walkFuel
      h.heapStart = some (lastAddr 0 bs) := by
  refine lastBlock_eq hs.nonempty (by simpa using hs.listed.tiles) (fun b hb => ?_) ?_
    hs.listed.start_pos
  · have := (hs.listed.tiles.mem_bounds hb).2
    have := (hs.listed.tiles.mem_size hb).1
    obtain ⟨xs, ys, rfl⟩ := List.append_of_mem hb
    simp only [get_set_apart (show b.addr + 32 ≤ h.heapEnd ∨ _ from .inl (by omega))]
    exact hs.listed.chain.header.size
  · have := hs.listed.tiles.bounds
    simp [walkFuel]
    omega

lemma Sound.grow {s : Nat} (hs : h.Sound bs)
    (hk : FreshHeader h k h.heapEnd s (lastAddr 0 bs)) (hmin : 64 ≤ s) (hal : s % 16 = 0)
    (hend : h.heapEnd + s ≤ h.heapMax) (st : HeapStats) :
    ∃ k' h' bs', { k with heapEnd := k.heapEnd + s, stats := st }.freeListAdd h.heapEnd = some k' ∧
      k'.coalesceBlocks h.heapEnd = some h' ∧ h'.Sound bs' ∧
      usedBlocks bs' = usedBlocks bs ∧ KeepsPayloads (usedBlocks bs) h h' := by
  have hmax := hs.max_lt
  have hext := Shape.extend hs.listed hk hmin hal (by omega) st
  have hlt : ∀ y ∈ freeAddrs bs, y < h.heapEnd := fun y hy => by
    obtain ⟨b, hb, -, rfl⟩ := mem_freeAddrs.mp hy
    have := (hs.listed.tiles.mem_bounds hb).2
    have := (hs.listed.tiles.mem_size hb).1
    omega
  rw [← List.append_nil (freeAddrs bs)] at hext
  obtain ⟨k', hadd, hk', ht⟩ := hext.freeListAdd hlt (by simp)
  have hlisted : k'.Listed (bs ++ [⟨h.heapEnd, s, false⟩]) := by
    simpa [Listed, freeAddrs] using hk'
  obtain ⟨h', bs', hco, hl, hcoal, hused, ht'⟩ :=
    hlisted.coalesceBlocks rfl hs.coalesced List.isChain_nil
  refine ⟨k', h', bs', hadd, hco, ⟨hl, hcoal, ?_, ?_, ?_⟩, by simpa using hused, ?_⟩
  · rw [ht'.heapStart, ht'.heapEnd, ht.heapStart, ht.heapEnd]
    have := hs.start_lt
    simp only [hk.touches.heapStart, hk.touches.heapEnd]
    omega
  · rw [ht'.heapInitialized, ht.heapInitialized]
    exact hk.touches.heapInitialized.trans hs.initialized
  · rw [ht'.heapMax, ht.heapMax]
    exact hk.touches.heapMax ▸ hmax
  · have hsub : usedBlocks bs ⊆ bs ++ [⟨h.heapEnd, s, false⟩] := fun b hb => by
      simp [(mem_usedBlocks.mp hb).1]
    have hfirst : KeepsPayloads (usedBlocks bs) h k := fun b hb a _ hhi =>
      hk.touches.mem a fun x hx => by
        have := (hs.listed.tiles.mem_bounds (mem_usedBlocks.mp hb).1).2
        rw [List.mem_singleton.mp hx]
        omega
    exact hfirst.trans ((ht.keepsPayloads hext.tiles hsub).trans
      (ht'.keepsPayloads hlisted.tiles hsub))

/-- No page allocator in order has the pages for a request this large: either their number wraps
to 0, or it is larger than its bitmap. -/
lemma pages_refused {p : Pmm} (hp : p.WellFormed) {minSize : UInt64} (hbig : 2 ^ 62 < minSize.toNat) :
    (pmmAllocPages p (expandSize minSize >>> 12)).1 = 0 := by
  rcases pmmAllocPages_spec hp (expandSize minSize >>> 12) with ⟨hzero, -⟩ |
    ⟨start, -, hle, hcount, -⟩
  · exact hzero
  have htotal : p.totalPages.toNat ≤ 1048576 := hp.total_le
  have hnat : (expandSize minSize).toNat = (minSize.toNat + 4095) % 2 ^ 64 / 4096 * 4096 := by
    rw [expandSize, toNat_alignUp_page, UInt64.toNat_add, toNat_ite_lt,
      show (65536 : UInt64).toNat = 65536 from rfl, show ((4096 : UInt64) - 1).toNat = 4095 from rfl,
      max_eq_left (by omega)]
  have hlt := minSize.toNat_lt
  rw [toNat_shiftRight_page] at hle hcount
  omega

/-- **`heap_expand`** adds one free block at the end, or nothing. -/
theorem Sound.heapExpand (hs : h.Sound bs) (minSize : UInt64) (hmin : minSize.toNat ≤ 2 ^ 62 ∨ h.pmm.WellFormed) :
    ∃ r h' bs', h.heapExpand minSize = some (r, h') ∧ h'.Sound bs' ∧
      usedBlocks bs' = usedBlocks bs ∧ KeepsPayloads (usedBlocks bs) h h' := by
  obtain ⟨s, hsz⟩ : ∃ s, (expandSize minSize).toNat = s := ⟨_, rfl⟩
  obtain ⟨p, hp⟩ : ∃ p, pmmAllocPages h.pmm (expandSize minSize >>> 12) = p := ⟨_, rfl⟩
  by_cases hmax : h.heapMax < (h.heapEnd + s) % 2 ^ 64
  · refine ⟨false, h, bs, ?_, hs, rfl, .refl⟩
    simp only [Heap.heapExpand, hsz, if_pos hmax]
  by_cases hpages : p.1 = 0
  · refine ⟨false, { h with pmm := p.2 }, bs, ?_, hs.withPmm _, rfl, fun _ _ _ _ _ => rfl⟩
    simp only [Heap.heapExpand, hsz, if_neg hmax, hp, if_pos hpages]
  · have hsmall : minSize.toNat ≤ 2 ^ 62 := by
      by_contra hbig
      rcases hmin with hle | hwf
      · exact hbig hle
      · exact hpages (hp ▸ pages_refused hwf (not_le.mp hbig))
    obtain ⟨h64, h16, hle⟩ := expandSize_spec hsmall
    rw [hsz] at h64 h16 hle
    have hs₀ := hs.withPmm p.2
    have hlt := hs.listed.end_lt
    have hlast := hs₀.listed.addr_lt (lastAddr_mem (p := 0) hs.nonempty)
    obtain ⟨st, hrun⟩ := heapExpand_eq hsz hmax (hp ▸ hpages) rfl (hp ▸ hs₀.lastBlock) rfl
    rw [hp] at hrun
    obtain ⟨k', h', bs', hadd, hco, hs', hused, hkeep⟩ :=
      hs₀.grow (freshHeader_expand (by omega) hlast) h64 h16 (by dsimp only; omega) st
    exact ⟨true, h', bs', hrun k' h' hadd hco, hs', hused, hkeep⟩

/-! ## Allocation -/

lemma firstFit_spec (size : Nat) {p fuel : Nat} {l : List Nat} (hl : ∀ y ∈ l, y ≠ 0)
    (hseg : Seg (fun a => h.get a .next) p l 0) (hfuel : l.length < fuel) :
    ∃ r, h.firstFit size fuel p = some r ∧ (r = 0 ∨ r ∈ l ∧ size ≤ h.blockGetSize r) := by
  induction l generalizing p fuel with
  | nil =>
    obtain ⟨fuel, rfl⟩ : ∃ n, fuel = n + 1 := ⟨fuel - 1, by omega⟩
    exact ⟨0, by rw [firstFit, if_pos (show p = 0 from hseg)], .inl rfl⟩
  | cons y l ih =>
    obtain ⟨rfl, hrest⟩ := hseg
    obtain ⟨fuel, rfl⟩ : ∃ n, fuel = n + 1 := ⟨fuel - 1, by omega⟩
    rw [firstFit, if_neg (hl p (by simp))]
    split_ifs with hfit
    · exact ⟨p, rfl, .inr ⟨by simp, hfit⟩⟩
    · obtain ⟨r, hr, hspec⟩ := ih (fun z hz => hl z (by simp [hz])) hrest (by simpa using hfuel)
      exact ⟨r, hr, hspec.imp_right fun hmem => ⟨by simp [hmem.1], hmem.2⟩⟩

/-- `find_free_block` answers null or a free block that is large enough. -/
lemma Sound.findFreeBlock (hs : h.Sound bs) (size : Nat) :
    h.findFreeBlock size = some 0 ∨ ∃ pre b post, bs = pre ++ b :: post ∧ b.used = false ∧
      size ≤ b.size ∧ h.findFreeBlock size = some b.addr := by
  have hpos : ∀ y ∈ freeAddrs bs, y ≠ 0 := fun y hy => (hs.listed.addr_pos (hs.listed.listed hy)).ne'
  obtain ⟨r, hr, rfl | ⟨hmem, hfit⟩⟩ :=
    firstFit_spec size hpos hs.listed.list hs.listed.length_lt
  · exact .inl hr
  · obtain ⟨b, hb, hfree, rfl⟩ := mem_freeAddrs.mp hmem
    have hal := (hs.listed.tiles.mem_size hb).2
    obtain ⟨pre, post, rfl⟩ := List.append_of_mem hb
    rw [hs.listed.chain.header.blockGetSize hal] at hfit
    exact .inr ⟨pre, b, post, rfl, hfree, hfit, hr⟩

/-- The blocks in use were `us` and are now `us'`: one more, fresh, with room for `need` bytes with
the header, and `r` points to its payload. -/
def Allocated (need : Nat) (us us' : List Block) (r : Nat) : Prop :=
  ∃ b, r = b.addr + headerSize ∧ need ≤ b.size ∧ (∀ c, c ∈ us' ↔ c = b ∨ c ∈ us) ∧ ∀ c ∈ us, c.addr ≠ b.addr

lemma Allocated.mono {m n r : Nat} {us' : List Block} (h : Allocated n us us' r) (hmn : m ≤ n) :
    Allocated m us us' r := by
  obtain ⟨b, hr, hn, hmem, hfresh⟩ := h
  exact ⟨b, hr, hmn.trans hn, hmem, hfresh⟩

lemma usedBlocks_rest {rest : List Block} (hrest : rest = [] ∨ ∃ r, rest = [r] ∧ r.used = false) :
    usedBlocks rest = [] := by
  rcases hrest with rfl | ⟨r, rfl, hr⟩
  · rfl
  · simp [usedBlocks, hr]

/-- What a split leaves after the block is coalesced: the rest stands where the free block stood. -/
lemma coalesced_rest {rest : List Block} (hco : Coalesced (b :: post)) (hb : b.used = false)
    (hrest : rest = [] ∨ ∃ r, rest = [r] ∧ r.used = false) : Coalesced (rest ++ post) := by
  rcases hrest with rfl | ⟨r, rfl, hr⟩
  · exact (show Coalesced ([b] ++ post) from hco).right
  · exact hco.congr (by simp [hb, hr])

lemma Sound.takeBlock {need : Nat} (hs : h.Sound (pre ++ b :: post)) (hb : b.used = false)
    (hmin : 64 ≤ need) (hal : need % 16 = 0) (hle : need ≤ b.size) :
    ∃ h' bs', h.takeBlock b.addr need = some (b.addr + headerSize, h') ∧ h'.Sound bs' ∧
      Allocated need (usedBlocks (pre ++ b :: post)) (usedBlocks bs') (b.addr + headerSize) ∧
      KeepsPayloads (usedBlocks (pre ++ b :: post)) h h' := by
  have hl : h.Shape (pre ++ b :: post) (freeAddrs pre ++ b.addr :: freeAddrs post) := by
    simpa [Listed, freeAddrs_cons_free hb] using hs.listed
  obtain ⟨k, hrem, hk, ht⟩ := hl.freeListRemove
  obtain ⟨k', b', rest, hsplit, haddr, hused, hneed, hrest, hk', ht'⟩ :=
    hk.splitBlock (fun y hy => hk.tiles.freeAddrs_pre_lt hy)
      (fun y hy => hk.tiles.le_freeAddrs_post hy) hmin hal hle
  have hmark := hk'.blockSetUsed
  have ht'' : Touches ((pre ++ b' :: (rest ++ post)).map Block.addr) k' (k'.blockSetUsed b'.addr) :=
    Touches.blockSetUsed (by simp)
  have hrun : ∃ st, h.takeBlock b.addr need =
      some (b.addr + headerSize, { k'.blockSetUsed b'.addr with stats := st }) := by
    simp only [Heap.takeBlock, hrem, hsplit, haddr, Option.bind_eq_bind, Option.bind_some]
    exact ⟨_, rfl⟩
  obtain ⟨st, hrun⟩ := hrun
  have hco := hs.coalesced
  have husedrest := usedBlocks_rest hrest
  have hfree : freeAddrs (pre ++ { b' with used := true } :: (rest ++ post)) =
      freeAddrs pre ++ (freeAddrs rest ++ freeAddrs post) := by
    simp [freeAddrs_cons_used]
  refine ⟨_, pre ++ { b' with used := true } :: (rest ++ post), hrun, ?_, ?_, ?_⟩
  · refine hs.of_sameRegion
      (ht.sameRegion.trans (ht'.sameRegion.trans (ht''.stats st).sameRegion)) ?_ ?_
    · rw [Listed, hfree]
      exact hmark.stats st
    · exact coalesced_split.mpr ⟨hco.left.append_used rfl, .cons_used rfl (coalesced_rest hco.right hb hrest)⟩
  · refine ⟨{ b' with used := true }, by rw [haddr], hneed, fun c => ?_, fun c hc => ?_⟩
    · simp only [usedBlocks_append, usedBlocks_cons_free hb, husedrest, List.mem_append,
        usedBlocks_cons_used (b := { b' with used := true }) rfl, List.mem_cons, List.nil_append]
      tauto
    · rw [usedBlocks_append, usedBlocks_cons_free hb, ← usedBlocks_append] at hc
      exact haddr ▸ hl.tiles.addr_ne (mem_usedBlocks.mp hc).1
  · have hsub : usedBlocks (pre ++ b :: post) ⊆ pre ++ b' :: (rest ++ post) := fun c hc => by
      rw [usedBlocks_append, usedBlocks_cons_free hb] at hc
      simp only [List.mem_append, List.mem_cons, mem_usedBlocks] at hc ⊢
      tauto
    exact (ht.keepsPayloads hl.tiles fun c hc => (mem_usedBlocks.mp hc).1).trans
      ((ht'.keepsPayloads hk'.tiles hsub).trans ((ht''.stats st).keepsPayloads hk'.tiles hsub))

/-- **`kmalloc`** answers null and leaves the blocks in use, or adds one. -/
theorem Sound.kmalloc (hs : h.Sound bs) {size : UInt64} (hsize : h.Served size) :
    ∃ r h' bs', h.kmalloc size = some (r, h') ∧ h'.Sound bs' ∧ KeepsPayloads (usedBlocks bs) h h' ∧
      (r = 0 ∧ usedBlocks bs' = usedBlocks bs ∨
        Allocated (size.toNat + headerSize) (usedBlocks bs) (usedBlocks bs') r) := by
  obtain ⟨hmin, hal, hroom⟩ := actualSize_room hsize.le
  have hinit := hs.initialized
  by_cases hzero : size = 0
  · exact ⟨0, h, bs, by simp [Heap.kmalloc, hzero], hs, .refl, .inl ⟨rfl, rfl⟩⟩
  rcases hs.findFreeBlock (actualSize size).toNat with hnone | ⟨pre, b, post, rfl, hb, hle, hfind⟩
  · obtain ⟨ok, k, bs₁, hexp, hs₁, hused, hkeep⟩ := hs.heapExpand (actualSize size) (by
      rcases hsize with hmax | ⟨-, hwf⟩
      · have hle := (actualSize_spec hmax).2.2.2
        exact .inl (hle.trans (by omega))
      · exact .inr hwf)
    cases ok with
    | false =>
      refine ⟨0, k, bs₁, ?_, hs₁, hkeep, .inl ⟨rfl, hused⟩⟩
      simp [Heap.kmalloc, hinit, hzero, hnone, hexp]
    | true =>
      rcases hs₁.findFreeBlock (actualSize size).toNat with
        hnone' | ⟨pre, b, post, rfl, hb, hle, hfind⟩
      · refine ⟨0, k, bs₁, ?_, hs₁, hkeep, .inl ⟨rfl, hused⟩⟩
        simp [Heap.kmalloc, hinit, hzero, hnone, hexp, hnone']
      · obtain ⟨h', bs', hrun, hs', hall, hkeep'⟩ := hs₁.takeBlock hb hmin hal hle
        have hb0 : b.addr ≠ 0 := (hs₁.listed.addr_pos (by simp)).ne'
        rw [hused] at hall hkeep'
        refine ⟨_, h', bs', ?_, hs', hkeep.trans hkeep', .inr (hall.mono hroom)⟩
        simp [Heap.kmalloc, hinit, hzero, hnone, hexp, hfind, hb0, hrun]
  · obtain ⟨h', bs', hrun, hs', hall, hkeep⟩ := hs.takeBlock hb hmin hal hle
    have hb0 : b.addr ≠ 0 := (hs.listed.addr_pos (by simp)).ne'
    refine ⟨_, h', bs', ?_, hs', hkeep, .inr (hall.mono hroom)⟩
    simp [Heap.kmalloc, hinit, hzero, hfind, hb0, hrun]

/-! ## Release -/

/-- The pointers into the heap that `kfree` and `krealloc` look at. -/
lemma Sound.used_header (hs : h.Sound (pre ++ b :: post)) (hb : b.used = true) :
    h.get b.addr .magic = heapBlockMagic ∧ h.blockIsUsed b.addr = true := by
  have hhdr := hs.listed.chain.header
  exact ⟨by simpa [hb] using hhdr.magic, hhdr.blockIsUsed.trans hb⟩

/-- `kfree` of a pointer that passes its checks. -/
lemma kfree_eq (hinit : h.heapInitialized = true) (hmagic : h.get x .magic = heapBlockMagic)
    (hused : h.blockIsUsed x = true) (hx : h.heapStart ≤ x ∧ x < h.heapEnd)
    (hadd : (h.blockSetFree x).freeListAdd x = some k) :
    ∃ st, h.kfree (x + headerSize) = { k with stats := st }.coalesceBlocks x := by
  have hbounds : ¬ (x < h.heapStart ∨ h.heapEnd ≤ x) := by omega
  simp only [Heap.kfree, hinit, Nat.add_sub_cancel, hmagic, hused, if_neg hbounds,
    hadd]
  exact ⟨_, rfl⟩

/-- **`kfree`** takes the block out of use and leaves the others. -/
theorem Sound.kfree (hs : h.Sound (pre ++ b :: post)) (hb : b.used = true) :
    ∃ h' bs', h.kfree (b.addr + headerSize) = some h' ∧ h'.Sound bs' ∧ usedBlocks bs' = usedBlocks (pre ++ post) ∧
      KeepsPayloads (usedBlocks (pre ++ post)) h h' := by
  have hl : h.Shape (pre ++ b :: post) (freeAddrs pre ++ freeAddrs post) := by
    simpa [Listed, freeAddrs_cons_used hb] using hs.listed
  obtain ⟨hmagic, hused⟩ := hs.used_header hb
  have hbounds := hl.tiles.mem_bounds (b := b) (by simp)
  have hb64 := (hl.tiles.mem_size (b := b) (by simp)).1
  have hk := hl.blockSetFree
  have htk : Touches ((pre ++ b :: post).map Block.addr) h (h.blockSetFree b.addr) :=
    Touches.blockSetFree (by simp)
  obtain ⟨k, hadd, hshape, ht⟩ := hk.freeListAdd (fun y hy => hk.tiles.freeAddrs_pre_lt hy)
    (fun y hy => lt_of_lt_of_le (by dsimp only; omega) (hk.tiles.le_freeAddrs_post hy))
  have hlisted : k.Listed (pre ++ { b with used := false } :: post) := by
    simpa [Listed, freeAddrs_cons_free] using hshape
  obtain ⟨st, hrun⟩ := kfree_eq hs.initialized hmagic hused ⟨hbounds.1, by omega⟩ hadd
  have hlisted' : Listed { k with stats := st } (pre ++ { b with used := false } :: post) :=
    Shape.stats hlisted st
  obtain ⟨h', bs', hco, hl', hcoal, hused', ht'⟩ := hlisted'.coalesceBlocks rfl hs.coalesced.left
    (show Coalesced ([b] ++ post) from hs.coalesced.right).right
  refine ⟨h', bs', hrun.trans hco, hs.of_sameRegion ?_ hl' hcoal, hused', ?_⟩
  · exact htk.sameRegion.trans ((ht.stats st).sameRegion.trans ht'.sameRegion)
  · have hsub : usedBlocks (pre ++ post) ⊆ pre ++ { b with used := false } :: post := fun c hc => by
      have := (mem_usedBlocks.mp hc).1
      simp only [List.mem_append] at this ⊢
      tauto
    have hmap : (pre ++ b :: post).map Block.addr =
      (pre ++ { b with used := false } :: post).map Block.addr := by simp
    exact ((hmap ▸ htk).keepsPayloads hk.tiles hsub).trans
      (((ht.stats st).keepsPayloads hk.tiles hsub).trans (ht'.keepsPayloads hk.tiles hsub))

/-! ## Writing to payloads -/

lemma get_withMem {m : Mem} {y : Nat} {g : HeapField}
    (hm : ∀ a, y ≤ a → a < y + 32 → m a = h.mem a) : { h with mem := m }.get y g = h.get y g := by
  rw [get, get]
  refine readLE_congr fun a hlo hhi => hm a ?_ ?_
  all_goals cases g <;> simp only [HeapField.offset, HeapField.width] at hlo hhi <;> omega

lemma Sound.withMem (hs : h.Sound bs) {m : Mem} (hm : ∀ c ∈ bs, ∀ a, c.addr ≤ a → a < c.addr + 32 → m a = h.mem a) :
    Sound { h with mem := m } bs := by
  have hget : ∀ c ∈ bs, ∀ f, { h with mem := m }.get c.addr f = h.get c.addr f := fun c hc f =>
    get_withMem (hm c hc)
  refine ⟨⟨hs.listed.start_pos, hs.listed.end_lt, hs.listed.tiles,
    hs.listed.chain.congr fun c hc f _ => hget c hc f, hs.listed.list.congr fun y hy => ?_,
    hs.listed.sorted, hs.listed.listed⟩, hs.coalesced, hs.start_lt, hs.initialized, hs.max_lt⟩
  obtain ⟨c, hc, rfl⟩ := List.mem_map.mp (hs.listed.listed hy)
  exact hget c hc .next

lemma Sound.writePayload (hs : h.Sound bs) (hb : b ∈ bs) {m : Mem}
    (hm : ∀ a, a < b.addr + 32 ∨ b.addr + b.size ≤ a → m a = h.mem a) :
    Sound { h with mem := m } bs := by
  refine hs.withMem fun c hc a hlo hhi => hm a ?_
  rcases hs.listed.tiles.apart hb hc with rfl | hbc | hcb
  all_goals omega

lemma Allocated.apart {n r : Nat} (hall : Allocated n us (usedBlocks bs) r) (hs : h.Sound bs) :
    ∃ b ∈ bs, b.used = true ∧ r = b.addr + headerSize ∧ n ≤ b.size ∧
      ∀ c ∈ us, c ∈ bs ∧ (c.addr + c.size ≤ b.addr ∨ b.addr + b.size ≤ c.addr) := by
  obtain ⟨b, hr, hn, hmem, hfresh⟩ := hall
  obtain ⟨hb, hused⟩ := mem_usedBlocks.mp ((hmem b).mpr (.inl rfl))
  refine ⟨b, hb, hused, hr, hn, fun c hc => ?_⟩
  have hc' := (mem_usedBlocks.mp ((hmem c).mpr (.inr hc))).1
  refine ⟨hc', (hs.listed.tiles.apart hc' hb).resolve_left fun hcb => hfresh c hc (hcb ▸ rfl)⟩

/-- **`kcalloc`** is `kmalloc` of the product, or null when the product overflows. -/
theorem Sound.kcalloc (hs : h.Sound bs) {count size : UInt64} (hsize : h.Served (count * size)) :
    ∃ r h' bs', h.kcalloc count size = some (r, h') ∧ h'.Sound bs' ∧ KeepsPayloads (usedBlocks bs) h h' ∧
      (r = 0 ∧ usedBlocks bs' = usedBlocks bs ∨
        Allocated ((count * size).toNat + headerSize) (usedBlocks bs) (usedBlocks bs') r) := by
  by_cases hover : count ≠ 0 ∧ (18446744073709551615 : UInt64) / count < size
  · exact ⟨0, h, bs, by simp only [Heap.kcalloc, if_pos hover], hs, .refl, .inl ⟨rfl, rfl⟩⟩
  obtain ⟨r, k, bs', hrun, hs', hkeep, hout⟩ := hs.kmalloc hsize
  by_cases hr : r = 0
  · refine ⟨r, k, bs', ?_, hs', hkeep, hout⟩
    simp [Heap.kcalloc, hover, hrun, hr]
  · have hall := hout.resolve_left fun hnull => hr hnull.1
    obtain ⟨b, hb, -, hrb, hn, hapart⟩ := hall.apart hs'
    have houtside : ∀ a, a < b.addr + 32 ∨ b.addr + b.size ≤ a →
        fillBytes k.mem r 0 (count * size).toNat a = k.mem a := fun a ha =>
      fillBytes_outside (by simp only [headerSize] at hrb hn; omega)
    refine ⟨r, { k with mem := fillBytes k.mem r 0 (count * size).toNat }, bs', ?_,
      hs'.writePayload hb houtside, ?_, .inr hall⟩
    · simp [Heap.kcalloc, hover, hrun, hr]
    · intro c hc a hlo hhi
      rw [← hkeep c hc a hlo hhi]
      exact houtside a (by have := (hapart c hc).2; omega)

/-! ## Resizing -/

/-- The in-place branch of `krealloc` up to its split: `k₀` has the new size, `k₁` also the new
statistics. -/
lemma growInPlace_eq (need : Nat) {y s t : Nat} {k₀ : Heap} (hx : h.blockGetSize x = s)
    (hy : h.blockGetSize y = t) (hrem : h.freeListRemove y = some k)
    (hk₀ : k.set x .size (s + t) = k₀) :
    ∃ st, ∀ k₁ k', { k₀ with stats := st } = k₁ →
      (if k₁.blockGetNextPhysical x ≠ 0 then k₁.set (k₁.blockGetNextPhysical x) .prev x else k₁)
        = k' → h.growInPlace x y need = k'.splitBlock x need := by
  refine ⟨{ k₀.stats with
    freeSize := k₀.stats.freeSize - UInt64.ofNat (k₀.blockGetSize y)
    blockCount := k₀.stats.blockCount - 1 }, fun k₁ k' hk₁ hk' => ?_⟩
  simp only [growInPlace, hx, hy, hrem, Option.bind_eq_bind, Option.bind_some, hk₀, hk₁, hk']

lemma Sound.growInPlace {need : Nat} (hs : h.Sound (pre ++ b :: c :: post)) (hb : b.used = true)
    (hc : c.used = false) (hmin : 64 ≤ need) (hal : need % 16 = 0) (hle : need ≤ b.size + c.size)
    (hgrow : b.size ≤ need) :
    ∃ h' b' bs', h.growInPlace b.addr c.addr need = some h' ∧ h'.Sound bs' ∧ b'.addr = b.addr ∧ need ≤ b'.size ∧
      usedBlocks bs' = usedBlocks pre ++ b' :: usedBlocks post ∧
      KeepsPayloads (usedBlocks (pre ++ b :: post)) h h' := by
  have hl : h.Shape (pre ++ b :: c :: post) (freeAddrs pre ++ c.addr :: freeAddrs post) := by
    simpa [Listed, freeAddrs_cons_used hb, freeAddrs_cons_free hc] using hs.listed
  obtain ⟨k, hrem, hk, ht⟩ := hl.freeListRemove
  have hchdr := hl.header_next
  have hbsize := hl.chain.header.blockGetSize (hl.tiles.mem_size (b := b) (by simp)).2
  have hcsize := hchdr.blockGetSize (hl.tiles.mem_size (b := c) (by simp)).2
  obtain ⟨st, hrun⟩ := growInPlace_eq need hbsize hcsize hrem rfl
  obtain ⟨k', habs, hk', ht'⟩ := hk.absorb
    (k := { k.set b.addr .size (b.size + c.size) with stats := st })
    (fun hmem => ne_of_sorted_middle hl.sorted _ hmem rfl)
    ((Touches.set (by simp)).stats st) (by simp) fun _ _ => get_stats st
  obtain ⟨h', b', rest, hsplit, haddr, hused, hneed, hrest, hshape, ht''⟩ :=
    hk'.splitBlock (fun y hy => hk'.tiles.freeAddrs_pre_lt hy)
      (fun y hy => hk'.tiles.le_freeAddrs_post hy) hmin hal hle
  have hb' : b'.used = true := hused.trans hb
  have hco : Coalesced (c :: post) :=
    (show Coalesced ([b] ++ c :: post) from hs.coalesced.right).right
  have husedrest := usedBlocks_rest hrest
  refine ⟨h', b', pre ++ b' :: (rest ++ post), (hrun _ _ rfl habs).trans hsplit, ?_, haddr, hneed, ?_, ?_⟩
  · refine hs.of_sameRegion (ht.sameRegion.trans (ht'.sameRegion.trans ht''.sameRegion)) ?_ ?_
    · simpa [Listed, freeAddrs_cons_used hb'] using hshape
    · exact coalesced_split.mpr ⟨hs.coalesced.left.append_used hb', .cons_used hb' (coalesced_rest hco hc hrest)⟩
  · simp [usedBlocks_cons_used hb', husedrest]
  · have hsub : usedBlocks (pre ++ b :: post) ⊆ pre ++ b :: c :: post := fun d hd => by
      have := (mem_usedBlocks.mp hd).1
      simp only [List.mem_append, List.mem_cons] at this ⊢
      tauto
    refine (ht.keepsPayloads hl.tiles hsub).trans ((ht'.keepsPayloads hk.tiles hsub).trans
      (ht''.keepsPayloads' hshape.tiles fun d hd => ?_))
    have hd' := (mem_usedBlocks.mp hd).1
    simp only [List.mem_append, List.mem_cons] at hd'
    rcases hd' with hd | rfl | hd
    · exact ⟨d, by simp [hd], rfl, le_rfl⟩
    · exact ⟨b', by simp, haddr, hgrow.trans hneed⟩
    · exact ⟨d, by simp [hd], rfl, le_rfl⟩

/-- `krealloc` of a pointer that passes its checks. -/
lemma krealloc_eq {newSize : UInt64} {s : Nat} (hinit : h.heapInitialized = true)
    (hmagic : h.get x .magic = heapBlockMagic) (hused : h.blockIsUsed x = true)
    (hnz : newSize ≠ 0) (hx : h.blockGetSize x = s) :
    h.krealloc (x + headerSize) newSize = if newSize.toNat ≤ s - headerSize then some (x + headerSize, h)
      else if h.blockGetNextPhysical x ≠ 0 ∧ h.blockIsUsed (h.blockGetNextPhysical x) = false ∧
          (actualSize newSize).toNat ≤ s + h.blockGetSize (h.blockGetNextPhysical x) then do
        let h ← h.growInPlace x (h.blockGetNextPhysical x) (actualSize newSize).toNat
        some (x + headerSize, h)
      else h.moveBlock (x + headerSize) (s - headerSize) newSize := by
  have hptr : ¬ x + headerSize = 0 := by simp [headerSize]
  simp only [Heap.krealloc, if_neg hptr, if_neg hnz, hinit, Nat.add_sub_cancel, hmagic, hused, hx,
    Bool.not_true, Bool.false_eq_true, if_false, ne_eq, not_true, Bool.true_eq_false, or_self]

lemma mem_usedBlocks_remove {a e : Nat} (ht : Tiles a (pre ++ b :: post) e) :
    c ∈ usedBlocks (pre ++ post) ↔ c ∈ usedBlocks (pre ++ b :: post) ∧ c.addr ≠ b.addr := by
  simp only [mem_usedBlocks, List.mem_append, List.mem_cons]
  constructor
  · rintro ⟨hc, hused⟩
    exact ⟨⟨hc.imp_right .inr, hused⟩, ht.addr_ne (List.mem_append.mpr hc)⟩
  · rintro ⟨⟨hc | rfl | hc, hused⟩, hne⟩
    · exact ⟨.inl hc, hused⟩
    · exact absurd rfl hne
    · exact ⟨.inr hc, hused⟩

/-- Moving a block: the copy lands in the new payload, and then the old block is freed. -/
lemma Sound.moveBlock {newSize : UInt64} (hs : h.Sound (pre ++ b :: post)) (hb : b.used = true)
    (hsize : h.Served newSize) (hlarge : b.size ≤ newSize.toNat + headerSize) :
    ∃ r h' bs', h.moveBlock (b.addr + headerSize) (b.size - headerSize) newSize = some (r, h') ∧
      h'.Sound bs' ∧ KeepsPayloads (usedBlocks (pre ++ post)) h h' ∧
      (r = 0 ∧ usedBlocks bs' = usedBlocks (pre ++ b :: post) ∨
        Allocated (newSize.toNat + headerSize) (usedBlocks (pre ++ post)) (usedBlocks bs') r) := by
  obtain ⟨r, k, bs₁, hrun, hs₁, hkeep, hout⟩ := hs.kmalloc hsize
  have hother : ∀ c, c ∈ usedBlocks (pre ++ post) ↔ c ∈ usedBlocks (pre ++ b :: post) ∧ c.addr ≠ b.addr :=
    fun c => mem_usedBlocks_remove hs.listed.tiles
  have hkeep₁ : KeepsPayloads (usedBlocks (pre ++ post)) h k := fun c hc =>
    hkeep c ((hother c).mp hc).1
  by_cases hr : r = 0
  · have hnull : usedBlocks bs₁ = usedBlocks (pre ++ b :: post) := by
      rcases hout with ⟨-, h⟩ | ⟨b', hr', -⟩
      · exact h
      · simp only [headerSize] at hr'
        omega
    exact ⟨0, k, bs₁, by simp [Heap.moveBlock, hrun, hr], hs₁, hkeep₁, .inl ⟨rfl, hnull⟩⟩
  have hall := hout.resolve_left fun hnull => hr hnull.1
  obtain ⟨d, hd, -, hrd, hroom, hapart⟩ := hall.apart hs₁
  obtain ⟨m, hm⟩ : ∃ m, copyBytes k.mem r (b.addr + headerSize) (b.size - headerSize) = m := ⟨_, rfl⟩
  have houtside : ∀ a, a < d.addr + 32 ∨ d.addr + d.size ≤ a → m a = k.mem a := fun a ha =>
    hm ▸ copyBytes_outside (by simp only [headerSize] at *; omega)
  have hs₂ := hs₁.writePayload hd houtside
  have hbmem : b ∈ bs₁ := (hapart b (by simp [mem_usedBlocks, hb])).1
  obtain ⟨pre₁, post₁, rfl⟩ := List.append_of_mem hbmem
  obtain ⟨h', bs', hfree, hs', hused, hkeep'⟩ := hs₂.kfree hb
  obtain ⟨d', hr', hn', hmem, hfresh⟩ := hall
  have hleft : ∀ c, c ∈ usedBlocks (pre₁ ++ post₁) ↔ (c = d' ∨ c ∈ usedBlocks (pre ++ b :: post)) ∧
      c.addr ≠ b.addr := fun c => by
    rw [mem_usedBlocks_remove hs₁.listed.tiles, hmem]
  refine ⟨r, h', bs', by simp [Heap.moveBlock, hrun, hr, hm, hfree], hs', ?_,
    .inr ⟨d', hr', hn', fun c => ?_, fun c hc => hfresh c ((hother c).mp hc).1⟩⟩
  · intro c hc a hlo hhi
    have hc' := (hother c).mp hc
    have hcd := (hapart c hc'.1).2
    calc h'.mem a = m a := hkeep' c ((hleft c).mpr ⟨.inr hc'.1, hc'.2⟩) a hlo hhi
      _ = k.mem a := houtside a (by omega)
      _ = h.mem a := hkeep₁ c hc a hlo hhi
  · rw [hused, hleft, hother]
    have hd' : d'.addr ≠ b.addr := (hfresh b (by simp [mem_usedBlocks, hb])).symm
    constructor
    · rintro ⟨rfl | hc, hne⟩
      · exact .inl rfl
      · exact .inr ⟨hc, hne⟩
    · rintro (rfl | ⟨hc, hne⟩)
      · exact ⟨.inl rfl, hd'⟩
      · exact ⟨.inr hc, hne⟩

/-- **`krealloc`** of a live pointer answers null and changes no block in use, or replaces the
block by one that is large enough. -/
theorem Sound.krealloc {newSize : UInt64} (hs : h.Sound (pre ++ b :: post)) (hb : b.used = true)
    (hnz : newSize ≠ 0) (hsize : h.Served newSize) :
    ∃ r h' bs', h.krealloc (b.addr + headerSize) newSize = some (r, h') ∧ h'.Sound bs' ∧
      KeepsPayloads (usedBlocks (pre ++ post)) h h' ∧
      (r = 0 ∧ usedBlocks bs' = usedBlocks (pre ++ b :: post) ∨
        Allocated (newSize.toNat + headerSize) (usedBlocks (pre ++ post)) (usedBlocks bs') r) := by
  obtain ⟨hmagic, hmark⟩ := hs.used_header hb
  obtain ⟨hbmin, hbal⟩ := hs.listed.tiles.mem_size (b := b) (by simp)
  have hbsize := hs.listed.chain.header.blockGetSize hbal
  have hfresh : ∀ c ∈ usedBlocks (pre ++ post), c.addr ≠ b.addr := fun c hc =>
    ((mem_usedBlocks_remove hs.listed.tiles).mp hc).2
  rw [krealloc_eq hs.initialized hmagic hmark hnz hbsize]
  split_ifs with hfits hgrow
  · refine ⟨_, h, _, rfl, hs, .refl, .inr ⟨b, rfl, ?_, fun c => ?_, hfresh⟩⟩
    · simp only [headerSize] at *
      omega
    · simp only [usedBlocks_append, usedBlocks_cons_used hb, List.mem_append, List.mem_cons]
      tauto
  · obtain ⟨hmin, hal, hroom⟩ := actualSize_room hsize.le
    have hnext := Shape.nextPhysical hs.listed
    cases post with
    | nil => exact absurd hnext hgrow.1
    | cons c post =>
      have hnext : h.blockGetNextPhysical b.addr = c.addr := hnext
      have hcsize := hs.listed.header_next.blockGetSize
        (hs.listed.tiles.mem_size (b := c) (by simp)).2
      rw [hnext, hs.listed.header_next.blockIsUsed, hcsize] at hgrow
      obtain ⟨h', b', bs', hrun, hs', haddr, hneed, hused, hkeep⟩ :=
        hs.growInPlace hb hgrow.2.1 hmin hal hgrow.2.2 (by simp only [headerSize] at *; omega)
      have hpost : usedBlocks (pre ++ c :: post) = usedBlocks (pre ++ post) := by
        simp [usedBlocks_cons_free hgrow.2.1]
      rw [hnext, hpost]
      rw [hpost] at hfresh
      refine ⟨b.addr + headerSize, h', bs', by simp [hrun], hs', fun d hd => hkeep d ?_,
        .inr ⟨b', by rw [haddr], hroom.trans hneed, fun d => ?_, fun d hd => haddr ▸ hfresh d hd⟩⟩
      · simp only [usedBlocks_append, usedBlocks_cons_used hb, List.mem_append, List.mem_cons] at hd ⊢
        tauto
      · rw [hused, usedBlocks_append]
        simp only [List.mem_append, List.mem_cons]
        tauto
  · exact hs.moveBlock hb hsize (by simp only [headerSize] at *; omega)

/-! ## Initialisation -/

lemma initialPages_spec (initialSize : UInt64) :
    4096 ≤ (initialPages initialSize).toNat ∧ (initialPages initialSize).toNat % 4096 = 0 := by
  have hal := toNat_alignUp_page initialSize
  unfold initialPages
  split_ifs with hlt
  · decide
  · have : ¬ (alignUp initialSize 4096).toNat < 4096 := fun h =>
      hlt (UInt64.lt_iff_toNat_lt.mpr h)
    omega

/-- The header that `heap_init` writes. -/
lemma freshHeader_init {s : Nat} (hs : s < 2 ^ 63) :
    FreshHeader h (((((h.set x .size s).set x .next 0).set x .prev 0).set x .flags 0).blockSetFree x)
      x s 0 := by
  have hx : x ∈ [x] := by simp
  refine .of_fields ?_ (by simp) (fun y f hy => by simp [get_set_apart hy]) ?_ (by simp)
    (by simp)
  · exact (((Touches.set hx).trans (Touches.set hx)).trans (Touches.set hx)).trans (Touches.set hx)
  · simp [HeapField.width]
    omega

lemma shape_fresh {s : Nat} (hstart : h.heapStart = x) (hend : h.heapEnd = x + s)
    (hlist : h.freeList = x) (hx : 0 < x) (hlt : x + s < 2 ^ 63) (hmin : 64 ≤ s) (hal : s % 16 = 0)
    (hhdr : h.Header ⟨x, s, false⟩ 0) (hnext : h.get x .next = 0) : h.Listed [⟨x, s, false⟩] where
  start_pos := hstart ▸ hx
  end_lt := hend ▸ hlt
  tiles := ⟨hstart.symm, hmin, hal, by rw [hstart, hend]; rfl⟩
  chain := ⟨hhdr, trivial⟩
  list := ⟨hlist, hnext⟩
  sorted := List.pairwise_singleton _ _
  listed := by simp [freeAddrs]

/-- **`heap_init`**: on success the heap is one free block. -/
theorem heapInit_sound {p : Pmm} (hp : p.WellFormed) {mem : Mem} {start initialSize : UInt64}
    (hrun : (uninitialised p mem).heapInit start initialSize = (true, h)) :
    ∃ bs, h.Sound bs ∧ usedBlocks bs = [] := by
  obtain ⟨hmin, hal⟩ := initialPages_spec initialSize
  obtain ⟨s, hs⟩ : ∃ s, initialPages initialSize = s := ⟨_, rfl⟩
  obtain ⟨r, hr⟩ : ∃ r, pmmAllocPages p (s >>> 12) = r := ⟨_, rfl⟩
  have hspec := pmmAllocPages_spec hp (s >>> 12)
  rw [hr, toNat_shiftRight_page] at hspec
  rw [hs] at hmin hal
  simp only [heapInit, uninitialised, hs, hr, Bool.false_eq_true, if_false] at hrun
  rcases hspec with ⟨hfail, -⟩ | ⟨pfn, hpos, htotal, -, haddr, -⟩
  · rw [if_pos hfail] at hrun
    simp at hrun
  have htotal' : pfn + s.toNat / 4096 ≤ 1048576 := htotal.trans hp.total_le
  have hnz : r.1 ≠ 0 := fun h0 => by
    rw [h0, UInt64.toNat_zero] at haddr
    omega
  rw [if_neg hnz] at hrun
  obtain ⟨-, rfl⟩ := hrun
  obtain ⟨k₀, hk₀⟩ : ∃ k₀, Heap.mk (fillBytes mem r.1.toNat 0 s.toNat) r.1.toNat
    (r.1.toNat + s.toNat) (r.1.toNat + heapMaxSize) 0 false {} r.2 = k₀ := ⟨_, rfl⟩
  have hfresh := freshHeader_init (h := k₀) (x := r.1.toNat) (s := s.toNat) (by omega)
  have hnext : (((((k₀.set r.1.toNat .size s.toNat).set r.1.toNat .next 0).set r.1.toNat .prev 0).set
    r.1.toNat .flags 0).blockSetFree r.1.toNat).get r.1.toNat .next = 0 := by simp [blockSetFree]
  obtain ⟨k, hk⟩ : ∃ k, ((((k₀.set r.1.toNat .size s.toNat).set r.1.toNat .next 0).set
    r.1.toNat .prev 0).set r.1.toNat .flags 0).blockSetFree r.1.toNat = k := ⟨_, rfl⟩
  rw [hk] at hfresh hnext
  rw [hk₀, hk]
  refine ⟨[⟨r.1.toNat, s.toNat, false⟩], ⟨shape_fresh ?_ ?_ rfl ?_ ?_ ?_ ?_ ?_ ?_,
    List.isChain_singleton _, ?_, rfl, ?_⟩, rfl⟩
  · simp only [hfresh.touches.heapStart, ← hk₀]
  · simp only [hfresh.touches.heapEnd, ← hk₀]
  · omega
  · omega
  · omega
  · omega
  · exact hfresh.header.congr fun f _ => get_congr rfl
  · refine Eq.trans ?_ hnext
    exact get_congr rfl
  · simp only [hfresh.touches.heapStart, hfresh.touches.heapEnd, ← hk₀]
    omega
  · simp only [hfresh.touches.heapMax, ← hk₀, heapMaxSize]
    omega

end Heap

end AAAos
