import AAAos.Kernel.Mm.HeapBlocks

/-!
# Coalescing and expansion

`coalesce_blocks` runs on the one block that may have a free neighbour.  Its first half makes the
tail of the tiling coalesced, its second half the whole (`Shape.coalesceBlocks`), and the blocks in
use stay what they were.  `heap_expand` appends one block and coalesces it.
-/

namespace AAAos

/-- No two neighbours are both free. -/
def Coalesced (bs : List Block) : Prop := bs.IsChain fun b c => b.used = true ∨ c.used = true

/-- The blocks in use, in order. -/
def usedBlocks (bs : List Block) : List Block := bs.filter Block.used

section Coalesced

variable {b b' c : Block} {pre post xs ys : List Block}

@[simp] lemma usedBlocks_append : usedBlocks (xs ++ ys) = usedBlocks xs ++ usedBlocks ys := by
  simp [usedBlocks]

lemma usedBlocks_cons_free (hb : b.used = false) : usedBlocks (b :: xs) = usedBlocks xs := by
  simp [usedBlocks, hb]

lemma usedBlocks_cons_used (hb : b.used = true) : usedBlocks (b :: xs) = b :: usedBlocks xs := by
  simp [usedBlocks, hb]

lemma freeAddrs_cons_free (hb : b.used = false) : freeAddrs (b :: xs) = b.addr :: freeAddrs xs := by
  simp [freeAddrs, hb]

lemma freeAddrs_cons_used (hb : b.used = true) : freeAddrs (b :: xs) = freeAddrs xs := by
  simp [freeAddrs, hb]

lemma coalesced_iff_map : Coalesced xs ↔ (xs.map Block.used).IsChain fun u v => u = true ∨ v = true := by
  rw [List.isChain_map]
  rfl

lemma Coalesced.congr (h : Coalesced xs) (hmap : ys.map Block.used = xs.map Block.used) : Coalesced ys := by
  rw [coalesced_iff_map, hmap]
  exact coalesced_iff_map.mp h

lemma coalesced_split : Coalesced (pre ++ b :: post) ↔ Coalesced (pre ++ [b]) ∧ Coalesced (b :: post) :=
  List.isChain_split

lemma Coalesced.left (h : Coalesced (xs ++ ys)) : Coalesced xs := List.IsChain.left_of_append h

lemma Coalesced.right (h : Coalesced (xs ++ ys)) : Coalesced ys := List.IsChain.right_of_append h

lemma Coalesced.cons_used (hb : b.used = true) (h : Coalesced xs) : Coalesced (b :: xs) := by
  cases xs with
  | nil => exact List.isChain_singleton b
  | cons c xs => exact List.isChain_cons_cons.mpr ⟨.inl hb, h⟩

lemma Coalesced.append_used (hb : b.used = true) (h : Coalesced xs) : Coalesced (xs ++ [b]) :=
  List.IsChain.append h (List.isChain_singleton b) (by simp [hb])

end Coalesced

namespace Heap

variable {h : Heap} {b c : Block} {bs pre post : List Block}

/-- The heap with exactly its free blocks on the list. -/
def Listed (h : Heap) (bs : List Block) : Prop := h.Shape bs (freeAddrs bs)

lemma Shape.nextPhysical {fl : List Nat} (hs : h.Shape (pre ++ b :: post) fl) :
    h.blockGetNextPhysical b.addr = (post.head?.map Block.addr).getD 0 := by
  obtain ⟨m, -, rfl, -, hal, htpost⟩ := Tiles.append.mp hs.tiles
  exact blockGetNextPhysical_eq hs.chain.header.size hal htpost

lemma Shape.header_next {fl : List Nat} (hs : h.Shape (pre ++ b :: c :: post) fl) : h.Header c b.addr := by
  have hchain : h.Chain 0 ((pre ++ [b]) ++ c :: post) := by simpa using hs.chain
  simpa [lastAddr] using hchain.header

lemma Listed.merge (hs : h.Listed (pre ++ b :: c :: post)) (hb : b.used = false) (hc : c.used = false) :
    ∃ k h', h.freeListRemove c.addr = some k ∧
      k.resizeOver b.addr (k.blockGetSize b.addr + k.blockGetSize c.addr) = h' ∧
      h'.Listed (pre ++ b.absorb c :: post) ∧
      Touches ((pre ++ b :: c :: post).map Block.addr) h h' := by
  have hfree : freeAddrs (pre ++ b :: c :: post) = (freeAddrs pre ++ [b.addr]) ++ c.addr :: freeAddrs post := by
    simp [freeAddrs_cons_free hb, freeAddrs_cons_free hc]
  have hs' : h.Shape (pre ++ b :: c :: post) ((freeAddrs pre ++ [b.addr]) ++ c.addr :: freeAddrs post) :=
    hfree ▸ hs
  obtain ⟨k, hrem, hk, ht⟩ := hs'.freeListRemove
  have hbal := (hk.tiles.mem_size (b := b) (by simp)).2
  have hcal := (hk.tiles.mem_size (b := c) (by simp)).2
  have hchdr := hk.header_next
  obtain ⟨hshape, ht'⟩ := hk.resizeOver fun hmem => ne_of_sorted_middle hs'.sorted _ hmem rfl
  refine ⟨k, _, hrem, rfl, ?_, ?_⟩
  · rw [hk.chain.header.blockGetSize hbal, hchdr.blockGetSize hcal, Listed]
    simpa [freeAddrs_cons_free (b := b.absorb c) hb] using hshape
  · rw [hk.chain.header.blockGetSize hbal, hchdr.blockGetSize hcal]
    exact ht.trans ht'

/-- The first half of `coalesce_blocks` leaves no free neighbour after the block. -/
lemma Listed.coalesceNext (hs : h.Listed (pre ++ b :: post)) (hb : b.used = false) (hpost : Coalesced post) :
    ∃ h' b' post', h.coalesceNext b.addr = some h' ∧ h'.Listed (pre ++ b' :: post') ∧
      b'.addr = b.addr ∧ b'.used = false ∧ Coalesced (b' :: post') ∧
      usedBlocks post' = usedBlocks post ∧
      Touches ((pre ++ b :: post).map Block.addr) h h' ∧ post' ⊆ post := by
  have hnext := Shape.nextPhysical hs
  cases post with
  | nil =>
    refine ⟨h, b, [], ?_, hs, rfl, hb, List.isChain_singleton b, rfl, Touches.refl h, by simp⟩
    simp [Heap.coalesceNext, hnext]
  | cons c post =>
    have hused := hs.header_next.blockIsUsed
    have hc0 : c.addr ≠ 0 := (hs.addr_pos (by simp)).ne'
    cases hc : c.used with
    | true =>
      refine ⟨h, b, c :: post, ?_, hs, rfl, hb, ?_, rfl, Touches.refl h, by simp⟩
      · simp [Heap.coalesceNext, hnext, hused, hc]
      · exact List.isChain_cons_cons.mpr ⟨.inr hc, hpost⟩
    | false =>
      obtain ⟨k, h', hrem, rfl, hlisted, ht⟩ := hs.merge hb hc
      refine ⟨_, b.absorb c, post, ?_, hlisted, rfl, hb, ?_, ?_, ht, by simp⟩
      · simp [Heap.coalesceNext, hnext, hused, hc, hc0, hrem]
      · exact hpost.congr (by simp [hb, hc])
      · rw [usedBlocks_cons_free hc]

/-- The second half of `coalesce_blocks` leaves no free neighbour before it. -/
lemma Listed.coalescePrev (hs : h.Listed (pre ++ b :: post)) (hb : b.used = false)
    (hpre : Coalesced pre) (hpost : Coalesced (b :: post)) :
    ∃ h' bs', h.coalescePrev b.addr = some h' ∧ h'.Listed bs' ∧ Coalesced bs' ∧
      usedBlocks bs' = usedBlocks (pre ++ post) ∧
      Touches ((pre ++ b :: post).map Block.addr) h h' := by
  have hprev := hs.chain.header.prev
  rcases List.eq_nil_or_concat pre with rfl | ⟨pre, d, rfl⟩
  · refine ⟨h, b :: post, ?_, hs, hpost, usedBlocks_cons_free hb, Touches.refl h⟩
    simp [Heap.coalescePrev, hprev, lastAddr]
  · rw [List.concat_eq_append] at *
    have hd0 : d.addr ≠ 0 := (hs.addr_pos (by simp)).ne'
    have hs' : h.Listed (pre ++ d :: b :: post) := by simpa using hs
    have hused := hs'.chain.header.blockIsUsed
    have hprev' : h.get b.addr .prev = d.addr := by simpa [lastAddr] using hprev
    cases hd : d.used with
    | true =>
      refine ⟨h, pre ++ [d] ++ b :: post, ?_, hs, ?_, ?_, Touches.refl h⟩
      · simp [Heap.coalescePrev, hprev', hused, hd]
      · rw [coalesced_split, List.append_assoc]
        refine ⟨List.isChain_split.mpr ⟨hpre, ?_⟩, hpost⟩
        exact List.isChain_cons_cons.mpr ⟨.inl hd, List.isChain_singleton b⟩
      · simp [usedBlocks, List.filter_cons, hb]
    | false =>
      obtain ⟨k, h', hrem, rfl, hlisted, ht⟩ := hs'.merge hd hb
      refine ⟨_, pre ++ d.absorb b :: post, ?_, hlisted, ?_, ?_, by simpa using ht⟩
      · simp [Heap.coalescePrev, hprev', hused, hd, hd0, hrem]
      · exact coalesced_split.mpr ⟨hpre.congr (by simp), hpost.congr (by simp [hb, hd])⟩
      · simp [usedBlocks_cons_free (b := d.absorb b) hd, usedBlocks_cons_free hd]

/-- **`coalesce_blocks` restores maximal coalescing** around one free block, and touches no block
in use. -/
theorem Listed.coalesceBlocks (hs : h.Listed (pre ++ b :: post)) (hb : b.used = false)
    (hpre : Coalesced pre) (hpost : Coalesced post) :
    ∃ h' bs', h.coalesceBlocks b.addr = some h' ∧ h'.Listed bs' ∧ Coalesced bs' ∧
      usedBlocks bs' = usedBlocks (pre ++ post) ∧
      Touches ((pre ++ b :: post).map Block.addr) h h' := by
  obtain ⟨k, b', post', hrun, hk, haddr, hb', hpost', hused, ht, hsub⟩ := hs.coalesceNext hb hpost
  obtain ⟨h', bs', hrun', hlisted, hco, hused', ht'⟩ := hk.coalescePrev hb' hpre hpost'
  refine ⟨h', bs', ?_, hlisted, hco, by simpa [hused] using hused', ht.trans (ht'.mono ?_)⟩
  · have hb0 : b.addr ≠ 0 := (hs.addr_pos (by simp)).ne'
    have hmark := hs.chain.header.blockIsUsed
    rw [haddr] at hrun'
    simp [Heap.coalesceBlocks, hb0, hmark, hb, hrun, hrun']
  · simp only [List.map_append, List.map_cons, haddr, List.mem_append, List.mem_cons]
    rintro x (hx | hx | hx)
    · exact .inl hx
    · exact .inr (.inl hx)
    · exact .inr (.inr (List.map_subset _ hsub hx))

/-! ## Expansion -/

/-- The walk of `heap_expand` ends at the last block. -/
lemma lastBlock_eq {a p fuel : Nat} (hne : bs ≠ []) (ht : Tiles a bs h.heapEnd)
    (hsize : ∀ b ∈ bs, h.get b.addr .size = b.size) (hfuel : bs.length ≤ fuel) (ha : 0 < a) :
    h.lastBlock fuel a = some (lastAddr p bs) := by
  induction bs generalizing a p fuel with
  | nil => exact absurd rfl hne
  | cons b bs ih =>
    obtain ⟨rfl, hmin, hal, hrest⟩ := ht
    obtain ⟨fuel, rfl⟩ : ∃ n, fuel = n + 1 := ⟨fuel - 1, by simp at hfuel; omega⟩
    have hnext := blockGetNextPhysical_eq (hsize b (by simp)) hal hrest
    cases bs with
    | nil => simp [lastBlock, hnext, lastAddr]
    | cons c bs =>
      have hc : c.addr = b.addr + b.size := hrest.1
      have hc0 : c.addr ≠ 0 := by omega
      have hnext : h.blockGetNextPhysical b.addr = c.addr := hnext
      simp only [lastBlock, hnext, if_neg hc0]
      rw [hc]
      exact ih (p := b.addr) (by simp) hrest (fun d hd => hsize d (by simp [hd])) (by simpa using hfuel)
        (by omega)

lemma Shape.extend {k : Heap} {fl : List Nat} {s : Nat} (hs : h.Shape bs fl)
    (hk : FreshHeader h k h.heapEnd s (lastAddr 0 bs)) (hmin : 64 ≤ s) (hal : s % 16 = 0)
    (hend : h.heapEnd + s < 2 ^ 63) (st : HeapStats) :
    Shape { k with heapEnd := k.heapEnd + s, stats := st } (bs ++ [⟨h.heapEnd, s, false⟩]) fl := by
  have hget : ∀ y f, { k with heapEnd := k.heapEnd + s, stats := st }.get y f = k.get y f :=
    fun _ _ => get_congr rfl
  have hold : ∀ y ∈ bs.map Block.addr, ∀ f,
      { k with heapEnd := k.heapEnd + s, stats := st }.get y f = h.get y f := fun y hy f => by
    obtain ⟨b, hb, rfl⟩ := List.mem_map.mp hy
    have := (hs.tiles.mem_bounds hb).2
    have := (hs.tiles.mem_size hb).1
    rw [hget, hk.other _ _ (.inl (by omega))]
  refine ⟨?_, ?_, ?_, ?_, ?_, hs.sorted, ?_⟩
  · exact hk.touches.heapStart ▸ hs.start_pos
  · simpa [hk.touches.heapEnd] using hend
  · refine Tiles.append.mpr ⟨h.heapEnd, ?_, rfl, hmin, hal, ?_⟩
    · exact hk.touches.heapStart ▸ hs.tiles
    · simp [Tiles, hk.touches.heapEnd]
  · refine Chain.append.mpr ⟨hs.chain.congr fun b hb f _ => hold _ (List.mem_map_of_mem hb) f,
      hk.header.congr fun f _ => hget _ f, trivial⟩
  · have hlist : Seg _ k.freeList fl 0 := hk.list ▸ hs.list
    exact hlist.congr fun y hy => hold y (hs.listed hy) .next
  · exact fun y hy => by simpa using .inl (by simpa using hs.listed hy)

end Heap

end AAAos
