import AAAos.Kernel.Mm.HeapFreeList

/-!
# Splitting, merging and growing

`split_block`, `coalesce_blocks` and `heap_expand` replace a stretch of the tiling and then point
the block after it back to the new last block of that stretch.  `Shape.rebuild` is that step once:
the blocks before and after are framed, the new stretch brings its own headers, and `linkBack`
repairs the one `prev` field on the border.
-/

namespace AAAos

namespace Heap

variable {h k : Heap} {b c : Block} {bs pre mid mid' post : List Block} {fl : List Nat}
  {a e x y p q s v : Nat} {f : HeapField}

/-! ## The border after a stretch -/

/-- Point the first of the blocks `post` back to `p`. -/
def linkBack (h : Heap) (p : Nat) : List Block → Heap
  | [] => h
  | c :: _ => h.set c.addr .prev p

lemma blockGetNextPhysical_eq (hsize : h.get x .size = s) (hal : s % 16 = 0) (ht : Tiles (x + s) post h.heapEnd) :
    h.blockGetNextPhysical x = (post.head?.map Block.addr).getD 0 := by
  rw [← ht.next_eq, blockGetNextPhysical, blockGetSize, hsize, show s / 16 * 16 = s by omega]

/-- What the code does about the block after `x` is `linkBack`. -/
lemma linkBack_eq (hx : 0 < x) (hsize : h.get x .size = s) (hal : s % 16 = 0) (ht : Tiles (x + s) post h.heapEnd) :
    (if h.blockGetNextPhysical x ≠ 0 then h.set (h.blockGetNextPhysical x) .prev p else h)
      = h.linkBack p post := by
  rw [blockGetNextPhysical_eq hsize hal ht]
  cases post with
  | nil => rfl
  | cons c post =>
    have hc : c.addr ≠ 0 := by
      rw [ht.1]
      omega
    simp [linkBack, hc]

lemma get_linkBack (ht : Tiles a bs e) (hsub : ∀ c ∈ post, c ∈ bs) (hy : y ∈ bs.map Block.addr)
    (hne : f ≠ .prev ∨ ∀ c ∈ post, y ≠ c.addr) : (h.linkBack p post).get y f = h.get y f := by
  cases post with
  | nil => rfl
  | cons c post =>
    have hc : c.addr ∈ bs.map Block.addr := List.mem_map_of_mem (hsub c (by simp))
    exact get_set_ne (ht.header_apart hc hy) (hne.symm.imp (fun h => h c (by simp)) id)

lemma Chain.linkBack (hc : h.Chain q post) (ht : Tiles a post e) (hp : p < 2 ^ 63) :
    (h.linkBack p post).Chain p post := by
  cases post with
  | nil => trivial
  | cons c post =>
    refine ⟨⟨?_, get_set_self (hp.trans (by decide)), ?_, ?_⟩, hc.2.congr fun d hd f hf => ?_⟩
    · exact (get_set_field (by simp)).trans hc.1.size
    · exact (get_set_field (by simp)).trans hc.1.flags
    · exact (get_set_field (by simp)).trans hc.1.magic
    · have hne : d.addr ≠ c.addr := (show Tiles a ([] ++ c :: post) e from ht).addr_ne hd
      exact get_set_ne (ht.header_apart (by simp) (List.mem_map_of_mem (by simp [hd])))
        (.inl hne)

lemma Touches.linkBack {hs : List Nat} (hsub : ∀ c ∈ post, c.addr ∈ hs) : Touches hs h (h.linkBack p post) := by
  cases post with
  | nil => exact Touches.refl h
  | cons c post => exact Touches.set (hsub c (by simp))

/-- **Replacing a stretch of the tiling.**  `k` has the headers of the new stretch and agrees with
`h` on those before and after. -/
lemma Shape.rebuild (k : Heap) (mid' : List Block) (hs : h.Shape (pre ++ mid ++ post) fl)
    (htiles : Tiles h.heapStart (pre ++ mid' ++ post) h.heapEnd)
    (hstart : k.heapStart = h.heapStart) (hend : k.heapEnd = h.heapEnd)
    (hlist : k.freeList = h.freeList)
    (hk : ∀ c ∈ pre ++ post, ∀ f, f ≠ .next → k.get c.addr f = h.get c.addr f)
    (hmid : k.Chain (lastAddr 0 pre) mid') (hne : mid' ≠ [])
    (hnext : ∀ y ∈ fl, k.get y .next = h.get y .next)
    (hlisted : fl ⊆ (pre ++ mid' ++ post).map Block.addr) :
    (k.linkBack (lastAddr 0 (pre ++ mid')) post).Shape (pre ++ mid' ++ post) fl := by
  obtain ⟨p, hp⟩ : ∃ p, lastAddr 0 (pre ++ mid') = p := ⟨_, rfl⟩
  have hpost : ∀ c ∈ post, c ∈ pre ++ mid' ++ post := fun c hc => List.mem_append_right _ hc
  have hfields : (k.linkBack p post).heapStart = h.heapStart ∧
      (k.linkBack p post).heapEnd = h.heapEnd ∧ (k.linkBack p post).freeList = h.freeList := by
    cases post <;> simp [linkBack, hstart, hend, hlist]
  have hp63 : p < 2 ^ 63 := by
    have hmem : p ∈ (pre ++ mid').map Block.addr := hp ▸ lastAddr_mem (by simp [hne])
    obtain ⟨d, hd, rfl⟩ := List.mem_map.mp hmem
    have := (htiles.mem_bounds (List.mem_append_left post hd)).2
    have := hs.end_lt
    omega
  have hframe : ∀ y ∈ (pre ++ mid' ++ post).map Block.addr, ∀ f, f ≠ .prev ∨
      (∀ c ∈ post, y ≠ c.addr) → (k.linkBack p post).get y f = k.get y f := fun y hy f hf =>
    get_linkBack htiles hpost hy hf
  obtain ⟨hfront, hback⟩ := Chain.append.mp hs.chain
  have hfront' : k.Chain 0 (pre ++ mid') := by
    refine Chain.append.mpr ⟨(Chain.append.mp hfront).1.congr fun c hc f hf => ?_, hmid⟩
    exact hk c (by simp [hc]) f hf
  have hback' : k.Chain (lastAddr 0 (pre ++ mid)) post :=
    hback.congr fun c hc f hf => hk c (by simp [hc]) f hf
  obtain ⟨m, -, htpost⟩ := Tiles.append.mp htiles
  rw [hp]
  refine ⟨?_, ?_, ?_, Chain.append.mpr ⟨?_, ?_⟩, ?_, hs.sorted, hlisted⟩
  · exact hfields.1 ▸ hs.start_pos
  · exact hfields.2.1 ▸ hs.end_lt
  · rw [hfields.1, hfields.2.1]
    exact htiles
  · refine hfront'.congr fun c hc f _ => hframe c.addr (List.mem_map_of_mem (by simp at hc ⊢; tauto)) f
      (.inr fun d hd => (htiles.lt_of_append hc hd).ne)
  · rw [hp]
    exact hback'.linkBack htpost hp63
  · rw [hfields.2.2]
    refine hs.list.congr fun y hy => ?_
    rw [hframe y (hlisted hy) _ (.inl (by simp)), hnext y hy]

/-! ## Merging -/

/-- Giving `b` the size of itself and its successor and linking what follows back removes the
successor from the tiling.  `k` may differ from the store in its statistics. -/
lemma Shape.absorb (hs : h.Shape (pre ++ b :: c :: post) fl) (hc : c.addr ∉ fl)
    (hk : Touches ((pre ++ b :: c :: post).map Block.addr) h k) (hlist : k.freeList = h.freeList)
    (hget : ∀ y f, k.get y f = (h.set b.addr .size (b.size + c.size)).get y f) :
    ∃ h', (if k.blockGetNextPhysical b.addr ≠ 0
        then k.set (k.blockGetNextPhysical b.addr) .prev b.addr else k) = h' ∧
      h'.Shape (pre ++ b.absorb c :: post) fl ∧
      Touches ((pre ++ b :: c :: post).map Block.addr) h h' := by
  obtain ⟨m, htpre, hbm, hbmin, hbal, hcm, hcmin, hcal, htpost⟩ := Tiles.append.mp hs.tiles
  have htiles : Tiles h.heapStart (pre ++ b.absorb c :: post) h.heapEnd := by
    refine Tiles.append.mpr ⟨m, htpre, hbm, ?_, ?_, by simpa [Nat.add_assoc] using htpost⟩
    all_goals simp only [Block.absorb_size]; omega
  have hsize : b.size + c.size < 2 ^ 63 := by
    have := htpost.bounds
    have := hs.end_lt
    omega
  have hb : b.addr ∈ (pre ++ b :: c :: post).map Block.addr := by simp
  have hbhdr := hs.chain.header
  have hs' : h.Shape (pre ++ [b, c] ++ post) fl := by simpa using hs
  have hbsize : k.get b.addr .size = b.size + c.size := by
    rw [hget]
    exact get_set_self (hsize.trans (by decide))
  have hrun := linkBack_eq (p := b.addr) (hs.addr_pos hb) hbsize (by omega)
    (show Tiles (b.addr + (b.size + c.size)) post k.heapEnd by rw [hk.heapEnd]; simpa [hbm, Nat.add_assoc] using htpost)
  have hshape := hs'.rebuild k [b.absorb c] (by simpa using htiles) hk.heapStart hk.heapEnd hlist
    (fun d hd f _ => ?_) ⟨⟨hbsize, ?_, ?_, ?_⟩, trivial⟩ (by simp) (fun y hy => ?_) ?_
  · refine ⟨_, hrun, by simpa [lastAddr] using hshape, hk.trans (Touches.linkBack fun d hd => ?_)⟩
    exact List.mem_map_of_mem (by simp [hd])
  · have hd' : d ∈ pre ++ c :: post := by
      simp only [List.mem_append, List.mem_cons] at hd ⊢
      tauto
    rw [hget, hs.get_set hb (List.mem_map_of_mem (by simp at hd' ⊢; tauto))
      (.inl (hs.tiles.addr_ne hd'))]
  · rw [hget]
    exact (get_set_field (by simp)).trans hbhdr.prev
  · rw [hget]
    exact (get_set_field (by simp)).trans hbhdr.flags
  · rw [hget]
    exact (get_set_field (by simp)).trans hbhdr.magic
  · rw [hget, hs.get_set hb (hs.listed hy) (.inr (by simp))]
  · intro y hy
    have hyc : y ≠ c.addr := fun hyc => hc (hyc ▸ hy)
    have := hs.listed hy
    simp only [List.map_append, List.map_cons, List.mem_append, List.mem_cons] at this ⊢
    simp only [Block.absorb_addr]
    tauto

/-- **A merge removes the second block from the tiling.** -/
theorem Shape.resizeOver (hs : h.Shape (pre ++ b :: c :: post) fl) (hc : c.addr ∉ fl) :
    (h.resizeOver b.addr (b.size + c.size)).Shape (pre ++ b.absorb c :: post) fl ∧
      Touches ((pre ++ b :: c :: post).map Block.addr) h
        (h.resizeOver b.addr (b.size + c.size)) := by
  obtain ⟨h', hrun, hshape, ht⟩ := hs.absorb hc
    (k := h.set b.addr .size (b.size + c.size)) (Touches.set (by simp)) (by simp) fun _ _ => rfl
  rw [Heap.resizeOver, hrun]
  exact ⟨hshape, ht⟩

/-! ## Writing a new header -/

/-- `k` is `h` with the header of a free block of size `s` and predecessor `p` written at `x`. -/
structure FreshHeader (h k : Heap) (x s p : Nat) : Prop where
  touches : Touches [x] h k
  list : k.freeList = h.freeList
  other : ∀ y f, y + 32 ≤ x ∨ x + 32 ≤ y → k.get y f = h.get y f
  header : k.Header ⟨x, s, false⟩ p

/-- The three callers store the fields in different orders; what counts is what is there when
`block_set_free` finishes the header. -/
lemma FreshHeader.of_fields (ht : Touches [x] h k) (hlist : k.freeList = h.freeList)
    (hother : ∀ y f, y + 32 ≤ x ∨ x + 32 ≤ y → k.get y f = h.get y f)
    (hsize : k.get x .size = s) (hprev : k.get x .prev = p) (hflags : k.get x .flags = 0) :
    FreshHeader h (k.blockSetFree x) x s p := by
  refine ⟨ht.trans (Touches.blockSetFree (by simp)), by simp [hlist], fun y f hy => ?_,
    ⟨?_, ?_, ?_, ?_⟩⟩
  · rw [blockSetFree, get_set_apart hy, get_set_apart hy, hother y f hy]
  · simp [blockSetFree, hsize]
  · simp [blockSetFree, hprev]
  · simp [blockSetFree, hflags]
  · simpa [blockSetFree, HeapField.width] using by decide

/-! ## Splitting -/

/-- The header that `split_block` writes into the payload of the block. -/
lemma freshHeader_split (hs : s < 2 ^ 63) (hp : p < 2 ^ 63) :
    FreshHeader h (((((h.set x .size s).set x .prev p).set x .next 0).set x .flags 0).blockSetFree x)
      x s p := by
  have hx : x ∈ [x] := by simp
  refine .of_fields ?_ (by simp) (fun y f hy => by simp only [get_set_apart hy]) ?_ ?_ (by simp)
  · exact (((Touches.set hx).trans (Touches.set hx)).trans (Touches.set hx)).trans (Touches.set hx)
  all_goals simp [HeapField.width]; omega

variable {l₁ l₂ : List Nat}

/-- The tiling and the headers after a split, before the rest goes on the free list. -/
lemma Shape.cut (hs : h.Shape (pre ++ b :: post) fl) (hmin : 64 ≤ s) (hal : s % 16 = 0)
    (hrest : 64 ≤ b.size - s) (hk : FreshHeader h k (b.addr + s) (b.size - s) b.addr) :
    ((k.set b.addr .size s).linkBack (b.addr + s) post).Shape
      (pre ++ { b with size := s } :: ⟨b.addr + s, b.size - s, false⟩ :: post) fl := by
  have hb : b.addr ∈ (pre ++ b :: post).map Block.addr := by simp
  have hlt : s < 2 ^ 63 := by
    have := (hs.tiles.mem_bounds (b := b) (by simp)).2
    have := hs.end_lt
    omega
  have hold : ∀ y ∈ (pre ++ b :: post).map Block.addr, ∀ f, y ≠ b.addr ∨ f ≠ .size →
      (k.set b.addr .size s).get y f = h.get y f := fun y hy f hf =>
    (hs.get_set hb hy hf k).trans (hk.other y f (hs.tiles.split_apart hmin hrest hy))
  have hnew : ∀ f, (k.set b.addr .size s).get (b.addr + s) f = k.get (b.addr + s) f := fun f =>
    get_set_apart (.inr (by omega))
  have hbhdr := hs.chain.header
  have hs' : h.Shape (pre ++ [b] ++ post) fl := by simpa using hs
  have htiles := hs.tiles.split hmin hal hrest
  have hshape := hs'.rebuild (k.set b.addr .size s)
    [{ b with size := s }, ⟨b.addr + s, b.size - s, false⟩] (by simpa using htiles)
    (by simp [hk.touches.heapStart]) (by simp [hk.touches.heapEnd]) (by simp [hk.list])
    (fun d hd f _ => ?_)
    ⟨⟨get_set_self (hlt.trans (by decide)), ?_, ?_, ?_⟩, hk.header.congr fun f _ => hnew f, trivial⟩
    (by simp) (fun y hy => hold y (hs.listed hy) _ (.inr (by simp))) ?_
  · simpa [lastAddr] using hshape
  · exact hold d.addr (List.mem_map_of_mem (by simp at hd ⊢; tauto)) f (.inl (hs.tiles.addr_ne hd))
  · exact (hold b.addr hb .prev (.inr (by simp))).trans hbhdr.prev
  · exact (hold b.addr hb .flags (.inr (by simp))).trans hbhdr.flags
  · exact (hold b.addr hb .magic (.inr (by simp))).trans hbhdr.magic
  · intro y hy
    have := hs.listed hy
    simp only [List.map_append, List.map_cons, List.mem_append, List.mem_cons] at this ⊢
    tauto

/-- `split_block` when the rest is large enough: `k` has the new header, `k'` also the two repairs
around it. -/
lemma splitBlock_eq {k' h' : Heap} {t : Nat} (hsize : h.blockGetSize x = t) (hrest : ¬ t - s < 64)
    (hk : ((((h.set (x + s) .size (t - s)).set (x + s) .prev x).set (x + s) .next 0).set
      (x + s) .flags 0).blockSetFree (x + s) = k)
    (hlink : (if (k.set x .size s).blockGetNextPhysical (x + s) ≠ 0
      then (k.set x .size s).set ((k.set x .size s).blockGetNextPhysical (x + s)) .prev (x + s)
      else k.set x .size s) = k')
    (hadd : k'.freeListAdd (x + s) = some h') :
    ∃ st, h.splitBlock x s = some { h' with stats := st } := by
  refine ⟨{ h'.stats with blockCount := h'.stats.blockCount + 1 }, ?_⟩
  simp only [Heap.splitBlock, hsize, headerSize, if_neg hrest, hk, hlink, hadd, Option.bind_eq_bind, Option.bind_some]

/-- **`split_block`.**  The block keeps at least `s` bytes; what is cut off, if anything, is one
free block on the list. -/
theorem Shape.splitBlock (hs : h.Shape (pre ++ b :: post) (l₁ ++ l₂))
    (hlt : ∀ y ∈ l₁, y < b.addr) (hgt : ∀ y ∈ l₂, b.addr + b.size ≤ y)
    (hmin : 64 ≤ s) (hal : s % 16 = 0) (hle : s ≤ b.size) :
    ∃ h' b' rest, h.splitBlock b.addr s = some h' ∧ b'.addr = b.addr ∧ b'.used = b.used ∧
      s ≤ b'.size ∧ (rest = [] ∨ ∃ r, rest = [r] ∧ r.used = false) ∧
      h'.Shape (pre ++ b' :: (rest ++ post)) (l₁ ++ (freeAddrs rest ++ l₂)) ∧
      Touches ((pre ++ b' :: (rest ++ post)).map Block.addr) h h' := by
  obtain ⟨m, -, rfl, -, hbal, htpost⟩ := Tiles.append.mp hs.tiles
  have hbsize := hs.chain.header.blockGetSize hbal
  by_cases hrest : b.size - s < 64
  · refine ⟨h, b, [], ?_, rfl, rfl, hle, .inl rfl, hs, Touches.refl h⟩
    simp only [Heap.splitBlock, hbsize, headerSize, if_pos hrest]
  · have hbounds := (hs.tiles.mem_bounds (b := b) (by simp)).2
    have hend := hs.end_lt
    obtain ⟨k, hk⟩ : ∃ k, ((((h.set (b.addr + s) .size (b.size - s)).set (b.addr + s) .prev
      b.addr).set (b.addr + s) .next 0).set (b.addr + s) .flags 0).blockSetFree (b.addr + s) = k :=
      ⟨_, rfl⟩
    have hfresh : FreshHeader h k (b.addr + s) (b.size - s) b.addr :=
      hk ▸ freshHeader_split (by omega) (by omega)
    have hnsize : (k.set b.addr .size s).get (b.addr + s) .size = b.size - s :=
      (get_set_apart (.inr (by omega))).trans hfresh.header.size
    have hlink := linkBack_eq (p := b.addr + s) (by omega) hnsize (by omega)
      (show Tiles (b.addr + s + (b.size - s)) post _ by
        rw [show b.addr + s + (b.size - s) = b.addr + b.size by omega, set_heapEnd,
          hfresh.touches.heapEnd]
        exact htpost)
    have hcut := hs.cut hmin hal (by omega) hfresh
    rw [show pre ++ { b with size := s } :: ⟨b.addr + s, b.size - s, false⟩ :: post =
      (pre ++ [{ b with size := s }]) ++ ⟨b.addr + s, b.size - s, false⟩ :: post by simp] at hcut
    obtain ⟨h', hadd, hshape, ht⟩ := hcut.freeListAdd
      (fun y hy => Nat.lt_of_lt_of_le (hlt y hy) (Nat.le_add_right _ _))
      (fun y hy => Nat.lt_of_lt_of_le (by dsimp only; omega) (hgt y hy))
    obtain ⟨st, hrun⟩ := splitBlock_eq hbsize hrest hk hlink hadd
    refine ⟨_, { b with size := s }, [⟨b.addr + s, b.size - s, false⟩], hrun, rfl, rfl, le_rfl,
      .inr ⟨_, rfl, rfl⟩, ?_, ?_⟩
    · simpa [freeAddrs] using hshape.stats st
    · refine Touches.stats (Touches.trans ?_ (ht.mono (by simp))) st
      refine Touches.trans (hfresh.touches.mono (by simp)) (Touches.trans (Touches.set (by simp))
        (Touches.linkBack fun c hc => List.mem_map_of_mem (by simp [hc])))

end Heap

end AAAos
