import AAAos.Kernel.Mm.HeapClients

/-!
# What krealloc does to the bytes

`krealloc` has three ways to answer a pointer: it keeps the block, absorbs the free block behind it
and splits off the rest, or allocates, copies and frees.  All three leave the bytes of the old
payload at the new one and do not touch the payload of any other live allocation.  When it answers
null, which is after a failed allocation that may already have expanded the heap, nothing a client
holds has changed.
-/

namespace AAAos

namespace Heap

variable {h h' : Heap} {b : Block} {bs pre post : List Block}

/-- The first `n` payload bytes at `q` in `h'` are those at `p` in `h`. -/
def Copied (n : Nat) (h h' : Heap) (p q : Nat) : Prop := ∀ i < n, h'.mem (q + i) = h.mem (p + i)

lemma KeepsPayloads.copied {us : List Block} (hk : KeepsPayloads us h h') (hb : b ∈ us) :
    Copied (b.size - headerSize) h h' (b.addr + headerSize) (b.addr + headerSize) := by
  intro i hi
  simp only [headerSize] at hi ⊢
  exact hk b hb _ (by omega) (by omega)

/-- **Moving a block copies it**: the new payload holds the old one, and a failed allocation leaves
the block as well as the others. -/
lemma Sound.moveBlock_copies {newSize : UInt64} {r : Nat} (hs : h.Sound (pre ++ b :: post))
    (hb : b.used = true) (hsize : newSize.toNat ≤ heapMaxSize)
    (hlarge : b.size ≤ newSize.toNat + headerSize)
    (hrun : h.moveBlock (b.addr + headerSize) (b.size - headerSize) newSize = some (r, h')) :
    (r = 0 → KeepsPayloads (usedBlocks (pre ++ b :: post)) h h') ∧
      (r ≠ 0 → Copied (b.size - headerSize) h h' (b.addr + headerSize) r) := by
  obtain ⟨r₁, k, bs₁, hmalloc, hs₁, hkeep, hout⟩ := hs.kmalloc (.inl hsize)
  have hbused : b ∈ usedBlocks (pre ++ b :: post) := by simp [mem_usedBlocks, hb]
  by_cases hr : r₁ = 0
  · simp only [Heap.moveBlock, hmalloc, Option.bind_eq_bind, Option.bind_some, if_pos hr,
      Option.some.injEq, Prod.mk.injEq] at hrun
    obtain ⟨rfl, rfl⟩ := hrun
    exact ⟨fun _ => hkeep, fun h => absurd rfl h⟩
  have hall := hout.resolve_left fun hnull => hr hnull.1
  obtain ⟨d, hd, hdused, hrd, hroom, hapart⟩ := hall.apart hs₁
  obtain ⟨m, hm⟩ : ∃ m, copyBytes k.mem r₁ (b.addr + headerSize) (b.size - headerSize) = m := ⟨_, rfl⟩
  have hbd := (hapart b hbused).2
  have houtside : ∀ a, a < d.addr + 32 ∨ d.addr + d.size ≤ a → m a = k.mem a := fun a ha =>
    hm ▸ copyBytes_outside (by simp only [headerSize] at *; omega)
  have hs₂ := hs₁.writePayload hd houtside
  have hbmem : b ∈ bs₁ := (hapart b hbused).1
  obtain ⟨pre₁, post₁, rfl⟩ := List.append_of_mem hbmem
  obtain ⟨h₁, bs', hfree, hs', hused, hkeep'⟩ := hs₂.kfree hb
  simp only [Heap.moveBlock, hmalloc, Option.bind_eq_bind, Option.bind_some, if_neg hr, hm, hfree,
    Option.some.injEq, Prod.mk.injEq] at hrun
  obtain ⟨rfl, rfl⟩ := hrun
  have hne : d.addr ≠ b.addr := by
    have := (hs₁.listed.tiles.mem_size hd).1
    have := (hs₁.listed.tiles.mem_size hbmem).1
    omega
  have hdkept : d ∈ usedBlocks (pre₁ ++ post₁) :=
    (mem_usedBlocks_remove hs₁.listed.tiles).mpr ⟨mem_usedBlocks.mpr ⟨hd, hdused⟩, hne⟩
  refine ⟨fun h0 => absurd h0 hr, fun _ i hi => ?_⟩
  simp only [headerSize] at hrd hroom hi hlarge hm
  calc h₁.mem (r₁ + i) = m (r₁ + i) := hkeep' d hdkept _ (by omega) (by omega)
    _ = k.mem (b.addr + headerSize + i) := by
        rw [← hm, headerSize, copyBytes_apply (by omega) hi]
    _ = h.mem (b.addr + headerSize + i) :=
        hkeep b hbused _ (by simp only [headerSize]; omega) (by simp only [headerSize]; omega)

/-- **`krealloc` copies.** -/
lemma Sound.krealloc_copies {newSize : UInt64} {r : Nat} (hs : h.Sound (pre ++ b :: post))
    (hb : b.used = true) (hnz : newSize ≠ 0) (hsize : newSize.toNat ≤ heapMaxSize)
    (hrun : h.krealloc (b.addr + headerSize) newSize = some (r, h')) :
    (r = 0 → KeepsPayloads (usedBlocks (pre ++ b :: post)) h h') ∧
      (r ≠ 0 → Copied (min (b.size - headerSize) newSize.toNat) h h' (b.addr + headerSize) r) := by
  obtain ⟨hmagic, hmark⟩ := hs.used_header hb
  obtain ⟨hbmin, hbal⟩ := hs.listed.tiles.mem_size (b := b) (by simp)
  have hbsize := hs.listed.chain.header.blockGetSize hbal
  rw [krealloc_eq hs.initialized hmagic hmark hnz hbsize] at hrun
  split_ifs at hrun with hfits hgrow
  · obtain ⟨rfl, rfl⟩ := Prod.mk.inj (Option.some.inj hrun)
    exact ⟨fun h0 => by simp [headerSize] at h0, fun _ _ _ => rfl⟩
  · obtain ⟨hmin, hal, hroom, -⟩ := actualSize_spec hsize
    have hnext := Shape.nextPhysical hs.listed
    cases post with
    | nil => exact absurd hnext hgrow.1
    | cons c post =>
      have hnext : h.blockGetNextPhysical b.addr = c.addr := hnext
      have hcsize := hs.listed.header_next.blockGetSize
        (hs.listed.tiles.mem_size (b := c) (by simp)).2
      rw [hnext, hs.listed.header_next.blockIsUsed, hcsize] at hgrow
      obtain ⟨h₁, b', bs', hrun', -, -, -, -, hkeep⟩ :=
        hs.growInPlace hb hgrow.2.1 hmin hal hgrow.2.2 (by simp only [headerSize] at *; omega)
      rw [hnext, hrun', Option.bind_eq_bind, Option.bind_some] at hrun
      obtain ⟨rfl, rfl⟩ := Prod.mk.inj (Option.some.inj hrun)
      refine ⟨fun h0 => by simp [headerSize] at h0, fun _ i hi => ?_⟩
      exact hkeep.copied (by simp [mem_usedBlocks, hb]) i (lt_of_lt_of_le hi (min_le_left _ _))
  · obtain ⟨hnull, hcopy⟩ :=
      hs.moveBlock_copies hb hsize (by simp only [headerSize] at *; omega) hrun
    exact ⟨hnull, fun hr i hi => hcopy hr i (lt_of_lt_of_le hi (min_le_left _ _))⟩

end Heap

namespace HeapMachine

variable {m : HeapMachine} {h' : Heap} {bs bs' : List Block}

/-- The payload at `q` reaches as far as before and holds the same bytes. -/
def SamePayload (h h' : Heap) (q : Nat) : Prop :=
  payloadEnd h' q = payloadEnd h q ∧ ∀ a, q ≤ a → a < payloadEnd h q → h'.mem a = h.mem a

/-- What a client may rely on when it resizes the allocation at `ptr`. -/
structure Resized (m : HeapMachine) (ptr : Nat) (newSize : UInt64) (r : Nat) (h' : Heap) : Prop where
  null : r = 0 → ∀ q ∈ m.live, SamePayload m.heap h' q
  room : r ≠ 0 → r + newSize.toNat ≤ payloadEnd h' r
  data : r ≠ 0 → ∀ i < min (payloadEnd m.heap ptr - ptr) newSize.toNat,
    h'.mem (r + i) = m.heap.mem (ptr + i)
  others : r ≠ 0 → ∀ q ∈ m.live, q ≠ ptr → SamePayload m.heap h' q

lemma samePayload_of_keeps {us : List Block} {b : Block} (hs : m.heap.Sound bs) (hs' : h'.Sound bs')
    (hk : Heap.KeepsPayloads us m.heap h') (hb : b ∈ us) (hmem : b ∈ bs) (hmem' : b ∈ bs') :
    SamePayload m.heap h' (b.addr + headerSize) := by
  have hend := payloadEnd_eq hs hmem
  refine ⟨(payloadEnd_eq (m := ⟨h', ∅⟩) hs' hmem').trans hend.symm, fun a hlo hhi => ?_⟩
  rw [hend] at hhi
  exact hk b hb a hlo hhi

/-- **`krealloc` preserves data and frames the rest**, on the invariant. -/
lemma Inv.resized (hm : m.Inv) {ptr : Nat} (hptr : ptr ∈ m.live) {newSize : UInt64}
    (hnz : newSize ≠ 0) (hsize : newSize.toNat ≤ heapMaxSize) :
    ∃ r h', m.heap.krealloc ptr newSize = some (r, h') ∧ m.Resized ptr newSize r h' := by
  obtain ⟨bs, hs, hlive⟩ := hm
  obtain ⟨pre, b, post, rfl, hb, rfl⟩ := exists_split hlive hptr
  obtain ⟨r, h', bs', hrun, hs', hkeep, hout⟩ := hs.krealloc hb hnz (.inl hsize)
  obtain ⟨hnull, hcopy⟩ := hs.krealloc_copies hb hnz hsize hrun
  have hend := payloadEnd_eq (m := m) hs (b := b) (by simp)
  refine ⟨r, h', hrun, fun hr q hq => ?_, fun hr => ?_, fun hr => ?_, fun hr q hq hne => ?_⟩
  · -- the blocks in use are the same, and so are their payloads
    obtain ⟨c, hc, rfl⟩ := (hlive q).mp hq
    have hused : usedBlocks bs' = usedBlocks (pre ++ b :: post) := by
      rcases hout with ⟨-, hused⟩ | ⟨d, hd, -⟩
      · exact hused
      · simp only [headerSize] at hd
        omega
    exact samePayload_of_keeps hs hs' (hnull hr) hc (Heap.mem_usedBlocks.mp hc).1
      (Heap.mem_usedBlocks.mp (hused ▸ hc)).1
  · obtain ⟨d, hd, -, rfl, hroom, -⟩ := (hout.resolve_left fun h0 => hr h0.1).apart hs'
    rw [payloadEnd_eq (m := ⟨h', ∅⟩) hs' hd]
    simp only [headerSize] at hroom ⊢
    omega
  · rw [hend, show b.addr + b.size - (b.addr + headerSize) = b.size - headerSize by omega]
    exact hcopy hr
  · obtain ⟨c, hc, rfl⟩ := (hlive q).mp hq
    have hc' : c ∈ usedBlocks (pre ++ post) :=
      (Heap.mem_usedBlocks_remove hs.listed.tiles).mpr ⟨hc, fun heq => hne (by rw [heq])⟩
    obtain ⟨d, -, -, -, -, hapart⟩ := (hout.resolve_left fun h0 => hr h0.1).apart hs'
    exact samePayload_of_keeps hs hs' hkeep hc' (Heap.mem_usedBlocks.mp hc).1 (hapart c hc').1

/-- **`krealloc` preserves data and frames the rest.**  In every state reached from `heap_init`, for
every live pointer and every size from 1 to `HEAP_MAX_SIZE`. -/
theorem resized_of_heapInit (info : Option BootInfo) (boots : List PmmCall) (p : PmmMachine)
    (hboot : Steps PmmMachine.Step (PmmMachine.boot info) boots p)
    (mem : Mem) (start initialSize : UInt64) (h : Heap)
    (hinit : (Heap.uninitialised p.pmm mem).heapInit start initialSize = (true, h))
    (calls : List HeapCall) (m : HeapMachine) (hrun : Steps Step ⟨h, ∅⟩ calls m)
    (ptr : Nat) (hptr : ptr ∈ m.live) (newSize : UInt64) (hnz : newSize ≠ 0)
    (hsize : newSize.toNat ≤ heapMaxSize) :
    ∃ r h', m.heap.krealloc ptr newSize = some (r, h') ∧ m.Resized ptr newSize r h' :=
  (inv_of_heapInit hboot hinit hrun).resized hptr hnz hsize

/-- The second of two allocations is grown in place. -/
theorem resized_twoAllocations : ∃ r h', twoAllocations.heap.krealloc 0x1000B0 200 = some (r, h') ∧
    twoAllocations.Resized 0x1000B0 200 r h' :=
  resized_of_heapInit PmmMachine.threePages [] _ (.nil _) (fun _ => 0) 0 4096 onePage.2
    onePage_init _ _ run_twoAllocations 0x1000B0
    (by set_option maxRecDepth 8192 in with_unfolding_all decide) 200 (by decide) (by decide)

end HeapMachine

end AAAos
