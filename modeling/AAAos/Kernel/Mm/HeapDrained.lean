import AAAos.Kernel.Mm.HeapClients

/-!
# The heap when everything has been freed

A coalesced tiling without a block in use is one block: two blocks would be free neighbours.  So
once no allocation is live the heap is again the single free block it was after `heap_init`, over
all of what it has grown to, whatever was allocated, resized and expanded before and in whatever
order the blocks were freed.
-/

namespace AAAos

lemma Coalesced.length_le_one {bs : List Block} (h : Coalesced bs) (hfree : usedBlocks bs = []) : bs.length ≤ 1 := by
  rcases bs with _ | ⟨b, _ | ⟨c, bs⟩⟩
  · exact Nat.zero_le 1
  · exact le_rfl
  · have hnone : ∀ d ∈ b :: c :: bs, ¬ d.used = true := List.filter_eq_nil_iff.mp hfree
    rcases (List.isChain_cons_cons.mp h).1 with hb | hc
    · exact absurd hb (hnone b (by simp))
    · exact absurd hc (hnone c (by simp))

/-- The one block that covers the region. -/
def Heap.wholeBlock (h : Heap) : Block := ⟨h.heapStart, h.heapEnd - h.heapStart, false⟩

lemma Heap.Sound.eq_wholeBlock {h : Heap} {bs : List Block} (hs : h.Sound bs)
    (hfree : usedBlocks bs = []) : bs = [h.wholeBlock] := by
  have hone := hs.coalesced.length_le_one hfree
  rcases bs with _ | ⟨⟨addr, size, used⟩, _ | ⟨c, bs⟩⟩
  · exact absurd rfl hs.nonempty
  · obtain ⟨haddr, -, -, hend⟩ := hs.listed.tiles
    have hunused : used = false := by
      cases used with
      | false => rfl
      | true => cases hfree
    have hsize : size = h.heapEnd - h.heapStart := Nat.eq_sub_of_add_eq' hend
    rw [Heap.wholeBlock, ← hsize, hunused, show addr = h.heapStart from haddr]
  · simp at hone

namespace HeapMachine

variable {m : HeapMachine}

lemma Inv.usedBlocks_eq_nil (hm : m.Inv) (hlive : m.live = ∅) : ∃ bs, m.heap.Sound bs ∧ usedBlocks bs = [] := by
  obtain ⟨bs, hs, hheld⟩ := hm
  refine ⟨bs, hs, List.eq_nil_iff_forall_not_mem.mpr fun b hb => ?_⟩
  have hmem : b.addr + headerSize ∈ m.live := (hheld _).mpr ⟨b, hb, rfl⟩
  rw [hlive] at hmem
  exact Finset.notMem_empty _ hmem

lemma Inv.drained (hm : m.Inv) (hlive : m.live = ∅) : Represents m.heap [m.heap.wholeBlock] := by
  obtain ⟨bs, hs, hfree⟩ := hm.usedBlocks_eq_nil hlive
  obtain rfl := hs.eq_wholeBlock hfree
  exact ⟨hs.listed.tiles, hs.listed.chain, hs.listed.list, hs.listed.sorted, hs.coalesced⟩

/-- **Full coalescing.**  After every run of legal calls at whose end no allocation is live, the
heap is the single free block from `heap_start` to `heap_end`. -/
theorem drained_of_heapInit (info : Option BootInfo) (boots : List PmmCall) (p : PmmMachine)
    (hboot : Steps PmmMachine.Step (PmmMachine.boot info) boots p)
    (mem : Mem) (start initialSize : UInt64) (h : Heap)
    (hinit : (Heap.uninitialised p.pmm mem).heapInit start initialSize = (true, h))
    (calls : List HeapCall) (m : HeapMachine) (hrun : Steps Step ⟨h, ∅⟩ calls m)
    (hlive : m.live = ∅) : Represents m.heap [m.heap.wholeBlock] :=
  (inv_of_heapInit hboot hinit hrun).drained hlive

/-- Two allocations, freed in the order in which they were made. -/
def twoFreed : HeapMachine := twoAllocations.after (.kfree 0x1000B0)

theorem drained_twoFreed : Represents twoFreed.heap [⟨0x100000, 4096, false⟩] := by
  have hrun : Steps Step ⟨onePage.2, ∅⟩
      [.kmalloc 100, .kmalloc 8, .kfree 0x100020, .kfree 0x1000B0] twoFreed :=
    Steps.append run_twoAllocations (.cons (step_after (.inr (by decide +kernel)) (by decide +kernel)) (.nil _))
  have hwhole : twoFreed.heap.wholeBlock = ⟨0x100000, 4096, false⟩ := by decide +kernel
  exact hwhole ▸ drained_of_heapInit PmmMachine.threePages [] _ (.nil _) (fun _ => 0) 0 4096
    onePage.2 onePage_init _ _ hrun (by decide +kernel)

end HeapMachine

end AAAos
