import AAAos.Kernel.Mm.HeapAlignedSizes

/-!
# Every allocation is large enough

The runs in which every call meets its condition, for sizes of any magnitude: they keep the heap
sound, with the pointers held those of the blocks in use.  In every state that such a run reaches
the conditions are exact.
-/

namespace AAAos

namespace Heap

variable {h h' k : Heap} {b : Block} {bs pre post : List Block} {size alignment : UInt64} {r : Nat}

/-! ## What a call that fits does to the blocks -/

/-- No block, or one more. -/
def Answered (bs : List Block) (call : Option (Nat × Heap)) : Prop :=
  ∃ r k bs', call = some (r, k) ∧ k.Sound bs' ∧
    (r = 0 ∧ usedBlocks bs' = usedBlocks bs ∨ Allocated 0 (usedBlocks bs) (usedBlocks bs') r)

lemma Sound.kmalloc_answered (hs : h.Sound bs) (hwf : h.pmm.WellFormed) (hfit : h.Fits size) :
    Answered bs (h.kmalloc size) := by
  rcases hfit with hle | hno
  · obtain ⟨r, k, bs', hrun, hs', -, hout⟩ := hs.kmalloc (.inr ⟨hle, hwf⟩)
    exact ⟨r, k, bs', hrun, hs', hout.imp_right fun hall => hall.mono (Nat.zero_le _)⟩
  · obtain ⟨k, hrun, hs'⟩ := hs.kmalloc_refused hno
    exact ⟨0, k, bs, hrun, hs', .inl ⟨rfl, rfl⟩⟩

lemma Sound.kcalloc_answered (hs : h.Sound bs) (hwf : h.pmm.WellFormed) {count size : UInt64}
    (hfit : h.FitsProduct count size) : Answered bs (h.kcalloc count size) := by
  by_cases hover : 2 ^ 64 ≤ count.toNat * size.toNat
  · refine ⟨0, h, bs, ?_, hs, .inl ⟨rfl, rfl⟩⟩
    rw [Heap.kcalloc, if_pos ((overflow_iff count size).mpr hover)]
  rcases hfit.resolve_left hover with hle | hno
  · obtain ⟨r, k, bs', hrun, hs', -, hout⟩ := @Sound.kcalloc h bs hs count size (.inr ⟨hle, hwf⟩)
    exact ⟨r, k, bs', hrun, hs', hout.imp_right fun hall => hall.mono (Nat.zero_le _)⟩
  · obtain ⟨k, hrun, hs'⟩ := hs.kmalloc_refused hno
    refine ⟨0, k, bs, ?_, hs', .inl ⟨rfl, rfl⟩⟩
    rw [Heap.kcalloc, if_neg ((overflow_iff count size).not.mpr hover)]
    simp [hrun]

/-- The payload that `kmalloc_aligned` takes its address from, `0` for none. -/
def alignedBlock (h : Heap) (size alignment : UInt64) : Nat :=
  if size = 0 ∨ alignment &&& (alignment - 1) ≠ 0 then 0
  else ((h.kmalloc (slackSize size alignment)).map Prod.fst).getD 0

/-- `kmalloc_aligned` whose saved pointer goes to no header: the blocks are those after `kmalloc`. -/
lemma Sound.kmallocAligned_of_kmalloc (hs : h.Sound bs) (hpos : size ≠ 0) (htest : alignment &&& (alignment - 1) = 0)
    (hmalloc : ∃ r k bs', h.kmalloc (slackSize size alignment) = some (r, k) ∧ k.Sound bs' ∧
      (r = 0 ∧ usedBlocks bs' = usedBlocks bs ∨ Allocated 0 (usedBlocks bs) (usedBlocks bs') r) ∧
      (r ≠ 0 → Sound { k with mem := writeLE k.mem (savedSlot (alignedAddr r alignment)) 8 r } bs')) :
    ∃ a k bs', h.kmallocAligned size alignment = some (a, k) ∧ k.Sound bs' ∧
      (h.alignedBlock size alignment = 0 ∧ usedBlocks bs' = usedBlocks bs ∨
        Allocated 0 (usedBlocks bs) (usedBlocks bs') (h.alignedBlock size alignment)) := by
  obtain ⟨r, k, bs', hrun, hs', hout, hsaved⟩ := hmalloc
  have hblock : h.alignedBlock size alignment = r := by
    rw [alignedBlock, if_neg (by simp [hpos, htest]), hrun]
    rfl
  rw [kmallocAligned_eq hs.initialized hpos htest hrun, hblock]
  by_cases hr : r = 0
  · exact ⟨0, k, bs', by rw [if_pos hr], hs', hout⟩
  · exact ⟨_, _, bs', by rw [if_neg hr], hsaved hr, hout⟩

/-- **What `kmalloc_aligned` does to the blocks.** -/
lemma Sound.kmallocAligned_answered (hs : h.Sound bs) (hwf : h.pmm.WellFormed) (hfit : h.FitsAligned size alignment) :
    ∃ a k bs', h.kmallocAligned size alignment = some (a, k) ∧ k.Sound bs' ∧
      (h.alignedBlock size alignment = 0 ∧ usedBlocks bs' = usedBlocks bs ∨
        Allocated 0 (usedBlocks bs) (usedBlocks bs') (h.alignedBlock size alignment)) := by
  by_cases hpos : size = 0
  · refine ⟨0, h, bs, ?_, hs, .inl ⟨by rw [alignedBlock, if_pos (.inl hpos)], rfl⟩⟩
    rw [Heap.kmallocAligned, if_pos (.inr hpos)]
  by_cases htest : alignment &&& (alignment - 1) = 0
  swap
  · refine ⟨0, h, bs, ?_, hs, .inl ⟨by rw [alignedBlock, if_pos (.inr htest)], rfl⟩⟩
    rw [Heap.kmallocAligned, if_neg (by simp [hs.initialized, hpos]), if_pos htest]
  refine hs.kmallocAligned_of_kmalloc hpos htest ?_
  by_cases hzero : alignment = 0
  · -- every block will do: the saved pointer goes away from the heap
    obtain ⟨r, k, bs', hrun, hs', hout⟩ : Answered bs (h.kmalloc (slackSize size alignment)) := by
      by_cases hle : (slackSize size alignment).toNat ≤ 2 ^ 64 - 48
      · exact hs.kmalloc_answered hwf (.inl hle)
      rcases hfit with h0 | h0 | hfit | h0 | hno | ⟨-, hwrap | hwhole⟩
      · exact absurd h0 hpos
      · exact absurd htest h0
      · exact absurd (toNat_slackSize hfit ▸ hfit) hle
      · exact absurd h0 (toNat_ne_zero_of_big hle)
      · exact hs.kmalloc_answered hwf (.inr hno)
      · have hlt := size.toNat_lt
        have hnat : (slackSize size alignment).toNat = (size.toNat + 8) % 2 ^ 64 := by
          rw [slackSize, hzero, UInt64.toNat_add]
          rfl
        omega
      · obtain ⟨r, k, bs', hrun, hs', hall⟩ := hs.kmalloc_whole hle hwhole
        exact ⟨r, k, bs', hrun, hs', .inr hall⟩
    exact ⟨r, k, bs', hrun, hs', hout, fun _ => by
      rw [hzero, alignedAddr_zero]
      exact hs'.savedSlot_zero⟩
  · rcases hfit with h0 | h0 | hfit | h0 | hno | ⟨h0, -⟩
    · exact absurd h0 hpos
    · exact absurd htest h0
    · have htotal := toNat_slackSize hfit
      obtain ⟨r, k, bs', hrun, hs', -, hout⟩ := @Sound.kmalloc _ _ hs (slackSize size alignment)
        (.inr ⟨htotal ▸ hfit, hwf⟩)
      refine ⟨r, k, bs', hrun, hs', hout.imp_right fun hall => hall.mono (Nat.zero_le _), fun hr => ?_⟩
      obtain ⟨b, hb, -, rfl, hroom, -⟩ := (hout.resolve_left fun hnull => hr hnull.1).apart hs'
      exact (hs'.savedSlot_room hb htest hzero (htotal ▸ hroom)).2.2
    · exact ⟨0, h, bs, by simp [Heap.kmalloc, h0], hs, .inl ⟨rfl, rfl⟩, fun hr => absurd rfl hr⟩
    · obtain ⟨k, hrun, hs'⟩ := hs.kmalloc_refused hno
      exact ⟨0, k, bs, hrun, hs', .inl ⟨rfl, rfl⟩, fun hr => absurd rfl hr⟩
    · exact absurd h0 hzero

/-! ## The page allocator -/

lemma Expanded.wellFormed (hexp : Expanded h size k) (hwf : h.pmm.WellFormed) : k.pmm.WellFormed :=
  hexp.pmm ▸ hwf.pmmAllocPages _

lemma kmallocAligned_wellFormed (hwf : h.pmm.WellFormed)
    (hrun : h.kmallocAligned size alignment = some (r, k)) : k.pmm.WellFormed := by
  unfold Heap.kmallocAligned at hrun
  split_ifs at hrun
  · cases hrun
    exact hwf
  · cases hrun
    exact hwf
  · obtain ⟨⟨q, g⟩, hmalloc, hrun⟩ := Option.bind_eq_some_iff.mp hrun
    have hg : g.pmm.WellFormed := by
      rcases kmalloc_pages hwf hmalloc with hsame | ⟨minSize, -, hexp⟩
      · exact hsame.pmm ▸ hwf
      · exact hexp.wellFormed hwf
    split_ifs at hrun
    · cases hrun
      exact hg
    · cases hrun
      exact hg

end Heap

namespace HeapMachine

/-- The calls of the interface, `kmalloc_aligned` among them. -/
inductive SizedCall
  | heap (c : HeapCall)
  | kmallocAligned (size alignment : UInt64)

variable {m m' : HeapMachine}

/-- What a client may call, with any size that fits. -/
def Fitting (m : HeapMachine) : SizedCall → Prop
  | .heap (.kmalloc size) => m.heap.Fits size
  | .heap (.kcalloc count size) => m.heap.FitsProduct count size
  | .heap (.krealloc ptr newSize) => (ptr = 0 ∨ ptr ∈ m.live) ∧ m.heap.Fits newSize
  | .heap (.heapExpand _) => True
  | .heap (.pages p) => p.WellFormed
  | .heap c => m.Legal c
  | .kmallocAligned size alignment => m.heap.FitsAligned size alignment

/-- Run one call.  What `kfree_aligned` frees is the payload the address was taken from, and this is
what counts as held. -/
def execSized (m : HeapMachine) : SizedCall → Option HeapMachine
  | .heap c => m.exec c
  | .kmallocAligned size alignment => (m.heap.kmallocAligned size alignment).map fun r =>
    ⟨r.2, hold m.live (m.heap.alignedBlock size alignment)⟩

/-- One call that fits. -/
def FittingStep (m : HeapMachine) (c : SizedCall) (m' : HeapMachine) : Prop :=
  m.Fitting c ∧ m.execSized c = some m'

/-! ## One step -/

lemma Inv.answered {bs : List Block} {call : Option (Nat × Heap)}
    (hlive : ∀ ptr, ptr ∈ m.live ↔ ∃ b ∈ usedBlocks bs, ptr = b.addr + headerSize)
    (hcall : Heap.Answered bs call) :
    ∃ m', call.map (fun r => HeapMachine.mk r.2 (hold m.live r.1)) = some m' ∧ m'.Inv := by
  obtain ⟨r, k, bs', hrun, hs', hout⟩ := hcall
  exact ⟨⟨k, hold m.live r⟩, by simp [hrun], inv_hold hs' hlive hout⟩

/-- `krealloc` that is refused, or that is served. -/
lemma Inv.krealloc_fits (hm : m.Inv) (hwf : m.heap.pmm.WellFormed) {ptr : Nat} {newSize : UInt64}
    (hptr : ptr = 0 ∨ ptr ∈ m.live) (hfit : m.heap.Fits newSize) :
    ∃ m', m.exec (.krealloc ptr newSize) = some m' ∧ m'.Inv := by
  by_cases hle : newSize.toNat ≤ 2 ^ 64 - 48
  · exact hm.execSuited (c := .krealloc ptr newSize) ⟨hptr, .inr ⟨hle, hwf⟩⟩
  have hpos := Heap.toNat_ne_zero_of_big hle
  have hno := hfit.resolve_left hle
  obtain ⟨bs, hs, hlive⟩ := id hm
  obtain ⟨k, hrun, hs'⟩ : ∃ k, m.heap.krealloc ptr newSize = some (0, k) ∧ k.Sound bs := by
    rcases hptr with rfl | hptr
    · obtain ⟨k, hrun, hs'⟩ := hs.kmalloc_refused hno
      exact ⟨k, by simp [Heap.krealloc, hrun], hs'⟩
    · obtain ⟨pre, b, post, rfl, hb, rfl⟩ := exists_split hlive hptr
      exact hs.krealloc_refused hb hle hno
  exact ⟨⟨k, m.live⟩, by simp [HeapMachine.exec, hrun, hpos], bs, hs', hlive⟩

lemma Inv.fittingStep (hm : m.Inv) (hwf : m.heap.pmm.WellFormed) {c : SizedCall} (hc : m.Fitting c) :
    ∃ m', m.execSized c = some m' ∧ m'.Inv := by
  obtain ⟨bs, hs, hlive⟩ := id hm
  cases c with
  | heap c =>
    cases c with
    | kmalloc size => exact Inv.answered hlive (hs.kmalloc_answered hwf hc)
    | kcalloc count size => exact Inv.answered hlive (hs.kcalloc_answered hwf hc)
    | krealloc ptr newSize => exact hm.krealloc_fits hwf hc.1 hc.2
    | kfree ptr => exact hm.exec (c := .kfree ptr) hc
    | heapExpand minSize => exact hm.execSuited (c := .heapExpand minSize) (.inr hwf)
    | store addr v => exact hm.exec (c := .store addr v) hc
    | pages p => exact hm.exec (c := .pages p) trivial
  | kmallocAligned size alignment =>
    obtain ⟨a, k, bs', hrun, hs', hout⟩ := hs.kmallocAligned_answered hwf hc
    exact ⟨⟨k, hold m.live (m.heap.alignedBlock size alignment)⟩, by simp [execSized, hrun],
      inv_hold hs' hlive hout⟩

lemma wellFormed_step (hwf : m.heap.pmm.WellFormed) {c : SizedCall} (hc : m.Fitting c)
    (hrun : m.execSized c = some m') : m'.heap.pmm.WellFormed := by
  cases c with
  | heap c =>
    by_cases hpages : ∀ p, c ≠ .pages p
    · rcases Heap.exec_pages hwf hpages hrun with hsame | ⟨minSize, -, hexp⟩
      · exact hsame.pmm ▸ hwf
      · exact hexp.wellFormed hwf
    · obtain ⟨p, hp⟩ := not_forall.mp hpages
      obtain rfl := not_not.mp hp
      cases hrun
      exact hc
  | kmallocAligned size alignment =>
    obtain ⟨⟨a, k⟩, haligned, rfl⟩ := Option.map_eq_some_iff.mp hrun
    exact Heap.kmallocAligned_wellFormed hwf haligned

/-! ## Every run -/

/-- After `heap_init`, along every run of calls that fit. -/
lemma inv_of_fittingSteps {info : Option BootInfo} {boots : List PmmCall} {p : PmmMachine}
    (hboot : Steps PmmMachine.Step (PmmMachine.boot info) boots p)
    {mem : Mem} {start initialSize : UInt64} {h : Heap}
    (hinit : (Heap.uninitialised p.pmm mem).heapInit start initialSize = (true, h))
    {calls : List SizedCall} (hrun : Steps FittingStep ⟨h, ∅⟩ calls m) :
    m.Inv ∧ m.heap.pmm.WellFormed := by
  have hp : p.Inv := PmmMachine.inv_of_steps hboot
  obtain ⟨-, -, -, hpmm⟩ := PageMachine.heapInit_pages hinit
  have hwf : h.pmm.WellFormed := hpmm ▸ hp.wf.pmmAllocPages _
  refine hrun.invariant (I := fun m => m.Inv ∧ m.heap.pmm.WellFormed) (fun m c m' hi hstep => ?_)
    ⟨inv_of_heapInit hboot hinit (.nil _), hwf⟩
  obtain ⟨m'', hexec, hinv⟩ := hi.1.fittingStep hi.2 hstep.1
  rw [hstep.2, Option.some.injEq] at hexec
  exact ⟨hexec ▸ hinv, wellFormed_step hi.2 hstep.1 hstep.2⟩

/-- **Allocations are as large as asked for** exactly when the size fits, in every state that is
reached from `heap_init` by calls that fit. -/
theorem largeEnough_iff (info : Option BootInfo) (boots : List PmmCall) (p : PmmMachine)
    (hboot : Steps PmmMachine.Step (PmmMachine.boot info) boots p)
    (mem : Mem) (start initialSize : UInt64) (h : Heap)
    (hinit : (Heap.uninitialised p.pmm mem).heapInit start initialSize = (true, h))
    (calls : List SizedCall) (m : HeapMachine) (hrun : Steps FittingStep ⟨h, ∅⟩ calls m) :
    (∀ size, Heap.LargeEnough (m.heap.kmalloc size) size.toNat ↔ m.heap.Fits size) ∧
      (∀ count size, Heap.LargeEnough (m.heap.kcalloc count size) (count.toNat * size.toNat) ↔
        m.heap.FitsProduct count size) ∧
      (∀ ptr size, ptr = 0 ∨ ptr ∈ m.live →
        (Heap.LargeEnough (m.heap.krealloc ptr size) size.toNat ↔ m.heap.Fits size)) ∧
      (∀ size alignment, Heap.LargeEnough (m.heap.kmallocAligned size alignment) size.toNat ↔
        m.heap.FitsAligned size alignment) := by
  obtain ⟨⟨bs, hs, hlive⟩, hwf⟩ := inv_of_fittingSteps hboot hinit hrun
  refine ⟨hs.kmalloc_largeEnough hwf, hs.kcalloc_largeEnough hwf, fun ptr size hptr => ?_,
    hs.kmallocAligned_largeEnough hwf⟩
  rcases hptr with rfl | hptr
  · rw [Heap.krealloc, if_pos rfl]
    exact hs.kmalloc_largeEnough hwf size
  · obtain ⟨pre, b, post, rfl, hb, rfl⟩ := exists_split hlive hptr
    exact hs.krealloc_largeEnough hb hwf size

/-- A state with a block of 40 bytes at an address divisible by 64. -/
def oneAligned : HeapMachine :=
  ((HeapMachine.mk onePage.2 ∅).execSized (.kmallocAligned 40 64)).getD ⟨onePage.2, ∅⟩

lemma run_oneAligned : Steps FittingStep ⟨onePage.2, ∅⟩ [.kmallocAligned 40 64] oneAligned := by
  have hfit : Fitting ⟨onePage.2, ∅⟩ (.kmallocAligned 40 64) := .inr (.inr (.inl (by decide)))
  obtain ⟨m', hm'⟩ := Option.isSome_iff_exists.mp (show
    ((HeapMachine.mk onePage.2 ∅).execSized (.kmallocAligned 40 64)).isSome = true by
      set_option maxRecDepth 8192 in with_unfolding_all decide)
  exact .cons ⟨hfit, by rw [hm', oneAligned, hm', Option.getD_some]⟩ (.nil _)

theorem largeEnough_oneAligned : Heap.LargeEnough (oneAligned.heap.kmalloc 100) (100 : UInt64).toNat ∧
      Heap.LargeEnough (oneAligned.heap.kmallocAligned 100 256) (100 : UInt64).toNat := by
  have hall := largeEnough_iff PmmMachine.threePages [] _ (.nil _) (fun _ => 0) 0 4096 onePage.2
    onePage_init _ _ run_oneAligned
  have hfits : oneAligned.heap.Fits 100 := .inl (by decide)
  have hfits' : oneAligned.heap.FitsAligned 100 256 := .inr (.inr (.inl (by decide)))
  exact ⟨(hall.1 100).mpr hfits, (hall.2.2.2 100 256).mpr hfits'⟩

/-- On a fresh heap of one page, a request for all but one byte of the address space is answered
with a block. -/
theorem not_largeEnough_onePage : ¬ ∀ size, Heap.LargeEnough (onePage.2.kmalloc size) size.toNat := by
  intro hall
  obtain ⟨m, hm⟩ : ∃ m : HeapMachine, ⟨onePage.2, ∅⟩ = m := ⟨_, rfl⟩
  have hheap : onePage.2 = m.heap := by rw [← hm]
  have hinv : m.Inv ∧ m.heap.pmm.WellFormed :=
    @inv_of_fittingSteps m PmmMachine.threePages [] _ (.nil _) (fun _ => 0) 0 4096 onePage.2
      onePage_init [] (hm ▸ .nil _)
  obtain ⟨⟨bs, hs, -⟩, hwf⟩ := hinv
  rw [hheap] at hall
  rcases (hs.kmalloc_largeEnough hwf _).mp (hall 0xFFFFFFFFFFFFFFFF) with hle | hno
  · simp at hle
  · rw [← hheap] at hno
    exact absurd hno.1 (by decide +kernel)

end HeapMachine

end AAAos
