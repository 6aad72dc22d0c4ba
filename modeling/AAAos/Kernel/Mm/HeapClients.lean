import AAAos.Kernel.Mm.HeapSafety
import AAAos.Kernel.Mm.PmmClients
import Mathlib.Data.Finset.Insert

/-!
# The clients of the kernel heap

`HeapMachine` is the heap together with the pointers its clients hold.  A client asks for at most
`HEAP_MAX_SIZE`, passes back only pointers it still holds, and stores only inside its payloads;
other clients of the page allocator may change that at any time.  In every reachable state the
blocks in memory are a coalesced tiling whose blocks in use are exactly the pointers held
(`HeapMachine.Safe`), and every further legal call returns.

The pages of an expansion need not be the ones after `heap_end`: the code puts the new block at
`heap_end` in any case, and nothing here depends on what the page allocator answered.
-/

namespace AAAos

/-- The heap and the pointers handed out and not yet freed. -/
structure HeapMachine where
  heap : Heap
  live : Finset Nat

/-- The calls of the clients; `store` is a client's own write, `pages` a change of the page
allocator by someone else. -/
inductive HeapCall
  | kmalloc (size : UInt64)
  | kcalloc (count size : UInt64)
  | krealloc (ptr : Nat) (newSize : UInt64)
  | kfree (ptr : Nat)
  | heapExpand (minSize : UInt64)
  | store (addr : Nat) (v : UInt8)
  | pages (p : Pmm)

namespace HeapMachine

/-- Where the payload at `ptr` ends. -/
def payloadEnd (h : Heap) (ptr : Nat) : Nat :=
  ptr - headerSize + h.blockGetSize (ptr - headerSize)

/-- What a client may call. -/
def Legal (m : HeapMachine) : HeapCall → Prop
  | .kmalloc size => size.toNat ≤ heapMaxSize
  | .kcalloc count size => (count * size).toNat ≤ heapMaxSize
  | .krealloc ptr newSize => (ptr = 0 ∨ ptr ∈ m.live) ∧ newSize.toNat ≤ heapMaxSize
  | .kfree ptr => ptr = 0 ∨ ptr ∈ m.live
  | .heapExpand minSize => minSize.toNat ≤ heapMaxSize
  | .store addr _ => ∃ ptr ∈ m.live, ptr ≤ addr ∧ addr < payloadEnd m.heap ptr
  | .pages _ => True

/-- What the client holds after an allocation answered `r`. -/
def hold (live : Finset Nat) (r : Nat) : Finset Nat := if r = 0 then live else insert r live

/-- Run one call; `none` when a walk of the heap would not end. -/
def exec (m : HeapMachine) : HeapCall → Option HeapMachine
  | .kmalloc size => (m.heap.kmalloc size).map fun r => ⟨r.2, hold m.live r.1⟩
  | .kcalloc count size => (m.heap.kcalloc count size).map fun r => ⟨r.2, hold m.live r.1⟩
  | .krealloc ptr newSize => (m.heap.krealloc ptr newSize).map fun r =>
    ⟨r.2, if newSize = 0 then m.live.erase ptr
      else if r.1 = 0 then m.live else insert r.1 (m.live.erase ptr)⟩
  | .kfree ptr => (m.heap.kfree ptr).map fun h => ⟨h, m.live.erase ptr⟩
  | .heapExpand minSize => (m.heap.heapExpand minSize).map fun r => ⟨r.2, m.live⟩
  | .store addr v => some ⟨{ m.heap with mem := Function.update m.heap.mem addr v }, m.live⟩
  | .pages p => some ⟨{ m.heap with pmm := p }, m.live⟩

/-- One legal call. -/
def Step (m : HeapMachine) (c : HeapCall) (m' : HeapMachine) : Prop :=
  m.Legal c ∧ m.exec c = some m'

/-- The blocks `bs` are what is in memory: they tile the region from `heap_start` to `heap_end`,
every header holds its block's size, mark and physical predecessor, the free list runs through
exactly the free blocks in address order, and no two neighbours are free. -/
structure Represents (h : Heap) (bs : List Block) : Prop where
  tiles : Tiles h.heapStart bs h.heapEnd
  headers : h.Chain 0 bs
  freeList : Seg (fun a => h.get a .next) h.freeList (freeAddrs bs) 0
  increasing : (freeAddrs bs).Pairwise (· < ·)
  coalesced : Coalesced bs

/-- What the clients rely on. -/
structure Safe (m : HeapMachine) : Prop where
  represents : ∃ bs, Represents m.heap bs ∧ ∀ ptr, ptr ∈ m.live ↔ ∃ b ∈ bs, b.used = true ∧ ptr = b.addr + headerSize
  disjoint : ∀ p ∈ m.live, ∀ q ∈ m.live, p ≠ q → payloadEnd m.heap p ≤ q ∨ payloadEnd m.heap q ≤ p
  returns : ∀ c, m.Legal c → ∃ m', m.exec c = some m'

/-- The inductive form. -/
def Inv (m : HeapMachine) : Prop :=
  ∃ bs, m.heap.Sound bs ∧ ∀ ptr, ptr ∈ m.live ↔ ∃ b ∈ usedBlocks bs, ptr = b.addr + headerSize

variable {m m' : HeapMachine} {bs bs' : List Block} {h' : Heap}

lemma Inv.initialized (hm : m.Inv) : m.heap.heapInitialized = true := by
  obtain ⟨bs, hs, -⟩ := hm
  exact hs.initialized

lemma exists_split {ptr : Nat} (hlive : ∀ ptr, ptr ∈ m.live ↔ ∃ b ∈ usedBlocks bs, ptr = b.addr + headerSize)
    (hptr : ptr ∈ m.live) :
    ∃ pre b post, bs = pre ++ b :: post ∧ b.used = true ∧ ptr = b.addr + headerSize := by
  obtain ⟨b, hb, rfl⟩ := (hlive ptr).mp hptr
  obtain ⟨hmem, hused⟩ := Heap.mem_usedBlocks.mp hb
  obtain ⟨pre, post, rfl⟩ := List.append_of_mem hmem
  exact ⟨pre, b, post, rfl, hused, rfl⟩

/-- After an allocation call the pointers held are again those of the blocks in use. -/
lemma inv_hold {need r : Nat} (hs' : h'.Sound bs')
    (hlive : ∀ ptr, ptr ∈ m.live ↔ ∃ b ∈ usedBlocks bs, ptr = b.addr + headerSize)
    (hout : r = 0 ∧ usedBlocks bs' = usedBlocks bs ∨
      Heap.Allocated need (usedBlocks bs) (usedBlocks bs') r) : Inv ⟨h', hold m.live r⟩ := by
  refine ⟨bs', hs', fun ptr => ?_⟩
  rcases hout with ⟨rfl, hused⟩ | ⟨b, rfl, -, hmem, -⟩
  · rw [hused]
    exact hlive ptr
  · have hne : b.addr + headerSize ≠ 0 := by simp [headerSize]
    simp only [hold, if_neg hne, Finset.mem_insert, hlive, hmem]
    constructor
    · rintro (rfl | ⟨c, hc, rfl⟩)
      · exact ⟨b, .inl rfl, rfl⟩
      · exact ⟨c, .inr hc, rfl⟩
    · rintro ⟨c, rfl | hc, rfl⟩
      · exact .inl rfl
      · exact .inr ⟨c, hc, rfl⟩

lemma live_erase {pre post : List Block} {b : Block} {a e : Nat} (ht : Tiles a (pre ++ b :: post) e)
    (hlive : ∀ ptr, ptr ∈ m.live ↔ ∃ c ∈ usedBlocks (pre ++ b :: post), ptr = c.addr + headerSize) (ptr : Nat) :
    ptr ∈ m.live.erase (b.addr + headerSize) ↔ ∃ c ∈ usedBlocks (pre ++ post), ptr = c.addr + headerSize := by
  simp only [Finset.mem_erase, hlive, Heap.mem_usedBlocks_remove ht]
  constructor
  · rintro ⟨hne, c, hc, rfl⟩
    exact ⟨c, ⟨hc, fun heq => hne (by rw [heq])⟩, rfl⟩
  · rintro ⟨c, ⟨hc, hne⟩, rfl⟩
    exact ⟨fun heq => hne (by simp only [headerSize] at heq; omega), c, hc, rfl⟩

lemma zero_notMem (hlive : ∀ ptr, ptr ∈ m.live ↔ ∃ b ∈ usedBlocks bs, ptr = b.addr + headerSize) : 0 ∉ m.live := by
  rw [hlive]
  rintro ⟨b, -, hb⟩
  simp [headerSize] at hb

/-- `kfree` of null or of a live pointer. -/
lemma Inv.kfree (hm : m.Inv) {ptr : Nat} (hptr : ptr = 0 ∨ ptr ∈ m.live) :
    ∃ h', m.heap.kfree ptr = some h' ∧ Inv ⟨h', m.live.erase ptr⟩ := by
  obtain ⟨bs, hs, hlive⟩ := hm
  rcases hptr with rfl | hptr
  · refine ⟨m.heap, by simp [Heap.kfree], bs, hs, ?_⟩
    rw [Finset.erase_eq_of_notMem (zero_notMem hlive)]
    exact hlive
  · obtain ⟨pre, b, post, rfl, hb, rfl⟩ := exists_split hlive hptr
    obtain ⟨h', bs', hrun, hs', hused, -⟩ := hs.kfree hb
    refine ⟨h', hrun, bs', hs', fun ptr => ?_⟩
    rw [hused]
    exact live_erase hs.listed.tiles hlive ptr

/-- `krealloc` to size 0 is `kfree`, also of null. -/
lemma krealloc_zero {h : Heap} {ptr : Nat} (hinit : h.heapInitialized = true) :
    h.krealloc ptr 0 = (h.kfree ptr).map fun h' => (0, h') := by
  by_cases hptr : ptr = 0
  · simp [Heap.krealloc, Heap.kfree, Heap.kmalloc, hptr, hinit]
  · simp only [Heap.krealloc, if_neg hptr, if_true]
    cases h.kfree ptr <;> rfl

/-- `krealloc` of null or of a live pointer, to a size that is not 0. -/
lemma Inv.krealloc (hm : m.Inv) {ptr : Nat} {newSize : UInt64} (hptr : ptr = 0 ∨ ptr ∈ m.live)
    (hnz : newSize ≠ 0) (hsize : m.heap.Served newSize) :
    ∃ r h', m.heap.krealloc ptr newSize = some (r, h') ∧
      Inv ⟨h', if r = 0 then m.live else insert r (m.live.erase ptr)⟩ := by
  obtain ⟨bs, hs, hlive⟩ := hm
  rcases hptr with rfl | hptr
  · obtain ⟨r, h', bs', hrun, hs', -, hout⟩ := hs.kmalloc hsize
    refine ⟨r, h', by simp [Heap.krealloc, hrun], ?_⟩
    rw [Finset.erase_eq_of_notMem (zero_notMem hlive)]
    exact inv_hold hs' hlive hout
  · obtain ⟨pre, b, post, rfl, hb, rfl⟩ := exists_split hlive hptr
    obtain ⟨r, h', bs', hrun, hs', -, hout⟩ := hs.krealloc hb hnz hsize
    refine ⟨r, h', hrun, bs', hs', fun ptr => ?_⟩
    rcases hout with ⟨rfl, hused⟩ | ⟨c, rfl, -, hmem, -⟩
    · rw [hused, if_pos rfl]
      exact hlive ptr
    · have hne : c.addr + headerSize ≠ 0 := by simp [headerSize]
      simp only [if_neg hne, Finset.mem_insert, live_erase hs.listed.tiles hlive, hmem]
      constructor
      · rintro (rfl | ⟨d, hd, rfl⟩)
        · exact ⟨c, .inl rfl, rfl⟩
        · exact ⟨d, .inr hd, rfl⟩
      · rintro ⟨d, rfl | hd, rfl⟩
        · exact .inl rfl
        · exact .inr ⟨d, hd, rfl⟩

lemma payloadEnd_eq {b : Block} (hs : m.heap.Sound bs) (hb : b ∈ bs) :
    payloadEnd m.heap (b.addr + headerSize) = b.addr + b.size := by
  obtain ⟨pre, post, rfl⟩ := List.append_of_mem hb
  rw [payloadEnd, Nat.add_sub_cancel, hs.listed.chain.header.blockGetSize (hs.listed.tiles.mem_size hb).2]

/-- Legal, with any size that is served. -/
def Suited (m : HeapMachine) : HeapCall → Prop
  | .kmalloc size => m.heap.Served size
  | .kcalloc count size => m.heap.Served (count * size)
  | .krealloc ptr newSize => (ptr = 0 ∨ ptr ∈ m.live) ∧ m.heap.Served newSize
  | .heapExpand minSize => minSize.toNat ≤ 2 ^ 62 ∨ m.heap.pmm.WellFormed
  | c => m.Legal c

lemma Legal.suited {c : HeapCall} (hc : m.Legal c) : m.Suited c := by
  cases c with
  | kmalloc size => exact .inl hc
  | kcalloc count size => exact .inl hc
  | krealloc ptr newSize => exact ⟨hc.1, .inl hc.2⟩
  | kfree ptr => exact hc
  | heapExpand minSize =>
    exact .inl (le_trans (show minSize.toNat ≤ heapMaxSize from hc) (by decide))
  | store addr v => exact hc
  | pages p => exact hc

/-- **Every suited call returns and keeps the invariant.** -/
lemma Inv.execSuited (hm : m.Inv) {c : HeapCall} (hc : m.Suited c) : ∃ m', m.exec c = some m' ∧ m'.Inv := by
  obtain ⟨bs, hs, hlive⟩ := id hm
  cases c with
  | kmalloc size =>
    obtain ⟨r, h', bs', hrun, hs', -, hout⟩ := @Heap.Sound.kmalloc _ _ hs size hc
    exact ⟨_, by simp [HeapMachine.exec, hrun], inv_hold hs' hlive hout⟩
  | kcalloc count size =>
    obtain ⟨r, h', bs', hrun, hs', -, hout⟩ := @Heap.Sound.kcalloc _ _ hs count size hc
    exact ⟨_, by simp [HeapMachine.exec, hrun], inv_hold hs' hlive hout⟩
  | krealloc ptr newSize =>
    by_cases hnz : newSize = 0
    · obtain ⟨h', hrun, hinv⟩ := hm.kfree hc.1
      refine ⟨_, ?_, hinv⟩
      simp [HeapMachine.exec, hnz, krealloc_zero hs.initialized, hrun]
    · obtain ⟨r, h', hrun, hinv⟩ := hm.krealloc hc.1 hnz hc.2
      exact ⟨_, by simp [HeapMachine.exec, hrun, hnz], hinv⟩
  | kfree ptr =>
    obtain ⟨h', hrun, hinv⟩ := hm.kfree hc
    exact ⟨_, by simp [HeapMachine.exec, hrun], hinv⟩
  | heapExpand minSize =>
    obtain ⟨r, h', bs', hrun, hs', hused, -⟩ := hs.heapExpand minSize hc
    exact ⟨⟨h', m.live⟩, by simp [HeapMachine.exec, hrun], bs', hs', by rwa [hused]⟩
  | store addr v =>
    obtain ⟨ptr, hptr, hlo, hhi⟩ := hc
    obtain ⟨b, hb, rfl⟩ := (hlive ptr).mp hptr
    have hmem := (Heap.mem_usedBlocks.mp hb).1
    rw [payloadEnd_eq hs hmem] at hhi
    refine ⟨_, rfl, bs, hs.writePayload hmem fun a ha => Function.update_of_ne ?_ _ _, hlive⟩
    simp only [headerSize] at hlo
    omega
  | pages p => exact ⟨_, rfl, bs, hs.withPmm p, hlive⟩

lemma Inv.exec (hm : m.Inv) {c : HeapCall} (hc : m.Legal c) : ∃ m', m.exec c = some m' ∧ m'.Inv :=
  hm.execSuited hc.suited

lemma Inv.safe (hm : m.Inv) : m.Safe := by
  obtain ⟨bs, hs, hlive⟩ := id hm
  refine ⟨⟨bs, ⟨hs.listed.tiles, hs.listed.chain, hs.listed.list, hs.listed.sorted, hs.coalesced⟩,
    fun ptr => ?_⟩, fun p hp q hq hpq => ?_, fun c hc => ?_⟩
  · simp only [hlive, Heap.mem_usedBlocks, and_assoc]
  · obtain ⟨b, hb, rfl⟩ := (hlive p).mp hp
    obtain ⟨c, hc, rfl⟩ := (hlive q).mp hq
    have hb' := (Heap.mem_usedBlocks.mp hb).1
    have hc' := (Heap.mem_usedBlocks.mp hc).1
    rw [payloadEnd_eq hs hb', payloadEnd_eq hs hc']
    rcases hs.listed.tiles.apart hb' hc' with rfl | h | h
    · exact absurd rfl hpq
    · exact .inl (h.trans (Nat.le_add_right _ _))
    · exact .inr (h.trans (Nat.le_add_right _ _))
  · obtain ⟨m', hrun, -⟩ := hm.exec hc
    exact ⟨m', hrun⟩

/-! ## Every run -/

/-- On a page allocator in any state its clients can bring it to, once `heap_init` has succeeded,
every sequence of legal calls keeps the invariant. -/
lemma inv_of_heapInit {info : Option BootInfo} {boots : List PmmCall} {p : PmmMachine}
    (hboot : Steps PmmMachine.Step (PmmMachine.boot info) boots p)
    {mem : Mem} {start initialSize : UInt64} {h : Heap}
    (hinit : (Heap.uninitialised p.pmm mem).heapInit start initialSize = (true, h))
    {calls : List HeapCall} (hrun : Steps Step ⟨h, ∅⟩ calls m) : m.Inv := by
  have hp : p.Inv := PmmMachine.inv_of_steps hboot
  obtain ⟨bs, hs, hused⟩ := Heap.heapInit_sound hp.wf hinit
  have hfirst : Inv ⟨h, ∅⟩ := ⟨bs, hs, by simp [hused]⟩
  refine hrun.invariant (fun _ _ _ hi hstep => ?_) hfirst
  obtain ⟨m', hrun', hinv⟩ := hi.exec hstep.1
  rw [hstep.2, Option.some.injEq] at hrun'
  exact hrun' ▸ hinv

/-- **Heap safety.**  On a page allocator in any state its clients can bring it to, once
`heap_init` has succeeded, along every sequence of legal calls. -/
theorem safe_of_heapInit (info : Option BootInfo) (boots : List PmmCall) (p : PmmMachine)
    (hboot : Steps PmmMachine.Step (PmmMachine.boot info) boots p)
    (mem : Mem) (start initialSize : UInt64) (h : Heap)
    (hinit : (Heap.uninitialised p.pmm mem).heapInit start initialSize = (true, h))
    (calls : List HeapCall) (m : HeapMachine) (hrun : Steps Step ⟨h, ∅⟩ calls m) : m.Safe :=
  (inv_of_heapInit hboot hinit hrun).safe

/-- One page of heap on a machine with three usable pages. -/
def onePage : Bool × Heap :=
  (Heap.uninitialised (PmmMachine.boot PmmMachine.threePages).pmm fun _ => 0).heapInit 0 4096

/-- `heap_init` on that machine succeeds. -/
lemma onePage_init : onePage = (true, onePage.2) := by
  have hflag : onePage.1 = true := by
    set_option maxRecDepth 8192 in decide
  calc onePage = (onePage.1, onePage.2) := Prod.mk.eta.symm
    _ = (true, onePage.2) := by rw [hflag]

/-- The state after a call, for writing down runs. -/
def after (m : HeapMachine) (c : HeapCall) : HeapMachine := (m.exec c).getD m

lemma step_after {c : HeapCall} (hc : m.Legal c) (hrun : (m.exec c).isSome = true) : Step m c (m.after c) := by
  obtain ⟨m', hm'⟩ := Option.isSome_iff_exists.mp hrun
  exact ⟨hc, by rw [after, hm', Option.getD_some]⟩

/-- Two allocations, and the first of them freed. -/
def twoAllocations : HeapMachine := (HeapMachine.mk onePage.2 ∅).after (.kmalloc 100) |>.after
  (.kmalloc 8) |>.after (.kfree 0x100020)

lemma run_twoAllocations : Steps Step ⟨onePage.2, ∅⟩ [.kmalloc 100, .kmalloc 8, .kfree 0x100020] twoAllocations := by
  have hsize : ∀ m, Legal m (.kmalloc 100) ∧ Legal m (.kmalloc 8) := fun _ =>
    show (100 : UInt64).toNat ≤ heapMaxSize ∧ (8 : UInt64).toNat ≤ heapMaxSize by decide
  set_option maxRecDepth 8192 in
  exact .cons (step_after (hsize _).1 (by with_unfolding_all decide)) (.cons
    (step_after (hsize _).2 (by with_unfolding_all decide)) (.cons
    (step_after (.inr (by with_unfolding_all decide)) (by with_unfolding_all decide)) (.nil _)))

theorem safe_twoAllocations : twoAllocations.live = {0x1000B0} ∧ twoAllocations.Safe :=
  ⟨by set_option maxRecDepth 8192 in with_unfolding_all decide,
    safe_of_heapInit PmmMachine.threePages [] _ (.nil _) (fun _ => 0) 0 4096 onePage.2 onePage_init _ _
      run_twoAllocations⟩

end HeapMachine

end AAAos
