import AAAos.Kernel.Mm.Heap

/-!
# What the calls of the heap do

**What the stores leave alone.**  Between its allocations the heap changes four things: headers in
memory, the head of the free list, and the two block counters.  A property of the state that none of
these four disturbs (`Untouched`) passes through the list operations, the merges and the split,
whatever they find in memory.

**How an allocation ends.**  `kmalloc` takes a block of the free list, before or after one
expansion, or answers null (`KmallocRun`).  The last branch of `krealloc` and `kcalloc` write to
memory behind it.
-/

namespace AAAos

namespace Heap

variable {h' k : Heap} {x : Nat}

/-- No store to a header, to the free list or to a block counter disturbs the property. -/
structure Untouched (P : Heap → Prop) : Prop where
  set : ∀ {k x f v}, P k → P (k.set x f v)
  setFreeList : ∀ {k x}, P k → P (k.setFreeList x)
  bumpFreeBlocks : ∀ {k d}, P k → P (k.bumpFreeBlocks d)
  blockCount : ∀ {k n}, P k → P { k with stats := { k.stats with blockCount := n } }

namespace Untouched

variable {P : Heap → Prop}

lemma blockSetFree (hP : Untouched P) (hp : P k) : P (k.blockSetFree x) := hP.set (hP.set hp)

lemma blockSetUsed (hP : Untouched P) (hp : P k) : P (k.blockSetUsed x) := hP.set (hP.set hp)

lemma setIf (hP : Untouched P) (hp : P k) {c : Prop} [Decidable c] {f : HeapField} {v : Nat} :
    P (if c then k.set x f v else k) := by
  split_ifs
  · exact hP.set hp
  · exact hp

lemma freeListAdd (hP : Untouched P) (hp : P k) (hrun : k.freeListAdd x = some h') : P h' := by
  have hfree := hP.blockSetFree (x := x) hp
  simp only [Heap.freeListAdd] at hrun
  split_ifs at hrun
  · cases hrun
    exact hP.bumpFreeBlocks (hP.set (hP.setFreeList hfree))
  · cases hrun
    exact hP.bumpFreeBlocks (hP.setFreeList (hP.set hfree))
  · obtain ⟨current, -, hrun⟩ := Option.bind_eq_some_iff.mp hrun
    cases hrun
    exact hP.bumpFreeBlocks (hP.set (hP.set hfree))

lemma freeListRemove (hP : Untouched P) (hp : P k) (hrun : k.freeListRemove x = some h') : P h' := by
  simp only [Heap.freeListRemove] at hrun
  split_ifs at hrun
  · cases hrun
    exact hp
  · cases hrun
    exact hP.bumpFreeBlocks (hP.set (hP.setFreeList hp))
  · obtain ⟨current, -, hrun⟩ := Option.bind_eq_some_iff.mp hrun
    split_ifs at hrun
    · cases hrun
      exact hP.bumpFreeBlocks (hP.set (hP.set hp))
    · cases hrun
      exact hp

lemma resizeOver (hP : Untouched P) (hp : P k) {size : Nat} : P (k.resizeOver x size) :=
  hP.setIf (hP.set hp)

lemma coalesceNext (hP : Untouched P) (hp : P k) (hrun : k.coalesceNext x = some h') : P h' := by
  simp only [Heap.coalesceNext] at hrun
  split_ifs at hrun
  · obtain ⟨k₁, hrem, hrun⟩ := Option.bind_eq_some_iff.mp hrun
    cases hrun
    exact hP.resizeOver (hP.freeListRemove hp hrem)
  · cases hrun
    exact hp

lemma coalescePrev (hP : Untouched P) (hp : P k) (hrun : k.coalescePrev x = some h') : P h' := by
  simp only [Heap.coalescePrev] at hrun
  split_ifs at hrun
  · obtain ⟨k₁, hrem, hrun⟩ := Option.bind_eq_some_iff.mp hrun
    cases hrun
    exact hP.resizeOver (hP.freeListRemove hp hrem)
  · cases hrun
    exact hp

lemma coalesceBlocks (hP : Untouched P) (hp : P k) (hrun : k.coalesceBlocks x = some h') : P h' := by
  simp only [Heap.coalesceBlocks] at hrun
  split_ifs at hrun
  · cases hrun
    exact hp
  · obtain ⟨k₁, hnext, hrun⟩ := Option.bind_eq_some_iff.mp hrun
    exact hP.coalescePrev (hP.coalesceNext hp hnext) hrun

lemma splitBlock (hP : Untouched P) (hp : P k) {size : Nat} (hrun : k.splitBlock x size = some h') : P h' := by
  have hhdr : ∀ {k y s}, P k →
      P (((((k.set y .size s).set y .prev x).set y .next 0).set y .flags 0).blockSetFree y) :=
    fun hp => hP.blockSetFree (hP.set (hP.set (hP.set (hP.set hp))))
  simp only [Heap.splitBlock] at hrun
  split_ifs at hrun
  · cases hrun
    exact hp
  all_goals
    obtain ⟨k₁, hadd, hrun⟩ := Option.bind_eq_some_iff.mp hrun
    cases hrun
  · exact hP.blockCount (hP.freeListAdd (hP.set (hP.set (hhdr hp))) hadd)
  · exact hP.blockCount (hP.freeListAdd (hP.set (hhdr hp)) hadd)

end Untouched

/-! ## How an allocation ends -/

/-- How `kmalloc` comes to its answer. -/
inductive KmallocRun (h : Heap) (size : UInt64) : Nat → Heap → Prop
  | refused (hno : h.heapInitialized = false ∨ size = 0) : KmallocRun h size 0 h
  | found {block r : Nat} {h' : Heap} (hne : block ≠ 0)
      (hfind : h.findFreeBlock (actualSize size).toNat = some block)
      (htake : h.takeBlock block (actualSize size).toNat = some (r, h')) : KmallocRun h size r h'
  | notExpanded {k : Heap} (hready : h.heapInitialized = true ∧ size ≠ 0)
      (hnone : h.findFreeBlock (actualSize size).toNat = some 0)
      (hexp : h.heapExpand (actualSize size) = some (false, k)) : KmallocRun h size 0 k
  | noneFits {k : Heap} (hready : h.heapInitialized = true ∧ size ≠ 0)
      (hnone : h.findFreeBlock (actualSize size).toNat = some 0)
      (hexp : h.heapExpand (actualSize size) = some (true, k)) : KmallocRun h size 0 k
  | expanded {k h' : Heap} {block r : Nat} (hready : h.heapInitialized = true ∧ size ≠ 0)
      (hnone : h.findFreeBlock (actualSize size).toNat = some 0)
      (hexp : h.heapExpand (actualSize size) = some (true, k))
      (htake : k.takeBlock block (actualSize size).toNat = some (r, h')) : KmallocRun h size r h'

lemma kmalloc_run {h : Heap} {size : UInt64} {r : Nat} (hrun : h.kmalloc size = some (r, h')) :
    KmallocRun h size r h' := by
  simp only [Heap.kmalloc] at hrun
  split_ifs at hrun with hinit hzero
  · cases hrun
    exact .refused (.inl (by simpa using hinit))
  · cases hrun
    exact .refused (.inr hzero)
  have hready : h.heapInitialized = true ∧ size ≠ 0 := ⟨by simpa using hinit, hzero⟩
  obtain ⟨block, hfind, hrun⟩ := Option.bind_eq_some_iff.mp hrun
  split_ifs at hrun with hblock
  · exact .found hblock hfind hrun
  obtain rfl := not_not.mp hblock
  obtain ⟨⟨ok, k⟩, hexp, hrun⟩ := Option.bind_eq_some_iff.mp hrun
  cases ok with
  | false =>
    cases hrun
    exact .notExpanded hready hfind hexp
  | true =>
    obtain ⟨block, -, hrun⟩ := Option.bind_eq_some_iff.mp hrun
    split_ifs at hrun
    · cases hrun
      exact .noneFits hready hfind hexp
    · exact .expanded hready hfind hexp hrun

/-- `kcalloc` answers null, or runs `kmalloc` and writes to memory. -/
lemma kcalloc_run {h : Heap} {count size : UInt64} {r : Nat} (hrun : h.kcalloc count size = some (r, h')) :
    h' = h ∨ ¬ (count ≠ 0 ∧ (18446744073709551615 : UInt64) / count < size) ∧
      ∃ k, h.kmalloc (count * size) = some (r, k) ∧ ∃ m, h' = { k with mem := m } := by
  simp only [Heap.kcalloc] at hrun
  split_ifs at hrun with hover
  · cases hrun
    exact .inl rfl
  obtain ⟨⟨q, k⟩, hmalloc, hrun⟩ := Option.bind_eq_some_iff.mp hrun
  refine .inr ⟨hover, ?_⟩
  split_ifs at hrun
  · cases hrun
    exact ⟨k, hmalloc, _, rfl⟩
  · cases hrun
    exact ⟨h', hmalloc, h'.mem, rfl⟩

/-- Moving a block runs `kmalloc`, and unless that answered null, writes to memory and runs `kfree`. -/
lemma moveBlock_run {h : Heap} {ptr n r : Nat} {newSize : UInt64} (hrun : h.moveBlock ptr n newSize = some (r, h')) :
    ∃ k, h.kmalloc newSize = some (r, k) ∧ (h' = k ∨ ∃ m, { k with mem := m }.kfree ptr = some h') := by
  simp only [Heap.moveBlock] at hrun
  obtain ⟨⟨q, k⟩, hmalloc, hrun⟩ := Option.bind_eq_some_iff.mp hrun
  by_cases hq : q = 0
  · rw [if_pos hq] at hrun
    cases hrun
    exact ⟨k, hq ▸ hmalloc, .inl rfl⟩
  · rw [if_neg hq] at hrun
    obtain ⟨k₁, hfree, hrun⟩ := Option.bind_eq_some_iff.mp hrun
    cases hrun
    exact ⟨k, hmalloc, .inr ⟨_, hfree⟩⟩

end Heap

end AAAos
