import AAAos.Kernel.Mm.HeapLayout

/-!
# The free list of the kernel heap

What `free_list_add`, `free_list_remove` and `find_free_block` do to a heap of a given shape.
The two splices end their walk at a cell that the segment names, so each is one redirection of
the segment.
-/

namespace AAAos

namespace Heap

variable {h h' : Heap} {bs : List Block} {l l₁ l₂ : List Nat} {x c p q : Nat}

/-- The walk of `free_list_remove` stops at the cell before the block. -/
lemma predecessor_eq {fuel : Nat} (hseg : Seg (fun a => h.get a .next) p (l ++ [c]) x)
    (hl : ∀ y ∈ l ++ [c], y ≠ 0 ∧ y ≠ x) (hfuel : l.length < fuel) :
    h.predecessor x fuel p = some c := by
  induction l generalizing p fuel with
  | nil =>
    obtain ⟨rfl, hnext⟩ := hseg
    obtain ⟨fuel, rfl⟩ := Nat.exists_eq_add_of_lt hfuel
    simp_all [predecessor, Seg]
  | cons y l ih =>
    obtain ⟨rfl, hrest⟩ := hseg
    obtain ⟨fuel, rfl⟩ : ∃ n, fuel = n + 1 := ⟨fuel - 1, by omega⟩
    have hhead := hl _ (List.mem_cons_of_mem _ (hrest.head_mem (by simp)))
    rw [predecessor, if_pos hhead]
    exact ih hrest (fun z hz => hl z (List.mem_cons_of_mem _ hz)) (by simpa using hfuel)

/-- The walk of `free_list_add` stops at the last cell before the block. -/
lemma insertionPoint_eq {fuel : Nat} (hseg : Seg (fun a => h.get a .next) p (l ++ [c]) q)
    (hl : ∀ y ∈ l ++ [c], y ≠ 0 ∧ y < x) (hq : q = 0 ∨ x ≤ q) (hfuel : l.length < fuel) :
    h.insertionPoint x fuel p = some c := by
  induction l generalizing p fuel with
  | nil =>
    obtain ⟨rfl, hnext⟩ := hseg
    obtain ⟨fuel, rfl⟩ : ∃ n, fuel = n + 1 := ⟨fuel - 1, by omega⟩
    have hnext : h.get p .next = q := hnext
    rw [insertionPoint, if_neg (by omega)]
  | cons y l ih =>
    obtain ⟨rfl, hrest⟩ := hseg
    obtain ⟨fuel, rfl⟩ : ∃ n, fuel = n + 1 := ⟨fuel - 1, by omega⟩
    have hhead := hl _ (List.mem_cons_of_mem _ (hrest.head_mem (by simp)))
    rw [insertionPoint, if_pos hhead]
    exact ih hrest (fun z hz => hl z (List.mem_cons_of_mem _ hz)) (by simpa using hfuel)

lemma ne_of_sorted_middle (hl : (l₁ ++ x :: l₂).Pairwise (· < ·)) : ∀ y ∈ l₁ ++ l₂, y ≠ x := by
  have hnd : (l₁ ++ x :: l₂).Nodup := hl.imp fun hab => hab.ne
  rintro y hy rfl
  exact (List.nodup_cons.mp (List.nodup_middle.mp hnd)).1 hy

/-- `free_list_remove` of the head. -/
lemma freeListRemove_head (hx : h.freeList = x) (hx0 : x ≠ 0) : h.freeListRemove x =
    some (((h.setFreeList (h.get x .next)).set x .next 0).bumpFreeBlocks (-1)) := by
  rw [Heap.freeListRemove, if_neg (by rwa [hx]), if_pos hx]

/-- `free_list_remove` of the cell that the walk finds after `c`. -/
lemma freeListRemove_after (h0 : h.freeList ≠ 0) (hx : h.freeList ≠ x)
    (hwalk : h.predecessor x h.walkFuel h.freeList = some c) (hc : h.get c .next = x) :
    h.freeListRemove x = some (((h.set c .next (h.get x .next)).set x .next 0).bumpFreeBlocks (-1)) := by
  simp only [Heap.freeListRemove, if_neg h0, if_neg hx, hwalk, Option.bind_eq_bind, Option.bind_some, if_pos hc]

/-- **`free_list_remove` takes exactly that block off the list.** -/
theorem Shape.freeListRemove (hs : h.Shape bs (l₁ ++ x :: l₂)) :
    ∃ h', h.freeListRemove x = some h' ∧ h'.Shape bs (l₁ ++ l₂) ∧ Touches (bs.map Block.addr) h h' := by
  have hx : x ∈ bs.map Block.addr := hs.listed (by simp)
  have hkeep : (l₁ ++ l₂).Sublist (l₁ ++ x :: l₂) := (List.sublist_cons_self x l₂).append_left l₁
  have hmem : ∀ y ∈ l₁ ++ l₂, y ∈ bs.map Block.addr := fun y hy => hs.listed (hkeep.subset hy)
  have hne : ∀ y ∈ l₁ ++ l₂, y ≠ x := ne_of_sorted_middle hs.sorted
  rcases List.eq_nil_or_concat l₁ with rfl | ⟨l, c, rfl⟩
  · obtain ⟨hhead, hrest⟩ := hs.list
    have ht : Touches (bs.map Block.addr) h _ :=
      ((Touches.setFreeList (h.get x .next)).trans
        (Touches.set (f := .next) (v := 0) hx)).bumpFreeBlocks (-1)
    refine ⟨_, freeListRemove_head hhead (hs.addr_pos hx).ne', hs.relist ht (fun y hy f hf => ?_)
      (by simp) (Seg.congr hrest fun y hy => ?_)
      (hs.sorted.sublist hkeep) hmem, ht⟩
    · rw [get_bumpFreeBlocks, hs.get_set hx hy (.inr hf), get_setFreeList]
    · simp only [get_bumpFreeBlocks]
      rw [hs.get_set hx (hmem y hy) (.inl (hne y hy)), get_setFreeList]
  · rw [List.concat_eq_append] at *
    have hc : c ∈ bs.map Block.addr := hmem c (by simp)
    have hcl : ∀ z ∈ l ++ l₂, z ≠ c := ne_of_sorted_middle
      ((hs.sorted.sublist hkeep).sublist (by simp))
    obtain ⟨y, hfront, rfl, -⟩ := Seg.append.mp hs.list
    have hfl : h.freeList ∈ l ++ [c] ++ l₂ := List.mem_append_left l₂ (hfront.head_mem (by simp))
    have hwalk : h.predecessor y h.walkFuel h.freeList = some c := by
      refine predecessor_eq hfront (fun z hz => ?_) (lt_of_le_of_lt (by simp) hs.length_lt)
      have hz' : z ∈ l ++ [c] ++ l₂ := List.mem_append_left l₂ hz
      exact ⟨(hs.addr_pos (hmem z hz')).ne', hne z hz'⟩
    have hcy : h.get c .next = y := by
      obtain ⟨-, -, -, hcy⟩ := Seg.append.mp hfront
      exact hcy
    have ht : Touches (bs.map Block.addr) h _ :=
      ((Touches.set (f := .next) (v := h.get y .next) hc).trans
        (Touches.set (f := .next) (v := 0) hx)).bumpFreeBlocks (-1)
    refine ⟨_, freeListRemove_after (hs.addr_pos (hmem _ hfl)).ne' (hne _ hfl) hwalk hcy,
      hs.relist ht (fun z hz f hf => ?_) (by simp) (hs.list.unlink (fun z hz => ?_) ?_)
      (hs.sorted.sublist hkeep) hmem, ht⟩
    · rw [get_bumpFreeBlocks, hs.get_set hx hz (.inr hf), hs.get_set hc hz (.inr hf)]
    · have hz' : z ∈ l ++ [c] ++ l₂ := by
        simp only [List.mem_append] at hz ⊢
        tauto
      rw [get_bumpFreeBlocks, hs.get_set hx (hmem z hz') (.inl (hne z hz')),
        hs.get_set hc (hmem z hz') (.inl (hcl z hz))]
    · rw [get_bumpFreeBlocks, hs.get_set hx hc (.inl (hne c (by simp))),
        get_set_self (h.get_lt y .next)]

/-! ## Marking -/

variable {b : Block} {pre post : List Block} {fl : List Nat}

lemma Shape.mark (used : Bool) {flags magic : Nat} (hs : h.Shape (pre ++ b :: post) fl)
    (hflags : flags = if used then 1 else 0)
    (hmagic : magic = if used then heapBlockMagic else heapBlockFreeMagic) :
    ((h.set b.addr .flags flags).set b.addr .magic magic).Shape
      (pre ++ { b with used := used } :: post) fl := by
  have hb : b.addr ∈ (pre ++ b :: post).map Block.addr := by simp
  have hhdr := hs.chain.header
  refine hs.remark rfl rfl ((Touches.set hb).trans (Touches.set hb)) (by simp)
    (fun y hy f hf => ?_) ⟨?_, ?_, ?_, ?_⟩
  · have hf' : ∀ g : HeapField, g ≠ .next → y ≠ b.addr ∨ f ≠ g := fun g hg =>
      hf.imp_right fun hnext => by rw [hnext]; exact hg.symm
    rw [hs.get_set hb hy (hf' _ (by simp)), hs.get_set hb hy (hf' _ (by simp))]
  · rw [get_set_field (by simp), get_set_field (by simp), hhdr.size]
  · rw [get_set_field (by simp), get_set_field (by simp), hhdr.prev]
  · rw [get_set_field (by simp), get_set_self (by subst hflags; cases used <;> decide), hflags]
  · rw [get_set_self (by subst hmagic; cases used <;> decide), hmagic]

lemma Shape.blockSetFree (hs : h.Shape (pre ++ b :: post) fl) :
    (h.blockSetFree b.addr).Shape (pre ++ { b with used := false } :: post) fl := by
  refine hs.mark false ?_ rfl
  rw [hs.chain.header.flags]
  cases b.used <;> rfl

lemma Shape.blockSetUsed (hs : h.Shape (pre ++ b :: post) fl) :
    (h.blockSetUsed b.addr).Shape (pre ++ { b with used := true } :: post) fl := by
  refine hs.mark true ?_ rfl
  rw [hs.chain.header.flags]
  cases b.used <;> rfl

lemma Touches.blockSetFree {hs : List Nat} (hx : x ∈ hs) : Touches hs h (h.blockSetFree x) :=
  (Touches.set hx).trans (Touches.set hx)

lemma Touches.blockSetUsed {hs : List Nat} (hx : x ∈ hs) : Touches hs h (h.blockSetUsed x) :=
  (Touches.set hx).trans (Touches.set hx)

/-! ## Insertion -/

@[simp] lemma blockSetFree_freeList : (h.blockSetFree x).freeList = h.freeList := by
  simp [Heap.blockSetFree]

/-- `free_list_add` before the first cell.  On an empty list the code takes a branch of its own,
which does the same. -/
lemma freeListAdd_head {k : Heap} (hk : h.blockSetFree x = k) (hx : k.freeList = 0 ∨ x < k.freeList) :
    h.freeListAdd x = some (((k.set x .next k.freeList).setFreeList x).bumpFreeBlocks 1) := by
  by_cases h0 : k.freeList = 0
  · simp only [Heap.freeListAdd, hk, h0, Heap.set, Heap.setFreeList, if_true]
  · simp only [Heap.freeListAdd, hk, if_neg h0, if_pos (hx.resolve_left h0)]

/-- `free_list_add` after the cell `c` that the walk finds. -/
lemma freeListAdd_after {k : Heap} (hk : h.blockSetFree x = k) (h0 : k.freeList ≠ 0)
    (hx : ¬ x < k.freeList) (hwalk : k.insertionPoint x k.walkFuel k.freeList = some c) :
    h.freeListAdd x = some (((k.set x .next (k.get c .next)).set c .next x).bumpFreeBlocks 1) := by
  simp only [Heap.freeListAdd, hk, if_neg h0, if_neg hx, hwalk, Option.bind_eq_bind, Option.bind_some]

/-- **`free_list_add` marks the block free and puts it in address order.** -/
theorem Shape.freeListAdd (hs : h.Shape (pre ++ b :: post) (l₁ ++ l₂))
    (hlt : ∀ y ∈ l₁, y < b.addr) (hgt : ∀ y ∈ l₂, b.addr < y) :
    ∃ h', h.freeListAdd b.addr = some h' ∧ h'.Shape (pre ++ { b with used := false } :: post) (l₁ ++ b.addr :: l₂) ∧
      Touches ((pre ++ b :: post).map Block.addr) h h' := by
  obtain ⟨k, hk⟩ : ∃ k, h.blockSetFree b.addr = k := ⟨_, rfl⟩
  obtain ⟨bs, hbs⟩ : ∃ bs, pre ++ { b with used := false } :: post = bs := ⟨_, rfl⟩
  have haddrs : (pre ++ b :: post).map Block.addr = bs.map Block.addr := by simp [← hbs]
  have hx : b.addr ∈ bs.map Block.addr := by simp [← hbs]
  have ht : Touches (bs.map Block.addr) h k := hk ▸ Touches.blockSetFree hx
  have hks : k.Shape bs (l₁ ++ l₂) := hk ▸ hbs ▸ hs.blockSetFree
  rw [haddrs, hbs]
  have hsorted : (l₁ ++ b.addr :: l₂).Pairwise (· < ·) := by
    obtain ⟨h₁, h₂, h₁₂⟩ := List.pairwise_append.mp hs.sorted
    refine List.pairwise_append.mpr ⟨h₁, List.pairwise_cons.mpr ⟨hgt, h₂⟩, fun y hy z hz => ?_⟩
    rcases List.mem_cons.mp hz with rfl | hz
    · exact hlt y hy
    · exact h₁₂ y hy z hz
  have hlisted : l₁ ++ b.addr :: l₂ ⊆ bs.map Block.addr := fun y hy => by
    rcases List.mem_cons.mp (List.perm_middle.mem_iff.mp hy) with rfl | hy
    · exact hx
    · exact hks.listed hy
  rcases List.eq_nil_or_concat l₁ with rfl | ⟨l, c, rfl⟩
  · have hhead : k.freeList = 0 ∨ b.addr < k.freeList := by
      cases l₂ with
      | nil => exact .inl hks.list
      | cons y l₂ => exact .inr (hks.list.1 ▸ hgt y (by simp))
    have htk : Touches (bs.map Block.addr) k _ :=
      ((Touches.set (f := .next) (v := k.freeList) hx).trans
        (Touches.setFreeList b.addr)).bumpFreeBlocks 1
    refine ⟨_, freeListAdd_head hk hhead, ?_, ht.trans htk⟩
    refine hks.relist htk (fun y hy f hf => ?_) (by simp) (hks.list.push (fun y hy => ?_) ?_)
      hsorted hlisted
    · rw [get_bumpFreeBlocks, get_setFreeList, hks.get_set hx hy (.inr hf)]
    · rw [get_bumpFreeBlocks, get_setFreeList, hks.get_set hx (hks.listed hy) (.inl (hgt y hy).ne')]
    · rw [get_bumpFreeBlocks, get_setFreeList]
      exact get_set_self (hks.freeList_lt.trans (by decide))
  · rw [List.concat_eq_append] at *
    have hc : c ∈ bs.map Block.addr := hlisted (by simp)
    have hcx : c < b.addr := hlt c (by simp)
    have hcl : ∀ y ∈ l ++ l₂, y ≠ c := ne_of_sorted_middle (by simpa using hks.sorted)
    obtain ⟨q, hfront, hback⟩ := Seg.append.mp hks.list
    have hfl : k.freeList ∈ l ++ [c] := hfront.head_mem (by simp)
    have hq : q = 0 ∨ b.addr ≤ q := by
      cases l₂ with
      | nil => exact .inl hback
      | cons y l₂ => exact .inr (hback.1 ▸ (hgt y (by simp)).le)
    have hpos : ∀ y ∈ l ++ [c], y ≠ 0 ∧ y < b.addr := fun y hy =>
      ⟨(hks.addr_pos (hks.listed (List.mem_append_left l₂ hy))).ne', hlt y hy⟩
    have hwalk : k.insertionPoint b.addr k.walkFuel k.freeList = some c :=
      insertionPoint_eq hfront hpos hq (lt_of_le_of_lt (by simp) hks.length_lt)
    have htk : Touches (bs.map Block.addr) k _ :=
      ((Touches.set (f := .next) (v := k.get c .next) hx).trans
        (Touches.set (f := .next) (v := b.addr) hc)).bumpFreeBlocks 1
    refine ⟨_, freeListAdd_after hk (hpos _ hfl).1 (hpos _ hfl).2.not_gt hwalk, ?_, ht.trans htk⟩
    refine hks.relist htk (fun y hy f hf => ?_) (by simp)
      (hks.list.link (fun y hy => ?_) ?_ ?_) hsorted hlisted
    · rw [get_bumpFreeBlocks, hks.get_set hc hy (.inr hf), hks.get_set hx hy (.inr hf)]
    · have hy' : y ∈ bs.map Block.addr := by
        simp only [List.mem_append] at hy
        exact hlisted (by simp; tauto)
      have hyx : y ≠ b.addr := by
        rcases List.mem_append.mp hy with hy | hy
        · exact (hlt y (by simp [hy])).ne
        · exact (hgt y hy).ne'
      rw [get_bumpFreeBlocks, hks.get_set hc hy' (.inl (hcl y hy)), hks.get_set hx hy' (.inl hyx)]
    · rw [get_bumpFreeBlocks]
      exact get_set_self ((hks.addr_lt hx).trans (by decide))
    · rw [get_bumpFreeBlocks, hks.get_set hc hx (.inl hcx.ne'), get_set_self (k.get_lt c .next)]

end Heap

end AAAos
