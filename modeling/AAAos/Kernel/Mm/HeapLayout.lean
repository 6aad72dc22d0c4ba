import AAAos.Kernel.Mm.Heap
import AAAos.Lib.LinkedSegment
import Mathlib.Data.List.Chain
import Mathlib.Data.List.Nodup

/-!
# The layout of the kernel heap

The abstract heap is a list of blocks that tile the region, and `Heap.Shape` ties it to memory:
every block has its header where it starts, and the free list is a linked segment through some of
the blocks.  `Shape` leaves open *which* blocks are on the list, because the code takes a block
off the list, splits or merges it, and only then marks it; the steps in between are described by
the same predicate with another list.

Headers of two blocks of a tiling do not overlap (`Tiles.apart`), so a store to one field of one
header is seen by no other load.  Everything below rests on the three `get_set` lemmas.
-/

namespace AAAos

/-- A block of the heap: where its header is, its size with the header, whether it is in use. -/
structure Block where
  addr : Nat
  size : Nat
  used : Bool
  deriving DecidableEq, Repr

/-- The block grown over the block after it. -/
def Block.absorb (b c : Block) : Block := { b with size := b.size + c.size }

@[simp] lemma Block.absorb_addr (b c : Block) : (b.absorb c).addr = b.addr := rfl
@[simp] lemma Block.absorb_size (b c : Block) : (b.absorb c).size = b.size + c.size := rfl
@[simp] lemma Block.absorb_used (b c : Block) : (b.absorb c).used = b.used := rfl

/-- The blocks lie end to end from `a` to `e`; each has room for a header and a minimal payload
and is a multiple of the alignment. -/
def Tiles : Nat → List Block → Nat → Prop
  | a, [], e => a = e
  | a, b :: bs, e => b.addr = a ∧ 64 ≤ b.size ∧ b.size % 16 = 0 ∧ Tiles (a + b.size) bs e

namespace Tiles

variable {a m e : Nat} {b c : Block} {bs xs ys : List Block}

lemma append : Tiles a (xs ++ ys) e ↔ ∃ m, Tiles a xs m ∧ Tiles m ys e := by
  induction xs generalizing a with
  | nil => simp [Tiles]
  | cons x xs ih => simp [Tiles, ih, and_assoc]

lemma bounds (h : Tiles a bs e) : a + 64 * bs.length ≤ e := by
  induction bs generalizing a with
  | nil => exact h.le
  | cons x xs ih =>
    obtain ⟨-, hmin, -, hrest⟩ := h
    have := ih hrest
    simp only [List.length_cons]
    omega

lemma mem_bounds (h : Tiles a bs e) (hb : b ∈ bs) : a ≤ b.addr ∧ b.addr + b.size ≤ e := by
  obtain ⟨xs, ys, rfl⟩ := List.append_of_mem hb
  obtain ⟨m, hxs, rfl, -, -, hys⟩ := append.1 h
  have := hxs.bounds
  have := hys.bounds
  omega

lemma mem_size (h : Tiles a bs e) (hb : b ∈ bs) : 64 ≤ b.size ∧ b.size % 16 = 0 := by
  obtain ⟨xs, ys, rfl⟩ := List.append_of_mem hb
  obtain ⟨m, -, -, hmin, hal, -⟩ := append.1 h
  exact ⟨hmin, hal⟩

/-- The tiles come in the order of their addresses, each ending before the next begins. -/
lemma pairwise (h : Tiles a bs e) : bs.Pairwise fun x y => x.addr + x.size ≤ y.addr := by
  induction bs generalizing a with
  | nil => exact .nil
  | cons x xs ih =>
    obtain ⟨rfl, -, -, hrest⟩ := h
    exact .cons (fun y hy => (hrest.mem_bounds hy).1) (ih hrest)

/-- **Tiles do not overlap.** -/
lemma apart (h : Tiles a bs e) (hb : b ∈ bs) (hc : c ∈ bs) :
    b = c ∨ b.addr + b.size ≤ c.addr ∨ c.addr + c.size ≤ b.addr := by
  let R (x y : Block) : Prop := x = y ∨ x.addr + x.size ≤ y.addr ∨ y.addr + y.size ≤ x.addr
  have hp : bs.Pairwise R := h.pairwise.imp fun hxy => .inr (.inl hxy)
  have hflip : bs.Pairwise (flip R) := h.pairwise.imp fun hxy => .inr (.inr hxy)
  exact hp.forall_of_forall_of_flip (fun x _ => .inl rfl) hflip hb hc

lemma header_apart {x y : Nat} (h : Tiles a bs e) (hx : x ∈ bs.map Block.addr)
    (hy : y ∈ bs.map Block.addr) : y = x ∨ y + 32 ≤ x ∨ x + 32 ≤ y := by
  obtain ⟨b, hb, rfl⟩ := List.mem_map.mp hx
  obtain ⟨c, hc, rfl⟩ := List.mem_map.mp hy
  have := (h.mem_size hb).1
  have := (h.mem_size hc).1
  rcases h.apart hb hc with rfl | hbc | hcb
  · exact .inl rfl
  all_goals omega

lemma lt_of_append (h : Tiles a (xs ++ ys) e) (hb : b ∈ xs) (hc : c ∈ ys) : b.addr < c.addr := by
  have hle := (List.pairwise_append.mp h.pairwise).2.2 b hb c hc
  have := (h.mem_size (b := b) (by simp [hb])).1
  omega

lemma lt_of_pre (h : Tiles a (xs ++ b :: ys) e) (hc : c ∈ xs) : c.addr + c.size ≤ b.addr :=
  (List.pairwise_append.mp h.pairwise).2.2 c hc b (by simp)

lemma lt_of_post (h : Tiles a (xs ++ b :: ys) e) (hc : c ∈ ys) : b.addr + b.size ≤ c.addr :=
  List.rel_of_pairwise_cons (List.pairwise_append.mp h.pairwise).2.1 hc

lemma addr_ne (h : Tiles a (xs ++ b :: ys) e) (hc : c ∈ xs ++ ys) : c.addr ≠ b.addr := by
  have hb := (h.mem_size (b := b) (by simp)).1
  rcases List.mem_append.mp hc with hc | hc
  · have := h.lt_of_pre hc
    have := (h.mem_size (b := c) (by simp [hc])).1
    omega
  · have := h.lt_of_post hc
    omega

/-- The block after a prefix starts where the prefix ends; with nothing after it, at the end. -/
lemma next_eq (h : Tiles a bs e) : (if e ≤ a then 0 else a) = (bs.head?.map Block.addr).getD 0 := by
  cases bs with
  | nil => simp [show a = e from h]
  | cons b bs =>
    have hlt := h.bounds
    obtain ⟨rfl, -⟩ := h
    simp only [List.length_cons] at hlt
    simp [show ¬ e ≤ b.addr by omega]

/-- The tiling after a split: the block cut down to `s` bytes, and the free rest. -/
lemma split {s : Nat} (ht : Tiles a (xs ++ b :: ys) e) (hmin : 64 ≤ s) (hal : s % 16 = 0) (hrest : 64 ≤ b.size - s) :
    Tiles a (xs ++ { b with size := s } :: ⟨b.addr + s, b.size - s, false⟩ :: ys) e := by
  obtain ⟨m, htpre, rfl, -, hbal, htpost⟩ := append.1 ht
  refine append.2 ⟨b.addr, htpre, rfl, hmin, hal, rfl, hrest, ?_, ?_⟩
  · dsimp only
    omega
  · have hsum : b.addr + s + (b.size - s) = b.addr + b.size := by omega
    rwa [hsum]

lemma split_apart {s y : Nat} (ht : Tiles a (xs ++ b :: ys) e) (hmin : 64 ≤ s)
    (hrest : 64 ≤ b.size - s) (hy : y ∈ (xs ++ b :: ys).map Block.addr) :
    y + 32 ≤ b.addr + s ∨ b.addr + s + 32 ≤ y := by
  obtain ⟨d, hd, rfl⟩ := List.mem_map.mp hy
  rcases List.mem_append.mp hd with hd | hd
  · have := ht.lt_of_pre hd
    have := (ht.mem_size (b := d) (by simp [hd])).1
    omega
  · rcases List.mem_cons.mp hd with rfl | hd
    · omega
    · have := ht.lt_of_post hd
      omega

end Tiles

/-- The addresses of the blocks that are not in use, in order. -/
def freeAddrs (bs : List Block) : List Nat := (bs.filter fun b => !b.used).map Block.addr

@[simp] lemma freeAddrs_append (xs ys : List Block) : freeAddrs (xs ++ ys) = freeAddrs xs ++ freeAddrs ys := by
  simp [freeAddrs]

lemma mem_freeAddrs {bs : List Block} {x : Nat} : x ∈ freeAddrs bs ↔ ∃ b ∈ bs, b.used = false ∧ b.addr = x := by
  simp [freeAddrs, and_assoc]

lemma Tiles.freeAddrs_pre_lt {a e x : Nat} {b : Block} {xs ys : List Block}
    (h : Tiles a (xs ++ b :: ys) e) (hx : x ∈ freeAddrs xs) : x < b.addr := by
  obtain ⟨c, hc, -, rfl⟩ := mem_freeAddrs.1 hx
  exact h.lt_of_append hc (by simp)

lemma Tiles.le_freeAddrs_post {a e x : Nat} {b : Block} {xs ys : List Block}
    (h : Tiles a (xs ++ b :: ys) e) (hx : x ∈ freeAddrs ys) : b.addr + b.size ≤ x := by
  obtain ⟨c, hc, -, rfl⟩ := mem_freeAddrs.1 hx
  exact h.lt_of_post hc

/-- The address of the last block, or `p` when there is none. -/
def lastAddr (p : Nat) : List Block → Nat
  | [] => p
  | b :: bs => lastAddr b.addr bs

@[simp] lemma lastAddr_append_cons (p : Nat) (xs : List Block) (b : Block) (ys : List Block) :
    lastAddr p (xs ++ b :: ys) = lastAddr b.addr ys := by
  induction xs generalizing p with
  | nil => rfl
  | cons x xs ih => exact ih x.addr

lemma lastAddr_mem {p : Nat} {bs : List Block} (hne : bs ≠ []) : lastAddr p bs ∈ bs.map Block.addr := by
  obtain ⟨xs, b, rfl⟩ : ∃ xs b, bs = xs ++ [b] := ⟨_, _, (List.dropLast_append_getLast hne).symm⟩
  simp [lastAddr]

namespace Heap

variable {h h' : Heap} {x y v : Nat} {f g : HeapField}

/-! ## Headers of a tiling -/

/-- What the header of block `b` holds when the block before it is at `prev`. -/
structure Header (h : Heap) (b : Block) (prev : Nat) : Prop where
  size : h.get b.addr .size = b.size
  prev : h.get b.addr .prev = prev
  flags : h.get b.addr .flags = if b.used then 1 else 0
  magic : h.get b.addr .magic = if b.used then heapBlockMagic else heapBlockFreeMagic

/-- Every block has its header, and each `prev` field names the block before. -/
def Chain (h : Heap) : Nat → List Block → Prop
  | _, [] => True
  | prev, b :: bs => h.Header b prev ∧ h.Chain b.addr bs

variable {b c : Block} {bs xs ys pre post : List Block} {p q s : Nat}

lemma Header.congr (hb : h.Header b p) (hk : ∀ f, f ≠ .next → h'.get b.addr f = h.get b.addr f) : h'.Header b p :=
  ⟨(hk _ (by simp)).trans hb.size, (hk _ (by simp)).trans hb.prev,
    (hk _ (by simp)).trans hb.flags, (hk _ (by simp)).trans hb.magic⟩

/-- **The frame rule for headers.**  The `next` field is not part of them. -/
lemma Chain.congr (hc : h.Chain p bs)
    (hk : ∀ b ∈ bs, ∀ f, f ≠ .next → h'.get b.addr f = h.get b.addr f) : h'.Chain p bs := by
  induction bs generalizing p with
  | nil => trivial
  | cons b bs ih =>
    exact ⟨hc.1.congr (hk b (by simp)), ih hc.2 fun c hmem => hk c (by simp [hmem])⟩

lemma Chain.append : h.Chain p (xs ++ ys) ↔ h.Chain p xs ∧ h.Chain (lastAddr p xs) ys := by
  induction xs generalizing p with
  | nil => simp [Chain, lastAddr]
  | cons x xs ih => simp [Chain, lastAddr, ih, and_assoc]

lemma Chain.header (hc : h.Chain p (pre ++ b :: post)) : h.Header b (lastAddr p pre) :=
  (Chain.append.1 hc).2.1

lemma Header.blockGetSize (hb : h.Header b p) (hal : b.size % 16 = 0) : h.blockGetSize b.addr = b.size := by
  rw [Heap.blockGetSize, hb.size]
  omega

lemma Header.blockIsUsed (hb : h.Header b p) : h.blockIsUsed b.addr = b.used := by
  rw [Heap.blockIsUsed, hb.flags]
  cases b.used <;> rfl

/-! ## The shape of the heap -/

/-- The heap in memory: the tiling, the headers, and the cells on the free list. -/
structure Shape (h : Heap) (bs : List Block) (fl : List Nat) : Prop where
  start_pos : 0 < h.heapStart
  end_lt : h.heapEnd < 2 ^ 63
  tiles : Tiles h.heapStart bs h.heapEnd
  chain : h.Chain 0 bs
  list : Seg (fun a => h.get a .next) h.freeList fl 0
  sorted : fl.Pairwise (· < ·)
  listed : fl ⊆ bs.map Block.addr

/-- `h'` differs from `h` only in the headers at the addresses `hs`, the free-list pointer and
the statistics. -/
structure Touches (hs : List Nat) (h h' : Heap) : Prop where
  heapStart : h'.heapStart = h.heapStart
  heapEnd : h'.heapEnd = h.heapEnd
  heapMax : h'.heapMax = h.heapMax
  heapInitialized : h'.heapInitialized = h.heapInitialized
  pmm : h'.pmm = h.pmm
  mem : ∀ a, (∀ x ∈ hs, a < x ∨ x + 32 ≤ a) → h'.mem a = h.mem a

namespace Touches

variable {h₁ h₂ : Heap} {hs hs' : List Nat}

lemma refl (h : Heap) : Touches hs h h := ⟨rfl, rfl, rfl, rfl, rfl, fun _ _ => rfl⟩

lemma trans (h₁₂ : Touches hs h h₁) (h₂₃ : Touches hs h₁ h₂) : Touches hs h h₂ :=
  ⟨h₂₃.heapStart.trans h₁₂.heapStart, h₂₃.heapEnd.trans h₁₂.heapEnd,
    h₂₃.heapMax.trans h₁₂.heapMax, h₂₃.heapInitialized.trans h₁₂.heapInitialized,
    h₂₃.pmm.trans h₁₂.pmm, fun a ha => (h₂₃.mem a ha).trans (h₁₂.mem a ha)⟩

lemma mono (ht : Touches hs h h₁) (hsub : ∀ x ∈ hs, x ∈ hs') : Touches hs' h h₁ :=
  { ht with mem := fun a ha => ht.mem a fun x hx => ha x (hsub x hx) }

lemma set (hx : x ∈ hs) : Touches hs h (h.set x f v) :=
  ⟨by simp, by simp, by simp, by simp, by simp, fun _ ha => set_mem_outside (ha x hx)⟩

lemma setFreeList (p : Nat) : Touches hs h (h.setFreeList p) := by
  rw [Heap.setFreeList]
  exact ⟨rfl, rfl, rfl, rfl, rfl, fun _ _ => rfl⟩

lemma stats (ht : Touches hs h h₁) (st : HeapStats) : Touches hs h { h₁ with stats := st } :=
  ⟨ht.heapStart, ht.heapEnd, ht.heapMax, ht.heapInitialized, ht.pmm, ht.mem⟩

lemma bumpFreeBlocks (ht : Touches hs h h₁) (d : UInt64) : Touches hs h (h₁.bumpFreeBlocks d) := by
  rw [Heap.bumpFreeBlocks]
  exact ht.stats _

end Touches

namespace Shape

variable {fl fl' : List Nat}

lemma addr_pos (hs : h.Shape bs fl) (hx : x ∈ bs.map Block.addr) : 0 < x := by
  obtain ⟨b, hb, rfl⟩ := List.mem_map.mp hx
  exact lt_of_lt_of_le hs.start_pos (hs.tiles.mem_bounds hb).1

/-- A store to one field of a block's header, seen from any field of any block's header. -/
lemma get_set (hs : h.Shape bs fl) (hx : x ∈ bs.map Block.addr) (hy : y ∈ bs.map Block.addr)
    (hne : y ≠ x ∨ g ≠ f) (k : Heap) : (k.set x f v).get y g = k.get y g :=
  get_set_ne (hs.tiles.header_apart hx hy) hne

lemma addr_lt (hs : h.Shape bs fl) (hx : x ∈ bs.map Block.addr) : x < 2 ^ 63 := by
  obtain ⟨b, hb, rfl⟩ := List.mem_map.mp hx
  exact lt_of_le_of_lt (by have := (hs.tiles.mem_bounds hb).2; omega) hs.end_lt

lemma freeList_lt (hs : h.Shape bs fl) : h.freeList < 2 ^ 63 := by
  cases fl with
  | nil => exact (show h.freeList = 0 from hs.list) ▸ Nat.two_pow_pos 63
  | cons a fl => exact hs.addr_lt (hs.listed (hs.list.head_mem (by simp)))

lemma length_lt (hs : h.Shape bs fl) : fl.length < h.walkFuel := by
  have hnodup : fl.Nodup := hs.sorted.imp fun hab => hab.ne
  have hle := (hnodup.subperm hs.listed).length_le
  have := hs.tiles.bounds
  rw [List.length_map] at hle
  rw [walkFuel]
  omega

/-- Another free list over the same blocks: only `next` fields have changed. -/
lemma relist (hs : h.Shape bs fl) (ht : Touches (bs.map Block.addr) h h')
    (hk : ∀ y ∈ bs.map Block.addr, ∀ f, f ≠ .next → h'.get y f = h.get y f)
    (hp : h'.freeList = p) (hseg : Seg (fun a => h'.get a .next) p fl' 0) (hsorted : fl'.Pairwise (· < ·))
    (hlisted : fl' ⊆ bs.map Block.addr) : h'.Shape bs fl' where
  start_pos := ht.heapStart ▸ hs.start_pos
  end_lt := ht.heapEnd ▸ hs.end_lt
  tiles := by rw [ht.heapStart, ht.heapEnd]; exact hs.tiles
  chain := hs.chain.congr fun b hb => hk b.addr (List.mem_map_of_mem hb)
  list := by rw [hp]; exact hseg
  sorted := hsorted
  listed := hlisted

lemma stats (hs : h.Shape bs fl) (st : HeapStats) : { h with stats := st }.Shape bs fl :=
  hs.relist ((Touches.refl h).stats st) (fun _ _ _ _ => get_stats st) rfl
    (hs.list.congr fun _ _ => get_stats st) hs.sorted hs.listed

/-- One block's mark has changed, and nothing else that `Shape` sees. -/
lemma remark {b' : Block} (hs : h.Shape (pre ++ b :: post) fl) (haddr : b'.addr = b.addr)
    (hsize : b'.size = b.size) (ht : Touches ((pre ++ b :: post).map Block.addr) h h')
    (hfl : h'.freeList = h.freeList)
    (hk : ∀ y ∈ (pre ++ b :: post).map Block.addr, ∀ f, y ≠ b.addr ∨ f = .next → h'.get y f = h.get y f)
    (hb : h'.Header b' (lastAddr 0 pre)) : h'.Shape (pre ++ b' :: post) fl := by
  have hother : ∀ c ∈ pre ++ post, ∀ f, h'.get c.addr f = h.get c.addr f := fun c hc f =>
    hk c.addr (List.mem_map_of_mem (by simp at hc ⊢; tauto)) f (.inl (hs.tiles.addr_ne hc))
  obtain ⟨hpre, -, hpost⟩ := Chain.append.mp hs.chain
  refine ⟨ht.heapStart ▸ hs.start_pos, ht.heapEnd ▸ hs.end_lt, ?_, ?_, ?_, hs.sorted, ?_⟩
  · rw [ht.heapStart, ht.heapEnd]
    simpa [Tiles.append, Tiles, haddr, hsize] using hs.tiles
  · refine Chain.append.mpr ⟨hpre.congr fun c hc f _ => hother c (by simp [hc]) f, hb, ?_⟩
    rw [haddr]
    exact hpost.congr fun c hc f _ => hother c (by simp [hc]) f
  · rw [hfl]
    exact hs.list.congr fun y hy => hk y (hs.listed hy) _ (.inr rfl)
  · simpa [haddr] using hs.listed

end Shape

end Heap

end AAAos
