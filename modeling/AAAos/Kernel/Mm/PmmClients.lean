import AAAos.Kernel.Mm.PmmSafety
import Mathlib.Data.List.Perm.Basic
import Mathlib.Data.List.Pairwise

/-!
# The clients of the physical memory manager

`pmm.c` keeps one bit per page and no owner, so who holds what exists only in its callers.
`PmmMachine` makes it explicit: the ranges handed out and not yet freed, and the reservations
made.  A client may free any part of a range it holds and nothing else; that is the guard of
the `free` step.

The single bit is also why a reservation cannot protect a page that a client already holds:
the page is set before and after, and the client's later free clears it.  So each reservation
is recorded with what was held at that moment, and `PmmMachine.Safe` promises the rest.
-/

namespace AAAos

/-- `pages` page frames from byte address `addr` on. -/
structure PageRange where
  addr : Nat
  pages : Nat
  deriving DecidableEq

namespace PageRange

/-- The page frame numbered `i` is in the range. -/
def Mem (r : PageRange) (i : Nat) : Prop := r.addr / 4096 ≤ i ∧ i < r.addr / 4096 + r.pages

instance (r : PageRange) (i : Nat) : Decidable (r.Mem i) := inferInstanceAs (Decidable (_ ∧ _))

/-- No page frame is in both. -/
def Disjoint (r s : PageRange) : Prop := ∀ i, ¬ (r.Mem i ∧ s.Mem i)

lemma Disjoint.symm {r s : PageRange} (h : r.Disjoint s) : s.Disjoint r :=
  fun i hi => h i hi.symm

/-- The `count` pages from `addr` on are part of the range. -/
def Contains (r : PageRange) (addr count : UInt64) : Prop :=
  addr.toNat % 4096 = 0 ∧ r.addr ≤ addr.toNat ∧ addr.toNat + 4096 * count.toNat ≤ r.addr + 4096 * r.pages

instance (r : PageRange) (addr count : UInt64) : Decidable (r.Contains addr count) :=
  inferInstanceAs (Decidable (_ ∧ _))

/-- What is left of the range when that part is given back: the pages before it and the pages
after it. -/
def without (r : PageRange) (addr count : UInt64) : List PageRange :=
  let before := (addr.toNat - r.addr) / 4096
  [⟨r.addr, before⟩, ⟨addr.toNat + 4096 * count.toNat, r.pages - before - count.toNat⟩].filter fun s => s.pages != 0

end PageRange

/-- A call of `pmm_reserve_range`, with the ranges held by clients at that moment. -/
structure Reservation where
  addr : UInt64
  size : UInt64
  heldThen : List PageRange

namespace Reservation

/-- Some byte of page `i` is in the reserved bytes. -/
def Covers (ρ : Reservation) (i : Nat) : Prop :=
  4096 * i < ρ.addr.toNat + ρ.size.toNat ∧ ρ.addr.toNat < 4096 * (i + 1) ∧ ρ.size ≠ 0

/-- The end of the range, rounded up to a page, is a 64-bit address. -/
def NoWrap (ρ : Reservation) : Prop := ρ.addr.toNat + ρ.size.toNat + 4095 < 2 ^ 64

/-- The page was in a client's hands when it was reserved. -/
def HeldThen (ρ : Reservation) (i : Nat) : Prop := ∃ r ∈ ρ.heldThen, r.Mem i

end Reservation

/-- The manager with its clients. -/
structure PmmMachine where
  pmm : Pmm
  held : List PageRange
  reserved : List Reservation

/-- The calls of the clients. -/
inductive PmmCall
  | alloc (count : UInt64)
  | free (addr count : UInt64)
  | reserve (addr size : UInt64)

namespace PmmMachine

/-- After `pmm_init`. -/
def boot (info : Option BootInfo) : PmmMachine := ⟨(pmmInit info).2, [], []⟩

def alloc (m : PmmMachine) (count : UInt64) : PmmMachine :=
  let r := pmmAllocPages m.pmm count
  { m with pmm := r.2, held := if r.1 = 0 then m.held else ⟨r.1.toNat, count.toNat⟩ :: m.held }

def free (m : PmmMachine) (r : PageRange) (addr count : UInt64) : PmmMachine :=
  { m with
    pmm := pmmFreePages m.pmm addr count
    held := m.held.erase r ++ r.without addr count }

def reserve (m : PmmMachine) (addr size : UInt64) : PmmMachine :=
  { m with
    pmm := pmmReserveRange m.pmm addr size
    reserved := ⟨addr, size, m.held⟩ :: m.reserved }

/-- One call.  Allocation and reservation are open to everyone; only a part of a range that is
still held may be freed. -/
def Step (m : PmmMachine) : PmmCall → PmmMachine → Prop
  | .alloc count, m' => m' = m.alloc count
  | .free addr count, m' => ∃ r ∈ m.held, r.Contains addr count ∧ m' = m.free r addr count
  | .reserve addr size, m' => m' = m.reserve addr size

/-- What the clients rely on: ranges in hand are apart from each other, page aligned, below the
total and off page 0; none contains a page that was reserved while it was in nobody's hands; a
0 answer means that nothing happened; and the counter is the number of set bits. -/
structure Safe (m : PmmMachine) : Prop where
  disjoint : m.held.Pairwise PageRange.Disjoint
  aligned : ∀ r ∈ m.held, r.addr % 4096 = 0 ∧ 0 < r.addr
  below : ∀ r ∈ m.held, r.addr / 4096 + r.pages ≤ m.pmm.totalPages.toNat
  unreserved : ∀ r ∈ m.held, ∀ ρ ∈ m.reserved, ρ.NoWrap → ∀ i, r.Mem i → ρ.Covers i → ρ.HeldThen i
  zero_fails : ∀ count, (pmmAllocPages m.pmm count).1 = 0 → (pmmAllocPages m.pmm count).2 = m.pmm
  zero_used : bitmapTest m.pmm.bitmap 0 = true
  counted : m.pmm.usedPages.toNat = (usedSet m.pmm.bitmap).card

/-- The inductive form: pages in hand have their bit set, and a page reserved while it was in
nobody's hands has its bit set and has not been handed out since. -/
structure Inv (m : PmmMachine) : Prop where
  wf : m.pmm.WellFormed
  disjoint : m.held.Pairwise PageRange.Disjoint
  aligned : ∀ r ∈ m.held, r.addr % 4096 = 0 ∧ 0 < r.addr
  below : ∀ r ∈ m.held, r.addr / 4096 + r.pages ≤ m.pmm.totalPages.toNat
  held_set : ∀ r ∈ m.held, ∀ i, r.Mem i → bitmapTest m.pmm.bitmap i = true
  reserved_set : ∀ ρ ∈ m.reserved, ρ.NoWrap → ∀ i, ρ.Covers i → i < m.pmm.totalPages.toNat →
    ¬ ρ.HeldThen i → bitmapTest m.pmm.bitmap i = true ∧ ∀ r ∈ m.held, ¬ r.Mem i

lemma inv_boot (info : Option BootInfo) : (boot info).Inv where
  wf := pmmInit_wellFormed info
  disjoint := List.Pairwise.nil
  aligned := by simp [boot]
  below := by simp [boot]
  held_set := by simp [boot]
  reserved_set := by simp [boot]

/-! ## One step -/

lemma Inv.alloc {m : PmmMachine} (h : m.Inv) (count : UInt64) : (m.alloc count).Inv := by
  rcases pmmAllocPages_spec h.wf count with ⟨hzero, hsame⟩ |
    ⟨start, hpos, hle, hcount, haddr, hclear, hmarks⟩
  · -- failure: the machine is unchanged
    have hm : m.alloc count = m := by simp [PmmMachine.alloc, hzero, hsame]
    rwa [hm]
  · have hne : (pmmAllocPages m.pmm count).1 ≠ 0 := by
      intro h0
      rw [h0, UInt64.toNat_zero] at haddr
      omega
    -- the new range is the run found, and every page of it was clear
    set new : PageRange := ⟨(pmmAllocPages m.pmm count).1.toNat, count.toNat⟩ with hnew
    have hmem : ∀ i, new.Mem i ↔ start ≤ i ∧ i < start + count.toNat := by
      intro i
      simp only [hnew, PageRange.Mem, haddr]
      omega
    have hheld : (m.alloc count).held = new :: m.held := by
      simp only [PmmMachine.alloc, if_neg hne, hnew]
    have hfresh : ∀ r ∈ m.held, new.Disjoint r := by
      rintro r hr i ⟨hi, hri⟩
      obtain ⟨hlo, hhi⟩ := (hmem i).mp hi
      have hset := h.held_set r hr i hri
      rw [hclear i hlo hhi] at hset
      exact absurd hset (by decide)
    have hkeep : ∀ i, bitmapTest m.pmm.bitmap i = true → bitmapTest (m.alloc count).pmm.bitmap i = true :=
      fun i hi => (hmarks.test i).mpr (Or.inl hi)
    constructor
    · exact h.wf.pmmAllocPages count
    · rw [hheld]
      exact List.Pairwise.cons hfresh h.disjoint
    · rw [hheld]
      intro r hr
      rcases List.mem_cons.mp hr with rfl | hr
      · simp only [hnew, haddr]
        omega
      · exact h.aligned r hr
    · rw [hheld]
      intro r hr
      have htotal : (m.alloc count).pmm.totalPages = m.pmm.totalPages := hmarks.total
      rw [htotal]
      rcases List.mem_cons.mp hr with rfl | hr
      · simp only [hnew, haddr]
        omega
      · exact h.below r hr
    · rw [hheld]
      intro r hr i hi
      rcases List.mem_cons.mp hr with rfl | hr
      · exact (hmarks.test i).mpr (Or.inr ((hmem i).mp hi))
      · exact hkeep i (h.held_set r hr i hi)
    · intro ρ hρ hnw i hcov hlt hnot
      have htotal : (m.alloc count).pmm.totalPages = m.pmm.totalPages := hmarks.total
      rw [htotal] at hlt
      obtain ⟨hset, hfree⟩ := h.reserved_set ρ hρ hnw i hcov hlt hnot
      refine ⟨hkeep i hset, ?_⟩
      rw [hheld]
      intro r hr hri
      rcases List.mem_cons.mp hr with rfl | hr
      · obtain ⟨hlo, hhi⟩ := (hmem i).mp hri
        rw [hclear i hlo hhi] at hset
        exact absurd hset (by decide)
      · exact hfree r hr hri

/-- The pieces left of a range are inside it, off the part given back, and apart. -/
lemma mem_without {r s : PageRange} {addr count : UInt64} (halign : r.addr % 4096 = 0)
    (hc : r.Contains addr count) (hs : s ∈ r.without addr count) :
    s.addr % 4096 = 0 ∧ r.addr ≤ s.addr ∧ s.addr / 4096 + s.pages ≤ r.addr / 4096 + r.pages ∧
      ∀ i, s.Mem i → r.Mem i ∧ ¬ (addr.toNat / 4096 ≤ i ∧ i < addr.toNat / 4096 + count.toNat) := by
  obtain ⟨ha, hlo, hhi⟩ := hc
  simp only [PageRange.without, List.mem_filter, List.mem_cons, List.not_mem_nil, or_false, bne_iff_ne, ne_eq] at hs
  obtain ⟨rfl | rfl, hne⟩ := hs
  · simp only [PageRange.Mem] at hne ⊢
    exact ⟨by omega, by omega, by omega, fun i hi => by omega⟩
  · simp only [PageRange.Mem] at hne ⊢
    exact ⟨by omega, by omega, by omega, fun i hi => by omega⟩

lemma pairwise_without {r : PageRange} {addr count : UInt64} (halign : r.addr % 4096 = 0)
    (hc : r.Contains addr count) : (r.without addr count).Pairwise PageRange.Disjoint := by
  obtain ⟨ha, hlo, hhi⟩ := hc
  refine List.Pairwise.filter _ ?_
  simp only [List.pairwise_cons, List.mem_singleton, forall_eq, List.not_mem_nil,
    false_implies, implies_true, List.Pairwise.nil, and_true, PageRange.Disjoint,
    PageRange.Mem]
  intro i hi
  omega

lemma Inv.free {m : PmmMachine} (h : m.Inv) {r : PageRange} (hr : r ∈ m.held)
    {addr count : UInt64} (hc : r.Contains addr count) : (m.free r addr count).Inv := by
  have hmarks := pmmFreePages_marks h.wf addr count
  have htotal : (m.free r addr count).pmm.totalPages = m.pmm.totalPages := hmarks.total
  obtain ⟨halign, hpos⟩ := h.aligned r hr
  have hbelow := h.below r hr
  -- the pages cleared are pages of `r`
  have hcleared : ∀ i, freedPages m.pmm addr count i → r.Mem i := by
    rintro i ⟨-, hal, hlo, hhi, -⟩
    obtain ⟨-, hc1, hc2⟩ := hc
    simp only [PageRange.Mem]
    omega
  have hperm : m.held.Perm (r :: m.held.erase r) := List.perm_cons_erase hr
  have hpair : (r :: m.held.erase r).Pairwise PageRange.Disjoint :=
    (hperm.pairwise_iff PageRange.Disjoint.symm).mp h.disjoint
  have hother : ∀ s ∈ m.held.erase r, r.Disjoint s := (List.pairwise_cons.mp hpair).1
  -- a page in hand afterwards was in hand before, and was not given back
  have hstill : ∀ s ∈ (m.free r addr count).held, ∀ i, s.Mem i →
      (∃ t ∈ m.held, t.Mem i) ∧ ¬ freedPages m.pmm addr count i := by
    intro s hs i hi
    rcases List.mem_append.mp hs with hs | hs
    · refine ⟨⟨s, List.mem_of_mem_erase hs, hi⟩, fun hf => ?_⟩
      exact hother s hs i ⟨hcleared i hf, hi⟩
    · obtain ⟨hri, hout⟩ := (mem_without halign hc hs).2.2.2 i hi
      refine ⟨⟨r, hr, hri⟩, fun hf => hout ?_⟩
      exact ⟨hf.2.2.1, hf.2.2.2.1⟩
  have hset : ∀ i, bitmapTest m.pmm.bitmap i = true → ¬ freedPages m.pmm addr count i →
      bitmapTest (m.free r addr count).pmm.bitmap i = true :=
    fun i hb hn => (hmarks.test i).mpr ⟨hb, hn⟩
  constructor
  · exact h.wf.pmmFreePages addr count
  · refine List.pairwise_append.mpr ⟨?_, pairwise_without halign hc, ?_⟩
    · exact (List.pairwise_cons.mp hpair).2
    · intro s hs t ht i hi
      exact hother s hs i ⟨((mem_without halign hc ht).2.2.2 i hi.2).1, hi.1⟩
  · intro s hs
    rcases List.mem_append.mp hs with hs | hs
    · exact h.aligned s (List.mem_of_mem_erase hs)
    · obtain ⟨hal, hle, -, -⟩ := mem_without halign hc hs
      exact ⟨hal, by omega⟩
  · intro s hs
    rw [htotal]
    rcases List.mem_append.mp hs with hs | hs
    · exact h.below s (List.mem_of_mem_erase hs)
    · obtain ⟨-, -, hend, -⟩ := mem_without halign hc hs
      omega
  · intro s hs i hi
    obtain ⟨⟨t, ht, hti⟩, hn⟩ := hstill s hs i hi
    exact hset i (h.held_set t ht i hti) hn
  · intro ρ hρ hnw i hcov hlt hnot
    rw [htotal] at hlt
    obtain ⟨hb, hnone⟩ := h.reserved_set ρ hρ hnw i hcov hlt hnot
    refine ⟨hset i hb fun hf => hnone r hr (hcleared i hf), fun s hs hi => ?_⟩
    obtain ⟨⟨t, ht, hti⟩, -⟩ := hstill s hs i hi
    exact hnone t ht hti

lemma Inv.reserve {m : PmmMachine} (h : m.Inv) (addr size : UInt64) : (m.reserve addr size).Inv := by
  have hmarks := pmmReserveRange_marks h.wf addr size
  have htotal : (m.reserve addr size).pmm.totalPages = m.pmm.totalPages := hmarks.total
  have hkeep : ∀ i, bitmapTest m.pmm.bitmap i = true → bitmapTest (m.reserve addr size).pmm.bitmap i = true :=
    fun i hi => (hmarks.test i).mpr (Or.inl hi)
  constructor
  · exact h.wf.pmmReserveRange addr size
  · exact h.disjoint
  · exact h.aligned
  · rw [htotal]
    exact h.below
  · exact fun r hr i hi => hkeep i (h.held_set r hr i hi)
  · intro ρ hρ hnw i hcov hlt hnot
    rw [htotal] at hlt
    rcases List.mem_cons.mp hρ with rfl | hρ
    · -- the new reservation: its pages are set now, and those in nobody's hands stay so
      refine ⟨(hmarks.test i).mpr (Or.inr ?_), fun r hr hi => hnot ⟨r, hr, hi⟩⟩
      obtain ⟨hc1, hc2, hc3⟩ := hcov
      simp only [Reservation.NoWrap] at hnw hc1 hc2
      have hsum : (addr + size + (4096 - 1)).toNat = addr.toNat + size.toNat + 4095 := by
        rw [UInt64.toNat_add, UInt64.toNat_add, show ((4096 : UInt64) - 1).toNat = 4095 from rfl]
        omega
      refine ⟨hc3, by omega, ?_, hlt⟩
      rw [hsum]
      omega
    · obtain ⟨hb, hnone⟩ := h.reserved_set ρ hρ hnw i hcov hlt hnot
      exact ⟨hkeep i hb, hnone⟩

lemma Inv.step {m m' : PmmMachine} {c : PmmCall} (h : m.Inv) (hs : m.Step c m') : m'.Inv := by
  cases c with
  | alloc count =>
    obtain rfl : m' = m.alloc count := hs
    exact h.alloc count
  | free addr count =>
    obtain ⟨r, hr, hc, rfl⟩ := hs
    exact h.free hr hc
  | reserve addr size =>
    obtain rfl : m' = m.reserve addr size := hs
    exact h.reserve addr size

lemma Inv.safe {m : PmmMachine} (h : m.Inv) : m.Safe where
  disjoint := h.disjoint
  aligned := h.aligned
  below := h.below
  unreserved := by
    intro r hr ρ hρ hnw i hi hcov
    by_contra hnot
    have hlt : i < m.pmm.totalPages.toNat := by
      have := h.below r hr
      simp only [PageRange.Mem] at hi
      omega
    exact (h.reserved_set ρ hρ hnw i hcov hlt hnot).2 r hr hi
  zero_fails := by
    intro count h0
    rcases pmmAllocPages_spec h.wf count with ⟨-, hsame⟩ | ⟨start, hpos, -, -, haddr, -⟩
    · exact hsame
    · rw [h0, UInt64.toNat_zero] at haddr
      omega
  zero_used := h.wf.zero_used
  counted := h.wf.counted

/-! ## Every run -/

lemma inv_of_steps {info calls} {m : PmmMachine} (hrun : Steps Step (boot info) calls m) : m.Inv :=
  hrun.invariant (fun _ _ _ h hs => h.step hs) (inv_boot info)

/-- **Physical allocator safety.**  After `pmm_init` on any memory map, along every sequence of
allocations, frees of held memory and reservations. -/
theorem safe_of_steps (info : Option BootInfo) (calls : List PmmCall) (m : PmmMachine)
    (hrun : Steps Step (boot info) calls m) : m.Safe :=
  (inv_of_steps hrun).safe

/-- A machine with three usable pages, right above the first megabyte. -/
def threePages : Option BootInfo := some ⟨bootMagic, [⟨0x100000, 0x3000, memoryTypeUsable⟩]⟩

/-- A run on it: two pages allocated, the second of them given back, the third reserved. -/
theorem safe_threePages :
    ((((boot threePages).alloc 2).free ⟨0x100000, 2⟩ 0x101000 1).reserve 0x102000 0x1000).Safe :=
  safe_of_steps threePages [.alloc 2, .free 0x101000 1, .reserve 0x102000 0x1000] _
    (.cons rfl (.cons ⟨_, by set_option maxRecDepth 8192 in decide, by decide, rfl⟩ (.cons rfl (.nil _))))

/-- The ranges in hand lie outside every reserved range, whenever it was reserved. -/
def OutsideReservations (m : PmmMachine) : Prop :=
  ∀ r ∈ m.held, ∀ ρ ∈ m.reserved, ∀ i, r.Mem i → ¬ ρ.Covers i

/-- A reservation does not take a page out of a client's hands: allocating a page and then
reserving it leaves the page both held and reserved. -/
theorem not_outsideReservations : ¬ ∀ (info : Option BootInfo) (calls : List PmmCall) (m : PmmMachine),
      Steps Step (boot info) calls m → m.OutsideReservations := by
  intro hclaim
  have hrun : Steps Step (boot threePages) [.alloc 1, .reserve 0x100000 0x1000]
      (((boot threePages).alloc 1).reserve 0x100000 0x1000) := .cons rfl (.cons rfl (.nil _))
  have hheld : (((boot threePages).alloc 1).reserve 0x100000 0x1000).held = [⟨0x100000, 1⟩] := by
    set_option maxRecDepth 8192 in decide
  refine hclaim _ _ _ hrun ⟨0x100000, 1⟩ ?_ ⟨0x100000, 0x1000, _⟩ (List.mem_cons_self ..) 256 ?_ ?_
  · rw [hheld]
    exact List.mem_cons_self ..
  · decide
  · exact ⟨by decide, by decide, by decide⟩

end PmmMachine

end AAAos
