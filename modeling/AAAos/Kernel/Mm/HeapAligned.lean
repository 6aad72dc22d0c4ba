import AAAos.Kernel.Mm.HeapFrame

/-!
# Aligned allocation

`kmalloc_aligned` asks `kmalloc` for the size, the alignment and a pointer more, rounds the address
behind the first pointer up, and stores what `kmalloc` answered right below the address it returns.
`kfree_aligned` reads it back from there.

The test for powers of two lets `0` through.  Rounding up to a multiple of 0 gives 0, so that call
allocates, stores the pointer below address 0 and returns null (`kmallocAligned_zero`); what
is said here of the addresses that are returned does not concern it.
-/

namespace AAAos

namespace Heap

/-- The address of `((void**)a)[-1]`. -/
def savedSlot (a : Nat) : Nat := (a + (2 ^ 64 - 8)) % 2 ^ 64

/-- The address that `kmalloc_aligned` returns for the block at `ptr`. -/
def alignedAddr (ptr : Nat) (alignment : UInt64) : Nat :=
  (alignUp (UInt64.ofNat ptr + 8) alignment).toNat

/-- `kmalloc_aligned`. -/
def kmallocAligned (h : Heap) (size alignment : UInt64) : Option (Nat × Heap) :=
  if !h.heapInitialized ∨ size = 0 then some (0, h)
  else if alignment &&& (alignment - 1) ≠ 0 then some (0, h)
  else do
    let extra := alignment + 8
    let r ← h.kmalloc (size + extra)
    if r.1 = 0 then some (0, r.2)
    else
      let aligned := alignedAddr r.1 alignment
      some (aligned, { r.2 with mem := writeLE r.2.mem (savedSlot aligned) 8 r.1 })

/-- `kfree_aligned`. -/
def kfreeAligned (h : Heap) (ptr : Nat) : Option Heap :=
  if ptr = 0 then some h else h.kfree (readLE h.mem (savedSlot ptr) 8)

variable {h : Heap} {alignment : UInt64} {ptr a : Nat}

lemma savedSlot_eq (hlo : 8 ≤ a) (hhi : a < 2 ^ 64) : savedSlot a = a - 8 := by
  rw [savedSlot]
  omega

lemma exists_pow_of_test (htest : alignment &&& (alignment - 1) = 0) (hne : alignment ≠ 0) :
    ∃ k < 64, alignment.toNat = 2 ^ k := by
  have hpos : alignment.toNat ≠ 0 := fun h => hne (UInt64.toNat_inj.mp h)
  have hone : (1 : UInt64) ≤ alignment := UInt64.le_iff_toNat_le.mpr (Nat.one_le_iff_ne_zero.mpr hpos)
  have hnat : alignment.toNat &&& (alignment.toNat - 1) = 0 := by
    rw [show alignment.toNat - 1 = (alignment - 1).toNat from (UInt64.toNat_sub_of_le _ _ hone).symm,
      ← UInt64.toNat_and, htest, UInt64.toNat_zero]
  obtain ⟨k, hk⟩ := (Nat.and_sub_one_eq_zero_iff_isPowerOfTwo hpos).mp hnat
  refine ⟨k, ?_, hk⟩
  by_contra hbig
  have hlt : alignment.toNat < 2 ^ 64 := alignment.toNat_lt
  have hpow : 2 ^ 64 ≤ 2 ^ k := Nat.pow_le_pow_right (by omega) (by omega)
  omega

/-- `ALIGN_UP` to a power of two. -/
lemma toNat_alignUp_pow {x : UInt64} {k : Nat} (hk : k < 64) (hpow : alignment.toNat = 2 ^ k) :
    (alignUp x alignment).toNat = (x + (alignment - 1)).toNat / 2 ^ k * 2 ^ k := by
  have hpos := Nat.two_pow_pos k
  have hone : (1 : UInt64) ≤ alignment := UInt64.le_iff_toNat_le.mpr (by
    rw [hpow]
    exact hpos)
  refine toNat_and_not_mask _ _ k hk.le ?_
  rw [UInt64.toNat_sub_of_le _ _ hone, hpow]
  rfl

/-- The address that is returned is a multiple of the alignment, and the first one with room for a
pointer below it. -/
lemma alignedAddr_spec (htest : alignment &&& (alignment - 1) = 0) (hne : alignment ≠ 0)
    (hlt : ptr + 8 + alignment.toNat ≤ 2 ^ 64) :
    alignment.toNat ∣ alignedAddr ptr alignment ∧ ptr + 8 ≤ alignedAddr ptr alignment ∧
      alignedAddr ptr alignment < ptr + 8 + alignment.toNat := by
  obtain ⟨k, hk, hpow⟩ := exists_pow_of_test htest hne
  have hpos := Nat.two_pow_pos k
  have hone : (1 : UInt64) ≤ alignment := UInt64.le_iff_toNat_le.mpr (by
    rw [hpow]
    exact hpos)
  have hsum : (UInt64.ofNat ptr + 8 + (alignment - 1)).toNat = ptr + 7 + 2 ^ k := by
    rw [UInt64.toNat_add, UInt64.toNat_add, UInt64.toNat_ofNat', UInt64.toNat_sub_of_le _ _ hone,
      show (8 : UInt64).toNat = 8 from rfl, show (1 : UInt64).toNat = 1 from rfl, hpow]
    omega
  have heq : alignedAddr ptr alignment = (ptr + 7 + 2 ^ k) / 2 ^ k * 2 ^ k := by
    rw [alignedAddr, toNat_alignUp_pow hk hpow, hsum]
  have hle := Nat.div_mul_le_self (ptr + 7 + 2 ^ k) (2 ^ k)
  have hgt := Nat.lt_div_mul_add (a := ptr + 7 + 2 ^ k) hpos
  rw [hpow, heq]
  refine ⟨Nat.dvd_mul_left _ _, ?_, ?_⟩
  all_goals omega

/-- `kmalloc_aligned` past its checks. -/
lemma kmallocAligned_eq {size : UInt64} {k : Heap} (hinit : h.heapInitialized = true) (hpos : size ≠ 0)
    (htest : alignment &&& (alignment - 1) = 0)
    (hrun : h.kmalloc (size + (alignment + 8)) = some (ptr, k)) :
    h.kmallocAligned size alignment = some (if ptr = 0 then (0, k) else (alignedAddr ptr alignment,
      { k with mem := writeLE k.mem (savedSlot (alignedAddr ptr alignment)) 8 ptr })) := by
  rw [kmallocAligned, if_neg (by simp [hinit, hpos]), if_neg (by simp [htest])]
  simp only [hrun, Option.bind_eq_bind, Option.bind_some]
  split_ifs
  · rfl
  · rfl

lemma alignedAddr_zero (ptr : Nat) : alignedAddr ptr 0 = 0 := by
  rw [alignedAddr, alignUp, show ~~~((0 : UInt64) - 1) = 0 by decide, UInt64.and_zero,
    UInt64.toNat_zero]

/-- An alignment of 0 passes the test, and null is returned whatever has been allocated. -/
lemma kmallocAligned_zero {size : UInt64} {r : Nat × Heap} (hrun : h.kmallocAligned size 0 = some r) : r.1 = 0 := by
  unfold kmallocAligned at hrun
  split_ifs at hrun with hnone htest
  · rw [← Option.some.inj hrun]
  · rw [← Option.some.inj hrun]
  · obtain ⟨q, -, hq⟩ := Option.bind_eq_some_iff.mp hrun
    split_ifs at hq with hnull
    · rw [← Option.some.inj hq]
    · rw [← Option.some.inj hq]
      exact alignedAddr_zero q.1

end Heap

namespace HeapMachine

variable {m : HeapMachine}

/-- What `kmalloc_aligned` has answered with `a` out of the block whose payload is at `p`: a multiple
of the alignment, with the saved pointer and the size asked for inside the payload; and after any
calls that spare the block and the saved pointer, `kfree_aligned` frees this block. -/
structure AlignedBlock (m : HeapMachine) (size alignment : UInt64) (a : Nat) (h' : Heap)
    (p : Nat) : Prop where
  fresh : p ∉ m.live
  inv : Inv ⟨h', insert p m.live⟩
  multiple : alignment.toNat ∣ a
  slot : p + 8 ≤ a
  room : a + size.toNat ≤ payloadEnd h' p
  frees : ∀ (calls : List HeapCall) (m' : HeapMachine),
    Steps (SparingStep p (a - 8) a) ⟨h', insert p m.live⟩ calls m' →
      p ∈ m'.live ∧ ∃ h'', m'.heap.kfreeAligned a = some h'' ∧ m'.heap.kfree p = some h'' ∧ Inv ⟨h'', m'.live.erase p⟩

lemma Inv.kfreeAligned {m' : HeapMachine} {h₀ : Heap} {p a : Nat} {calls : List HeapCall}
    (hm : Inv ⟨h₀, insert p m.live⟩) (hsaved : readLE h₀.mem (a - 8) 8 = p) (hslot : p + 8 ≤ a)
    (hend : a ≤ payloadEnd h₀ p) (hlt : a < 2 ^ 64)
    (hrun : Steps (SparingStep p (a - 8) a) ⟨h₀, insert p m.live⟩ calls m') :
    p ∈ m'.live ∧ ∃ h'', m'.heap.kfreeAligned a = some h'' ∧ m'.heap.kfree p = some h'' ∧
      Inv ⟨h'', m'.live.erase p⟩ := by
  have hspared := hm.spared (Finset.mem_insert_self p m.live) (by omega) hend hrun
  obtain ⟨h'', hfree, hinv⟩ := hspared.inv.kfree (.inr hspared.live)
  refine ⟨hspared.live, h'', ?_, hfree, hinv⟩
  have hread : readLE m'.heap.mem (a - 8) 8 = p := by
    rw [← hsaved]
    exact readLE_congr fun x hlo hhi => hspared.bytes x hlo (by omega)
  rw [Heap.kfreeAligned, if_neg (by omega), Heap.savedSlot_eq (by omega) hlt, hread, hfree]

/-- `kmalloc` for a client: a pointer that was not held, with room for the size. -/
lemma Inv.kmalloc (hm : m.Inv) {size : UInt64} (hsize : size.toNat ≤ heapMaxSize) :
    ∃ r k, m.heap.kmalloc size = some (r, k) ∧ Inv ⟨k, hold m.live r⟩ ∧
      (r ≠ 0 → r ∉ m.live ∧ r + size.toNat ≤ payloadEnd k r ∧ payloadEnd k r < 2 ^ 63) := by
  obtain ⟨bs, hs, hlive⟩ := hm
  obtain ⟨r, k, bs', hrun, hs', -, hout⟩ := hs.kmalloc (.inl hsize)
  refine ⟨r, k, hrun, inv_hold hs' hlive hout, fun hr => ?_⟩
  have hall := hout.resolve_left fun h => hr h.1
  obtain ⟨b, hb, -, hrb, hroom, -⟩ := hall.apart hs'
  have hbounds := (hs'.listed.tiles.mem_bounds hb).2
  have hend := hs'.listed.end_lt
  obtain ⟨d, hrd, -, -, hfresh⟩ := hall
  refine ⟨fun hmem => ?_, ?_⟩
  · obtain ⟨c, hc, hcr⟩ := (hlive r).mp hmem
    exact hfresh c hc (by simp only [headerSize] at hcr hrd; omega)
  · rw [hrb, payloadEnd_eq (m := ⟨k, ∅⟩) hs' hb]
    simp only [headerSize] at hroom ⊢
    omega

lemma Inv.writePayload {k : Heap} {live : Finset Nat} {p : Nat} (hm : Inv ⟨k, live⟩) (hp : p ∈ live)
    {bytes : Mem} (hbytes : ∀ x, x < p ∨ payloadEnd k p ≤ x → bytes x = k.mem x) :
    Inv ⟨{ k with mem := bytes }, live⟩ ∧ payloadEnd { k with mem := bytes } p = payloadEnd k p := by
  obtain ⟨bs, hs, hlive⟩ := hm
  obtain ⟨b, hb, rfl⟩ := (hlive p).mp hp
  have hmem := (Heap.mem_usedBlocks.mp hb).1
  have hend : payloadEnd k (b.addr + headerSize) = b.addr + b.size :=
    payloadEnd_eq (m := ⟨k, ∅⟩) hs hmem
  rw [hend] at hbytes
  have hs' := hs.writePayload hmem hbytes
  exact ⟨⟨bs, hs', hlive⟩, (payloadEnd_eq (m := ⟨_, ∅⟩) hs' hmem).trans hend.symm⟩

/-- **Aligned allocation**, on the invariant. -/
lemma Inv.kmallocAligned (hm : m.Inv) {size alignment : UInt64} (hpos : size ≠ 0)
    (htest : alignment &&& (alignment - 1) = 0)
    (hsize : size.toNat + alignment.toNat + 8 ≤ heapMaxSize) :
    ∃ a h', m.heap.kmallocAligned size alignment = some (a, h') ∧
      (a ≠ 0 → ∃ p, m.AlignedBlock size alignment a h' p) := by
  have hmax : size.toNat + alignment.toNat + 8 ≤ 16777216 := hsize
  have htotal : (size + (alignment + 8)).toNat = size.toNat + alignment.toNat + 8 := by
    rw [UInt64.toNat_add, UInt64.toNat_add, show (8 : UInt64).toNat = 8 from rfl]
    omega
  obtain ⟨p, k, hrun, hinv, hroom⟩ := @Inv.kmalloc m hm (size + (alignment + 8)) (htotal ▸ hsize)
  rw [htotal] at hroom
  have hrun' := Heap.kmallocAligned_eq hm.initialized hpos htest hrun
  by_cases hp : p = 0
  · rw [if_pos hp] at hrun'
    exact ⟨0, k, hrun', fun h0 => absurd rfl h0⟩
  rw [if_neg hp] at hrun'
  obtain ⟨hfresh, hroom, hend⟩ := hroom hp
  rw [hold, if_neg hp] at hinv
  refine ⟨_, _, hrun', fun hne => ⟨p, ?_⟩⟩
  have halign : alignment ≠ 0 := by
    rintro rfl
    exact hne (Heap.alignedAddr_zero p)
  obtain ⟨hdvd, hlo, hhi⟩ := @Heap.alignedAddr_spec alignment p htest halign (by omega)
  obtain ⟨a, ha⟩ : ∃ a, Heap.alignedAddr p alignment = a := ⟨_, rfl⟩
  rw [ha] at hdvd hlo hhi ⊢
  rw [Heap.savedSlot_eq (a := a) (by omega) (by omega)]
  have houtside : ∀ x, x < p ∨ payloadEnd k p ≤ x → writeLE k.mem (a - 8) 8 p x = k.mem x :=
    fun x hx => writeLE_outside (by omega)
  obtain ⟨hinv', hend'⟩ := hinv.writePayload (Finset.mem_insert_self p m.live) houtside
  have hsaved : readLE (writeLE k.mem (a - 8) 8 p) (a - 8) 8 = p := by
    rw [readLE_writeLE_self]
    omega
  refine ⟨hfresh, hinv', hdvd, hlo, ?_, fun calls m' hsteps => ?_⟩
  · rw [hend']
    omega
  · exact hinv'.kfreeAligned hsaved hlo (by rw [hend']; omega) (by omega) hsteps

/-- **The aligned allocation round trip.**  In every state reached from `heap_init`, for every size
from 1 on and every alignment that passes the test. -/
theorem kmallocAligned_of_heapInit (info : Option BootInfo) (boots : List PmmCall) (p : PmmMachine)
    (hboot : Steps PmmMachine.Step (PmmMachine.boot info) boots p)
    (mem : Mem) (start initialSize : UInt64) (h : Heap)
    (hinit : (Heap.uninitialised p.pmm mem).heapInit start initialSize = (true, h))
    (calls : List HeapCall) (m : HeapMachine) (hrun : Steps Step ⟨h, ∅⟩ calls m)
    (size alignment : UInt64) (hpos : size ≠ 0) (htest : alignment &&& (alignment - 1) = 0)
    (hsize : size.toNat + alignment.toNat + 8 ≤ heapMaxSize) :
    ∃ a h', m.heap.kmallocAligned size alignment = some (a, h') ∧
      (a ≠ 0 → ∃ q, m.AlignedBlock size alignment a h' q) :=
  (inv_of_heapInit hboot hinit hrun).kmallocAligned hpos htest hsize

theorem kmallocAligned_twoAllocations : ∃ a h', twoAllocations.heap.kmallocAligned 40 64 = some (a, h') ∧
      (a ≠ 0 → ∃ q, twoAllocations.AlignedBlock 40 64 a h' q) :=
  kmallocAligned_of_heapInit PmmMachine.threePages [] _ (.nil _) (fun _ => 0) 0 4096 onePage.2
    onePage_init _ _ run_twoAllocations 40 64 (by decide) (by decide) (by decide)

end HeapMachine

end AAAos
