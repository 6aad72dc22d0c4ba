import AAAos.Kernel.Mm.HeapRealloc

/-!
# What a client keeps while others call

An allocation stays what it is until its own pointer is passed to `kfree` or `krealloc`: no call for
another pointer moves its end, and none but a store of its own client changes a byte of it.
-/

namespace AAAos

/-- The calls that give up the pointer `ptr`. -/
def HeapCall.Releases (ptr : Nat) : HeapCall → Prop
  | .krealloc q _ => q = ptr
  | .kfree q => q = ptr
  | _ => False

/-- The store to an address. -/
def HeapCall.StoresAt (a : Nat) : HeapCall → Prop
  | .store b _ => b = a
  | _ => False

namespace HeapMachine

variable {m m' : HeapMachine} {c : HeapCall} {ptr : Nat}

/-- The payload at `ptr` has the same end, and the same bytes but where the call `c` stores. -/
def KeepsPayload (c : HeapCall) (h h' : Heap) (ptr : Nat) : Prop :=
  payloadEnd h' ptr = payloadEnd h ptr ∧ ∀ a, ptr ≤ a → a < payloadEnd h ptr → ¬ c.StoresAt a → h'.mem a = h.mem a

lemma SamePayload.keepsPayload {h h' : Heap} (hs : SamePayload h h' ptr) : KeepsPayload c h h' ptr :=
  ⟨hs.1, fun a hlo hhi _ => hs.2 a hlo hhi⟩

lemma samePayload_of_hold {bs bs' : List Block} {h' : Heap} {need r : Nat} (hs : m.heap.Sound bs)
    (hs' : h'.Sound bs') (hk : Heap.KeepsPayloads (usedBlocks bs) m.heap h')
    (hlive : ∀ ptr, ptr ∈ m.live ↔ ∃ b ∈ usedBlocks bs, ptr = b.addr + headerSize)
    (hout : r = 0 ∧ usedBlocks bs' = usedBlocks bs ∨
      Heap.Allocated need (usedBlocks bs) (usedBlocks bs') r) (hptr : ptr ∈ m.live) :
    SamePayload m.heap h' ptr := by
  obtain ⟨b, hb, rfl⟩ := (hlive ptr).mp hptr
  have hb' : b ∈ usedBlocks bs' := by
    rcases hout with ⟨-, hused⟩ | ⟨d, -, -, hmem, -⟩
    · exact hused ▸ hb
    · exact (hmem b).mpr (.inr hb)
  exact samePayload_of_keeps hs hs' hk hb (Heap.mem_usedBlocks.mp hb).1 (Heap.mem_usedBlocks.mp hb').1

lemma Inv.kfree_same (hm : m.Inv) {q : Nat} {h' : Heap} (hq : q = 0 ∨ q ∈ m.live)
    (hrun : m.heap.kfree q = some h') (hptr : ptr ∈ m.live) (hne : q ≠ ptr) :
    SamePayload m.heap h' ptr := by
  obtain ⟨bs, hs, hlive⟩ := hm
  rcases hq with rfl | hq
  · simp only [Heap.kfree, if_true, Option.some.injEq] at hrun
    exact hrun ▸ ⟨rfl, fun _ _ _ => rfl⟩
  · obtain ⟨pre, b, post, rfl, hb, rfl⟩ := exists_split hlive hq
    obtain ⟨h₁, bs', hfree, hs', hused, hkeep⟩ := hs.kfree hb
    obtain rfl : h₁ = h' := Option.some.inj (hfree.symm.trans hrun)
    obtain ⟨c, hc, rfl⟩ := (hlive ptr).mp hptr
    have hc' : c ∈ usedBlocks (pre ++ post) :=
      (Heap.mem_usedBlocks_remove hs.listed.tiles).mpr ⟨hc, fun heq => hne (by rw [heq])⟩
    exact samePayload_of_keeps hs hs' hkeep hc' (Heap.mem_usedBlocks.mp hc).1
      (Heap.mem_usedBlocks.mp (hused ▸ hc')).1

/-- **The frame of a call.**  A pointer that is not given up stays live, and its payload is kept. -/
lemma Inv.frame (hm : m.Inv) (hstep : Step m c m') (hptr : ptr ∈ m.live) (hc : ¬ c.Releases ptr) :
    ptr ∈ m'.live ∧ KeepsPayload c m.heap m'.heap ptr := by
  obtain ⟨hlegal, hrun⟩ := hstep
  obtain ⟨bs, hs, hlive⟩ := id hm
  cases c with
  | kmalloc size =>
    obtain ⟨r, h', bs', hcall, hs', hk, hout⟩ := @Heap.Sound.kmalloc _ _ hs size (.inl hlegal)
    simp only [HeapMachine.exec, hcall, Option.map_some, Option.some.injEq] at hrun
    subst hrun
    refine ⟨?_, (samePayload_of_hold hs hs' hk hlive hout hptr).keepsPayload⟩
    unfold hold
    split_ifs
    · exact hptr
    · exact Finset.mem_insert_of_mem hptr
  | kcalloc count size =>
    obtain ⟨r, h', bs', hcall, hs', hk, hout⟩ := @Heap.Sound.kcalloc _ _ hs count size (.inl hlegal)
    simp only [HeapMachine.exec, hcall, Option.map_some, Option.some.injEq] at hrun
    subst hrun
    refine ⟨?_, (samePayload_of_hold hs hs' hk hlive hout hptr).keepsPayload⟩
    unfold hold
    split_ifs
    · exact hptr
    · exact Finset.mem_insert_of_mem hptr
  | krealloc q newSize =>
    have hne : q ≠ ptr := hc
    have herase : ptr ∈ m.live.erase q := Finset.mem_erase.mpr ⟨hne.symm, hptr⟩
    by_cases hnz : newSize = 0
    · obtain ⟨h', hfree, -⟩ := hm.kfree hlegal.1
      simp only [HeapMachine.exec, hnz, krealloc_zero hs.initialized, hfree, Option.map_some, Option.some.injEq,
        if_true] at hrun
      subst hrun
      exact ⟨herase, (hm.kfree_same hlegal.1 hfree hptr hne).keepsPayload⟩
    rcases hlegal.1 with rfl | hq
    · obtain ⟨r, h', bs', hcall, hs', hk, hout⟩ := hs.kmalloc (.inl hlegal.2)
      have hcall' : m.heap.krealloc 0 newSize = some (r, h') := by simp [Heap.krealloc, hcall]
      simp only [HeapMachine.exec, hcall', Option.map_some, Option.some.injEq, if_neg hnz] at hrun
      subst hrun
      refine ⟨?_, (samePayload_of_hold hs hs' hk hlive hout hptr).keepsPayload⟩
      dsimp only
      split_ifs
      · exact hptr
      · exact Finset.mem_insert_of_mem herase
    · obtain ⟨r, h', hcall, hres⟩ := hm.resized hq hnz hlegal.2
      simp only [HeapMachine.exec, hcall, Option.map_some, Option.some.injEq, if_neg hnz] at hrun
      subst hrun
      dsimp only
      by_cases hr : r = 0
      · rw [if_pos hr]
        exact ⟨hptr, SamePayload.keepsPayload (hres.null hr ptr hptr)⟩
      · rw [if_neg hr]
        exact ⟨Finset.mem_insert_of_mem herase, SamePayload.keepsPayload (hres.others hr ptr hptr hne.symm)⟩
  | kfree q =>
    have hne : q ≠ ptr := hc
    obtain ⟨h', hfree, -⟩ := hm.kfree hlegal
    simp only [HeapMachine.exec, hfree, Option.map_some, Option.some.injEq] at hrun
    subst hrun
    exact ⟨Finset.mem_erase.mpr ⟨hne.symm, hptr⟩, (hm.kfree_same hlegal hfree hptr hne).keepsPayload⟩
  | heapExpand minSize =>
    obtain ⟨r, h', bs', hcall, hs', hused, hk⟩ := hs.heapExpand minSize
      (.inl (le_trans (show minSize.toNat ≤ heapMaxSize from hlegal) (by decide)))
    simp only [HeapMachine.exec, hcall, Option.map_some, Option.some.injEq] at hrun
    subst hrun
    have hsame : SamePayload m.heap h' ptr :=
      @samePayload_of_hold m ptr bs bs' h' 0 0 hs hs' hk hlive (.inl ⟨rfl, hused⟩) hptr
    exact ⟨hptr, hsame.keepsPayload⟩
  | store addr v =>
    simp only [HeapMachine.exec, Option.some.injEq] at hrun
    subst hrun
    obtain ⟨q, hq, hlo, hhi⟩ := hlegal
    obtain ⟨d, hd, rfl⟩ := (hlive q).mp hq
    have hmem := (Heap.mem_usedBlocks.mp hd).1
    rw [payloadEnd_eq hs hmem] at hhi
    have hs' := hs.writePayload hmem (m := Function.update m.heap.mem addr v) fun a ha =>
      Function.update_of_ne (by simp only [headerSize] at hlo; omega) _ _
    obtain ⟨b, hb, rfl⟩ := (hlive ptr).mp hptr
    have hb' := (Heap.mem_usedBlocks.mp hb).1
    refine ⟨hptr, ?_, fun a _ _ hstore => Function.update_of_ne (Ne.symm hstore) _ _⟩
    rw [payloadEnd_eq hs hb']
    exact payloadEnd_eq (m := ⟨_, ∅⟩) hs' hb'
  | pages p =>
    simp only [HeapMachine.exec, Option.some.injEq] at hrun
    subst hrun
    obtain ⟨b, hb, rfl⟩ := (hlive ptr).mp hptr
    have hb' := (Heap.mem_usedBlocks.mp hb).1
    refine ⟨hptr, ?_, fun _ _ _ _ => rfl⟩
    rw [payloadEnd_eq hs hb']
    exact payloadEnd_eq (m := ⟨_, ∅⟩) (hs.withPmm p) hb'

/-- A legal call that neither gives up `ptr` nor stores between `lo` and `hi`. -/
def SparingStep (ptr lo hi : Nat) (m : HeapMachine) (c : HeapCall) (m' : HeapMachine) : Prop :=
  Step m c m' ∧ ¬ c.Releases ptr ∧ ∀ a, lo ≤ a → a < hi → ¬ c.StoresAt a

/-- What holds along a run of such calls, from `m` on. -/
structure Spared (ptr lo hi : Nat) (m m' : HeapMachine) : Prop where
  inv : m'.Inv
  live : ptr ∈ m'.live
  payloadEnd : payloadEnd m'.heap ptr = payloadEnd m.heap ptr
  bytes : ∀ a, lo ≤ a → a < hi → m'.heap.mem a = m.heap.mem a

/-- **The frame of a run.** -/
lemma Inv.spared {lo hi : Nat} {calls : List HeapCall} (hm : m.Inv) (hptr : ptr ∈ m.live)
    (hlo : ptr ≤ lo) (hhi : hi ≤ payloadEnd m.heap ptr)
    (hrun : Steps (SparingStep ptr lo hi) m calls m') : Spared ptr lo hi m m' := by
  refine hrun.invariant (I := Spared ptr lo hi m) (fun m₁ c m₂ h hstep => ?_)
    ⟨hm, hptr, rfl, fun _ _ _ => rfl⟩
  obtain ⟨hlive, hend, hkeep⟩ := h.inv.frame hstep.1 h.live hstep.2.1
  obtain ⟨m₃, hexec, hinv⟩ := h.inv.exec hstep.1.1
  obtain rfl : m₃ = m₂ := Option.some.inj (hexec.symm.trans hstep.1.2)
  refine ⟨hinv, hlive, hend.trans h.payloadEnd, fun a ha hb => ?_⟩
  rw [hkeep a (by omega) (by rw [h.payloadEnd]; omega) (hstep.2.2 a ha hb), h.bytes a ha hb]

end HeapMachine

end AAAos
