import AAAos.Kernel.Mm.HeapDrained

/-!
# heap_validate

`heap_validate` walks the headers from `heap_start` on and checks the magic value, the link to the
block before, the size, and at the end the sum of the sizes.

**What goes wrong.**  `block_get_next_physical` answers null behind the last block, and the loop
goes on while the address of the block is below `heap_end`.  Null is, so the walk does not end
there: it takes the bytes at address 0 for a header.  From then on it ends with a bad size or at the
limit of 10000 blocks, and both are failures.

**What is proved.**  The function returns in every state, and it returns `false` in every state
(`heapValidate_eq_false`).  In a heap of at most 10000 blocks it has looked at address 0, outside
the heap.
-/

namespace AAAos

namespace Heap

/-- The limit of the walk of `heap_validate`. -/
def validateLimit : Nat := 10000

/-- The checks of the magic value and of the link to the block before. -/
def headerValid (h : Heap) (block prev : Nat) : Bool :=
  decide (h.get block .magic = if h.blockIsUsed block then heapBlockMagic else heapBlockFreeMagic) &&
    decide (h.get block .prev = prev)

/-- The loop of `heap_validate`, with the headers that it looks at: at `block`, after `count` blocks
of `total` bytes of which `prev` is the last, and `valid` so far. -/
def validateLoop (h : Heap) : Nat → Nat → Nat → Nat → Nat → Bool → Option (Bool × List Nat)
  | 0, _, _, _, _, _ => none
  | fuel + 1, block, prev, total, count, valid =>
    if h.heapEnd ≤ block then some (valid && decide (total = h.heapEnd - h.heapStart), [])
    else if h.blockGetSize block < headerSize ∨ h.heapEnd - block < h.blockGetSize block then
      some (false, [block])
    else if validateLimit < count + 1 then some (false, [block])
    else
      (h.validateLoop fuel (h.blockGetNextPhysical block) block
        ((total + h.blockGetSize block) % 2 ^ 64) (count + 1)
        (valid && h.headerValid block prev)).map fun r => (r.1, block :: r.2)

/-- `heap_validate`: its answer, and the headers it has looked at. -/
def heapValidate (h : Heap) : Option (Bool × List Nat) :=
  if !h.heapInitialized then some (false, [])
  else h.validateLoop (validateLimit + 2) h.heapStart 0 0 0 true

variable {h : Heap} {bs : List Block} {fuel block prev total count a e : Nat} {valid : Bool} {r : Bool × List Nat}

lemma blockGetNextPhysical_lt (hend : 0 < h.heapEnd) (block : Nat) : h.blockGetNextPhysical block < h.heapEnd := by
  simp only [blockGetNextPhysical]
  split_ifs with hlast
  · exact hend
  · exact not_le.mp hlast

lemma validateLoop_isSome (hfuel : validateLimit + 2 ≤ fuel + count) (hpos : count ≤ validateLimit) :
    (h.validateLoop fuel block prev total count valid).isSome = true := by
  induction fuel generalizing block prev total count valid with
  | zero => omega
  | succ fuel ih =>
    change Option.isSome (ite (h.heapEnd ≤ block) _ _) = true
    split_ifs with hend hsize hlimit
    · rfl
    · rfl
    · rfl
    · rw [Option.isSome_map]
      exact ih (by omega) (by omega)

/-- **The walk does not find its end**: from inside the heap it answers `false`. -/
lemma validateLoop_eq_false (hblock : block < h.heapEnd)
    (hrun : h.validateLoop fuel block prev total count valid = some r) : r.1 = false := by
  induction fuel generalizing block prev total count valid r with
  | zero => cases hrun
  | succ fuel ih =>
    change ite (h.heapEnd ≤ block) _ _ = _ at hrun
    rw [if_neg (by omega)] at hrun
    split_ifs at hrun with hsize hlimit
    · rw [← Option.some.inj hrun]
    · rw [← Option.some.inj hrun]
    · obtain ⟨r', hr', rfl⟩ := Option.map_eq_some_iff.mp hrun
      have hnext := blockGetNextPhysical_lt (h := h) (Nat.zero_lt_of_lt hblock) block
      exact show r'.1 = false from ih hnext hr'

lemma zero_mem_validateLoop (ht : Tiles a bs h.heapEnd) (hc : h.Chain prev bs) (hne : bs ≠ [])
    (hfew : count + bs.length ≤ validateLimit) (hend : 0 < h.heapEnd)
    (hrun : h.validateLoop fuel a prev total count valid = some r) : 0 ∈ r.2 := by
  induction bs generalizing a prev total count valid fuel r with
  | nil => exact absurd rfl hne
  | cons b bs ih =>
    obtain ⟨rfl, hmin, hal, hrest⟩ := ht
    obtain ⟨hhdr, hchain⟩ := hc
    have hsize := hhdr.blockGetSize hal
    have hbounds := hrest.bounds
    have hnext := hrest.next_eq
    rw [List.length_cons] at hfew
    cases fuel with
    | zero => cases hrun
    | succ fuel =>
      rw [validateLoop, if_neg (by omega), hsize,
        if_neg (show ¬ (b.size < headerSize ∨ h.heapEnd - b.addr < b.size) by
          simp only [headerSize]
          omega), if_neg (by omega)] at hrun
      obtain ⟨r', hr', rfl⟩ := Option.map_eq_some_iff.mp hrun
      refine List.mem_cons_of_mem _ ?_
      rw [blockGetNextPhysical, hsize, hnext] at hr'
      cases bs with
      | cons c bs =>
        have hcaddr : c.addr = b.addr + b.size := hrest.1
        rw [List.head?_cons, Option.map_some, Option.getD_some, hcaddr] at hr'
        exact ih hrest hchain (by simp) (by omega) hr'
      | nil =>
        -- the header at address 0 is looked at before anything is checked
        cases fuel with
        | zero => cases hr'
        | succ fuel =>
          rw [List.head?_nil, Option.map_none, Option.getD_none, validateLoop, if_neg (by omega)] at hr'
          split_ifs at hr' with hbad hlimit
          · rw [← Option.some.inj hr']
            exact List.mem_singleton_self 0
          · rw [← Option.some.inj hr']
            exact List.mem_singleton_self 0
          · obtain ⟨r'', -, rfl⟩ := Option.map_eq_some_iff.mp hr'
            exact List.mem_cons_self

/-- `heap_validate` is exact: it looks at headers in the heap only, accepts, and what it accepts is
consistent. -/
structure ValidateExact (h : Heap) : Prop where
  inside : ∀ r, h.heapValidate = some r → ∀ x ∈ r.2, h.heapStart ≤ x ∧ x + headerSize ≤ h.heapEnd
  accepts : ∃ seen, h.heapValidate = some (true, seen)
  sound : ∀ seen, h.heapValidate = some (true, seen) → ∃ bs, Tiles h.heapStart bs h.heapEnd ∧ h.Chain 0 bs

/-- **`heap_validate` rejects every heap** of at most 10000 blocks, after a look at address 0. -/
lemma Sound.heapValidate {bs' : List Block} (hs : h.Sound bs') (ht : Tiles h.heapStart bs h.heapEnd)
    (hc : h.Chain 0 bs) (hfew : bs.length ≤ validateLimit) :
    (∃ seen, h.heapValidate = some (false, seen) ∧ 0 ∈ seen) ∧ ¬ h.ValidateExact := by
  have hlt := hs.start_lt
  have hne : bs ≠ [] := by
    rintro rfl
    exact hlt.ne ht
  obtain ⟨⟨valid, seen⟩, hrun⟩ := Option.isSome_iff_exists.mp
    (@validateLoop_isSome h (validateLimit + 2) h.heapStart 0 0 0 true le_rfl (Nat.zero_le _))
  obtain rfl : valid = false := validateLoop_eq_false hlt hrun
  have hval : h.heapValidate = some (false, seen) := by
    rw [Heap.heapValidate, hs.initialized, Bool.not_true, if_neg (by decide), hrun]
  refine ⟨⟨seen, hval, zero_mem_validateLoop ht hc hne (by omega) (by omega) hrun⟩, fun hexact => ?_⟩
  obtain ⟨seen', hseen⟩ := hexact.accepts
  rw [hval] at hseen
  cases hseen

end Heap

namespace HeapMachine

variable {m : HeapMachine}

/-- **`heap_validate` is exact in no reachable state** of at most 10000 blocks: it answers `false`,
after a look at the bytes at address 0. -/
theorem heapValidate_rejects (info : Option BootInfo) (boots : List PmmCall) (p : PmmMachine)
    (hboot : Steps PmmMachine.Step (PmmMachine.boot info) boots p)
    (mem : Mem) (start initialSize : UInt64) (h : Heap)
    (hinit : (Heap.uninitialised p.pmm mem).heapInit start initialSize = (true, h))
    (calls : List HeapCall) (m : HeapMachine) (hrun : Steps Step ⟨h, ∅⟩ calls m)
    (bs : List Block) (hbs : Represents m.heap bs) (hfew : bs.length ≤ Heap.validateLimit) :
    (∃ seen, m.heap.heapValidate = some (false, seen) ∧ 0 ∈ seen) ∧ ¬ m.heap.ValidateExact := by
  obtain ⟨bs', hs, -⟩ := inv_of_heapInit hboot hinit hrun
  exact hs.heapValidate hbs.tiles hbs.headers hfew

/-- The heap after `heap_init`, with one block. -/
def fresh : HeapMachine := ⟨onePage.2, ∅⟩

lemma fresh_represents : Represents fresh.heap [fresh.heap.wholeBlock] :=
  Inv.drained (@inv_of_heapInit fresh PmmMachine.threePages [] _ (.nil _) (fun _ => 0) 0 4096
    onePage.2 onePage_init [] (.nil _)) rfl

lemma fresh_few : [fresh.heap.wholeBlock].length ≤ Heap.validateLimit := by
  simp [Heap.validateLimit]

theorem heapValidate_fresh :
    (∃ seen, fresh.heap.heapValidate = some (false, seen) ∧ 0 ∈ seen) ∧ ¬ fresh.heap.ValidateExact :=
  heapValidate_rejects PmmMachine.threePages [] _ (.nil _) (fun _ => 0) 0 4096 onePage.2 onePage_init
    [] fresh (.nil _) _ fresh_represents fresh_few

/-- Right after `heap_init` the answer is `false`. -/
theorem not_validateExact_fresh : ¬ ∀ (calls : List HeapCall) (m : HeapMachine), Steps Step fresh calls m →
      (∃ bs, Represents m.heap bs ∧ bs.length ≤ Heap.validateLimit) → m.heap.ValidateExact := by
  intro hclaim
  have hexact := hclaim [] fresh (.nil _) ⟨_, fresh_represents, fresh_few⟩
  obtain ⟨bs, hs, -⟩ := @inv_of_heapInit fresh PmmMachine.threePages [] _ (.nil _) (fun _ => 0) 0 4096
    onePage.2 onePage_init [] (.nil _)
  exact (hs.heapValidate fresh_represents.tiles fresh_represents.headers fresh_few).2 hexact

end HeapMachine

end AAAos
