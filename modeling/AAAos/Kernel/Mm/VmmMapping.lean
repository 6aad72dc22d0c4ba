import AAAos.Kernel.Mm.VmmTree
import AAAos.Lib.Trace

/-!
# Mapping refines a finite map

The calls `vmm_map_page` and `vmm_unmap_page` on one root, from an empty PML4.  Next to the tables
in memory, `VmmMachine` keeps what the calls are for: a map from pages to frames and flags.

A call that maps is labelled with the answers that `alloc_page_table` gets from the page allocator
while it runs (`0` once they are used up).  The guard `Fresh` is all that is asked of them: a page
that is answered is not a table at that moment.

**Translation** (`refines_of_steps`).  In every state that calls can reach, `vmm_is_mapped` and
`vmm_get_physical` are the lookup in the map, a call that fails leaves the map as it is, and any
other call changes it at its own page.

**User access** (`userReachable_iff`).  A table's entry gets the `USER` flag when it is made, if the
page that it is made for is for users, and keeps what it got.  So a page mapped for users can be
reached by users exactly when the tables that were there before it had been made for users.
-/

namespace AAAos

namespace Vmm

/-- The answers of the page allocator to come, as a source of pages. -/
def scriptAlloc : List UInt64 → UInt64 × List UInt64
  | [] => (0, [])
  | a :: as => (a, as)

/-- Answers that can be given: pages, none of them twice. -/
def ScriptOk (as : List UInt64) : Prop :=
  (as.filter (· ≠ 0)).Nodup ∧ ∀ a ∈ as, a &&& vmmAddrMask = a

instance (as : List UInt64) : Decidable (ScriptOk as) :=
  @instDecidableAnd _ _ (List.nodupDecidable _) (List.decidableBAll _ as)

lemma ScriptOk.tail {a : UInt64} {as : List UInt64} (h : ScriptOk (a :: as)) : ScriptOk as :=
  ⟨h.1.sublist (List.Sublist.filter _ (List.sublist_cons_self a as)), fun b hb => h.2 b (List.mem_cons_of_mem a hb)⟩

/-- A page is taken once it is not among the answers to come. -/
def scriptSource : PageSource (List UInt64) where
  alloc := scriptAlloc
  Ok := ScriptOk
  Taken as q := q ∉ as
  ok {as} h := by
    cases as with
    | nil => exact h
    | cons a as => exact h.tail
  address {as} h hne := by
    cases as with
    | nil => exact absurd rfl hne
    | cons a as => exact h.2 a (List.mem_cons_self ..)
  fresh {as} h hne := by
    cases as with
    | nil => exact absurd rfl hne
    | cons a as => exact not_not.mpr (List.mem_cons_self ..)
  taken {as} h hne := by
    cases as with
    | nil => exact absurd rfl hne
    | cons a as =>
      have hne : a ≠ 0 := hne
      intro (hmem : a ∈ as)
      have hnodup := h.1
      rw [List.filter_cons_of_pos (by simpa using hne)] at hnodup
      exact (List.nodup_cons.mp hnodup).1 (List.mem_filter.mpr ⟨hmem, by simpa using hne⟩)
  keeps {as q} h hq := by
    cases as with
    | nil => exact hq
    | cons a as => exact fun hmem => hq (List.mem_cons_of_mem a hmem)

end Vmm

/-- The tables, and the pages that are mapped: frame and flags by page number. -/
structure VmmMachine where
  vmm : Vmm (List UInt64)
  mapped : Nat → Option (UInt64 × UInt64)

/-- The calls, a mapping with the answers that it gets from the page allocator. -/
inductive VmmCall
  | map (virt phys flags : UInt64) (answers : List UInt64)
  | unmap (virt : UInt64)

namespace VmmMachine

open Vmm

/-- The answers are pages that are not tables now. -/
def Fresh (m : VmmMachine) (answers : List UInt64) : Prop :=
  ScriptOk answers ∧ ∀ q t, q.length ≤ 3 → m.vmm.tableAt m.vmm.root q = some t → t ∉ answers

/-- `vmm_map_page`. -/
def mapPage (m : VmmMachine) (virt phys flags : UInt64) (answers : List UInt64) :
    Bool × VmmMachine :=
  let r := vmmMapPage scriptAlloc { m.vmm with pages := answers } virt phys flags
  (r.1, ⟨r.2, if r.1 then Function.update m.mapped (pageNumber virt) (some (phys, flags))
    else m.mapped⟩)

/-- `vmm_unmap_page`. -/
def unmapPage (m : VmmMachine) (virt : UInt64) : UInt64 × VmmMachine :=
  let r := vmmUnmapPage scriptAlloc m.vmm virt
  (r.1, ⟨r.2, if isAligned virt 4096 then Function.update m.mapped (pageNumber virt) none
    else m.mapped⟩)

/-- `vmm_is_mapped`. -/
def isMapped (m : VmmMachine) (virt : UInt64) : Bool := vmmIsMapped scriptAlloc m.vmm virt

/-- `vmm_get_physical`. -/
def getPhysical (m : VmmMachine) (virt : UInt64) : UInt64 := vmmGetPhysical scriptAlloc m.vmm virt

/-- One call. -/
def Step (m : VmmMachine) : VmmCall → VmmMachine → Prop
  | .map virt phys flags answers, m' =>
    m.Fresh answers ∧ m' = (m.mapPage virt phys flags answers).2
  | .unmap virt, m' => m' = (m.unmapPage virt).2

/-- An empty PML4 somewhere in memory, and nothing mapped. -/
structure Empty (m : VmmMachine) : Prop where
  root : m.vmm.root ≠ 0
  entries : m.vmm.mem m.vmm.root = fun _ => 0
  pages : m.vmm.pages = []
  mapped : m.mapped = fun _ => none

/-- The tables are a tree, the entries of the pages are those of the map, and every entry above
them is writable. -/
structure Inv (m : VmmMachine) : Prop where
  tree : Tree scriptSource m.vmm m.vmm.root
  page : ∀ virt, m.vmm.entryAt m.vmm.root (path virt) = (m.mapped (pageNumber virt)).map fun x => pageEntry x.1 x.2
  write : ∀ q e, q.length ≤ 3 → m.vmm.entryAt m.vmm.root q = some e → e &&& vmmFlagWrite ≠ 0

variable {m m' : VmmMachine} {virt phys flags : UInt64} {answers : List UInt64}

/-! ## Steps -/

lemma inv_empty (h : m.Empty) : m.Inv := by
  have hnone : ∀ q, m.vmm.entryAt m.vmm.root q = none := fun q => entryAt_empty h.entries
  refine ⟨.of_empty ?_ h.root ?_ h.entries, fun virt => ?_, fun q e _ he => ?_⟩
  · rw [h.pages]
    exact ⟨List.nodup_nil, by simp⟩
  · rw [h.pages]
    exact List.not_mem_nil
  · rw [hnone, h.mapped]
    rfl
  · rw [hnone] at he
    cases he

/-- The answers of the next call come instead of what is left of the last one's. -/
lemma Inv.withAnswers (h : m.Inv) (hf : m.Fresh answers) :
    Tree scriptSource { m.vmm with pages := answers } m.vmm.root :=
  ⟨hf.1, h.tree.separate, h.tree.nonzero, hf.2⟩

/-- `vmm_map_page` on the tables of the machine. -/
lemma Inv.map_tree (h : m.Inv) (hf : m.Fresh answers) {r : Bool × VmmMachine}
    (hr : m.mapPage virt phys flags answers = r) :
    Tree scriptSource r.2.vmm m.vmm.root ∧ r.2.vmm.root = m.vmm.root ∧
      (r.1 = false ∧ r.2.mapped = m.mapped ∧ Extends m.vmm.root virt flags m.vmm r.2.vmm ∨
        r.1 = true ∧ isAligned virt 4096 = true ∧ isAligned phys 4096 = true ∧
          r.2.mapped = Function.update m.mapped (pageNumber virt) (some (phys, flags)) ∧
          ∃ s₁ pt, Extends m.vmm.root virt flags m.vmm s₁ ∧ s₁.tableAt m.vmm.root (tablePath virt) = some pt ∧
            ∀ q, q.length ≤ 4 → r.2.vmm.entryAt m.vmm.root q = if q = path virt then some (pageEntry phys flags)
              else s₁.entryAt m.vmm.root q) := by
  obtain ⟨w, hw⟩ : ∃ w, vmmMapPage scriptAlloc { m.vmm with pages := answers } virt phys flags = w :=
    ⟨_, rfl⟩
  obtain ⟨htree, hcases⟩ := (h.withAnswers hf).vmmMapIn hw
  simp only [mapPage, hw] at hr
  subst hr
  refine ⟨htree, ?_⟩
  rcases hcases with ⟨hfail, hext, -⟩ | ⟨hok, hv, hp, s₁, pt, hext, hpt, heq, hentry⟩
  · refine ⟨by simp only [Vmm.root, hext.kernelPml4, hext.cr3], .inl ⟨hfail, by simp [hfail], ?_⟩⟩
    exact ⟨hext.kernelPml4, hext.cr3, hext.entry⟩
  · refine ⟨?_, .inr ⟨hok, hv, hp, by simp [hok], s₁, pt, ?_, hpt, hentry⟩⟩
    · simp only [heq, Vmm.root, Vmm.setEntry, hext.kernelPml4, hext.cr3]
    · exact ⟨hext.kernelPml4, hext.cr3, hext.entry⟩

lemma write_of_extends {s s' : Vmm (List UInt64)} {root : UInt64} (hext : Extends root virt flags s s')
    (h : ∀ q e, q.length ≤ 3 → s.entryAt root q = some e → e &&& vmmFlagWrite ≠ 0)
    {q : List (Fin 512)} {e : UInt64} (hq : q.length ≤ 3) (he : s'.entryAt root q = some e) :
    e &&& vmmFlagWrite ≠ 0 := by
  rcases hext.entry q (by omega) with heq | ⟨-, -, t, ht, hnew⟩
  · exact h q e hq (heq ▸ he)
  · rw [hnew] at he
    obtain rfl := Option.some.inj he
    rw [tableEntry_and ht (by decide)]
    rcases entryFlags_cases flags with ⟨hf, -⟩ | ⟨hf, -⟩
    all_goals
      rw [hf]
      decide

lemma path_ne_of_length {q : List (Fin 512)} (hq : q.length ≤ 3) : q ≠ path virt := by
  rintro rfl
  simp [path] at hq

lemma Inv.map (h : m.Inv) (hf : m.Fresh answers) : (m.mapPage virt phys flags answers).2.Inv := by
  obtain ⟨r, hr⟩ : ∃ r, m.mapPage virt phys flags answers = r := ⟨_, rfl⟩
  obtain ⟨htree, hroot, hcases⟩ := h.map_tree hf hr
  rw [hr]
  refine ⟨hroot ▸ htree, fun w => ?_, fun q e hq he => ?_⟩
  · rw [hroot]
    rcases hcases with ⟨-, hmap, hext⟩ | ⟨-, -, -, hmap, s₁, pt, hext, -, hentry⟩
    · rw [hmap, hext.page, h.page]
    · rw [hmap, hentry _ (by simp [path])]
      split_ifs with hw
      · rw [path_eq_iff.mp hw, Function.update_self]
        rfl
      · rw [Function.update_of_ne (mt path_eq_iff.mpr hw), hext.page, h.page]
  · rw [hroot] at he
    rcases hcases with ⟨-, -, hext⟩ | ⟨-, -, -, -, s₁, pt, hext, -, hentry⟩
    · exact write_of_extends hext h.write hq he
    · rw [hentry q (by omega), if_neg (path_ne_of_length hq)] at he
      exact write_of_extends hext h.write hq he

/-- What `vmm_unmap_page` returns and leaves. -/
lemma Inv.unmap_tree (h : m.Inv) (hal : isAligned virt 4096 = true) {r : UInt64 × VmmMachine}
    (hr : m.unmapPage virt = r) :
    r.2.Inv ∧ r.2.mapped = Function.update m.mapped (pageNumber virt) none ∧
      r.1 = (m.mapped (pageNumber virt)).elim 0 fun x => x.1 &&& vmmAddrMask := by
  obtain ⟨w, hw⟩ : ∃ w, vmmUnmapPage scriptAlloc m.vmm virt = w := ⟨_, rfl⟩
  obtain ⟨htree, hk, hc, hret, hentry⟩ := h.tree.vmmUnmapPage hw hal
  simp only [unmapPage, hw, hal, if_true] at hr
  subst hr
  have hroot : w.2.root = m.vmm.root := by simp only [Vmm.root, hk, hc]
  refine ⟨⟨?_, fun v => ?_, fun q e hq he => ?_⟩, rfl, ?_⟩
  · rw [hroot]
    exact htree
  · simp only [hroot]
    rw [hentry _ (by simp [path])]
    split_ifs with hv
    · rw [path_eq_iff.mp hv, Function.update_self]
      rfl
    · rw [Function.update_of_ne (mt path_eq_iff.mpr hv), h.page]
  · simp only [hroot] at he
    rw [hentry q (by omega), if_neg (path_ne_of_length hq)] at he
    exact h.write q e hq he
  · rw [hret, h.page]
    cases m.mapped (pageNumber virt) with
    | none => rfl
    | some x => exact pageEntry_addr x.1 x.2

lemma unmapPage_unaligned (hal : isAligned virt 4096 = false) : m.unmapPage virt = (0, m) := by
  simp [unmapPage, vmmUnmapPage, hal]

lemma Inv.step (h : m.Inv) {c : VmmCall} (hs : m.Step c m') : m'.Inv := by
  cases c with
  | map virt phys flags answers =>
    obtain ⟨hf, rfl⟩ := hs
    exact h.map hf
  | unmap virt =>
    obtain rfl : m' = (m.unmapPage virt).2 := hs
    cases hal : isAligned virt 4096 with
    | true => exact (h.unmap_tree hal rfl).1
    | false =>
      rw [unmapPage_unaligned hal]
      exact h

/-! ## Translation -/

/-- Frames of the map are page-aligned physical addresses. -/
def Frames (m : VmmMachine) : Prop :=
  ∀ n x, m.mapped n = some x → x.1.toNat % 4096 = 0 ∧ x.1.toNat < 2 ^ 52

/-- A mapping call asks for a physical address of at most 52 bits. -/
def InRange : VmmCall → Prop
  | .map _ phys _ _ => phys.toNat < 2 ^ 52
  | .unmap _ => True

lemma Inv.isMapped (h : m.Inv) (w : UInt64) : m.isMapped w = (m.mapped (pageNumber w)).isSome := by
  rw [VmmMachine.isMapped, show scriptAlloc = scriptSource.alloc from rfl, h.tree.vmmIsMapped, h.page,
    Option.isSome_map]

lemma or_pageOffset {x w : UInt64} (hal : x.toNat % 4096 = 0) : x ||| pageOffset w = x + pageOffset w := by
  have hoff : (pageOffset w).toNat = w.toNat % 2 ^ 12 := toNat_and_mask w 0xFFF 12 (by decide)
  have hlt : x.toNat < 2 ^ 64 := x.toNat_lt
  rw [← UInt64.toNat_inj, UInt64.toNat_or, UInt64.toNat_add, hoff,
    Nat.mod_eq_of_lt (show x.toNat + w.toNat % 2 ^ 12 < 2 ^ 64 by omega)]
  have hx : x.toNat = 2 ^ 12 * (x.toNat / 2 ^ 12) := by omega
  rw [hx, Nat.two_pow_add_eq_or_of_lt (by omega)]

lemma Inv.getPhysical (h : m.Inv) (hfr : m.Frames) (w : UInt64) :
    m.getPhysical w = (m.mapped (pageNumber w)).elim 0 fun x => x.1 + pageOffset w := by
  rw [VmmMachine.getPhysical, show scriptAlloc = scriptSource.alloc from rfl, h.tree.vmmGetPhysical, h.page]
  cases hw : m.mapped (pageNumber w) with
  | none => rfl
  | some x =>
    obtain ⟨hal, hlt⟩ := hfr _ _ hw
    simp only [Option.map_some, Option.elim_some]
    rw [pageEntry_addr, and_addrMask_of_aligned hal hlt, or_pageOffset hal]

lemma Inv.frames (h : m.Inv) (hfr : m.Frames) {c : VmmCall} (hc : InRange c) (hs : m.Step c m') : m'.Frames := by
  cases c with
  | map virt phys flags answers =>
    obtain ⟨hf, rfl⟩ := hs
    obtain ⟨-, -, ⟨-, hmap, -⟩ | ⟨-, -, hp, hmap, -⟩⟩ := @Inv.map_tree _ virt phys flags _ h hf _ rfl
    · rw [Frames, hmap]
      exact hfr
    · intro n x hx
      rw [hmap] at hx
      by_cases hn : n = pageNumber virt
      · rw [hn, Function.update_self] at hx
        obtain rfl := Option.some.inj hx
        exact ⟨(isAligned_page _).mp hp, hc⟩
      · rw [Function.update_of_ne hn] at hx
        exact hfr n x hx
  | unmap virt =>
    obtain rfl : m' = (m.unmapPage virt).2 := hs
    cases hal : isAligned virt 4096 with
    | false =>
      rw [unmapPage_unaligned hal]
      exact hfr
    | true =>
      intro n x hx
      rw [(h.unmap_tree hal rfl).2.1] at hx
      by_cases hn : n = pageNumber virt
      · rw [hn, Function.update_self] at hx
        cases hx
      · rw [Function.update_of_ne hn] at hx
        exact hfr n x hx

lemma pageNumber_add {v o : UInt64} (hal : isAligned v 4096 = true) (ho : o.toNat < 4096) :
    pageNumber (v + o) = pageNumber v ∧ pageOffset (v + o) = o := by
  have hv := (isAligned_page v).mp hal
  have hlt : v.toNat < 2 ^ 64 := v.toNat_lt
  have hsum : (v + o).toNat = v.toNat + o.toNat := by
    rw [UInt64.toNat_add]
    omega
  have hoff : (pageOffset (v + o)).toNat = (v + o).toNat % 2 ^ 12 :=
    toNat_and_mask (v + o) 0xFFF 12 (by decide)
  constructor
  · rw [pageNumber, pageNumber, hsum]
    omega
  · rw [← UInt64.toNat_inj, hoff, hsum]
    omega

/-- `m'` translates the pages in `P` as `m` does. -/
def SameTranslation (m m' : VmmMachine) (P : UInt64 → Prop) : Prop :=
  ∀ w, P w → m'.isMapped w = m.isMapped w ∧ m'.getPhysical w = m.getPhysical w

/-- What the tables are for: they are a finite map from pages to frames. -/
structure Refines (m : VmmMachine) : Prop where
  /-- The two lookups read the map. -/
  lookup : ∀ w, m.isMapped w = (m.mapped (pageNumber w)).isSome ∧
    m.getPhysical w = (m.mapped (pageNumber w)).elim 0 fun x => x.1 + pageOffset w
  /-- A mapping that succeeds maps every offset of its page. -/
  map_ok : ∀ v p flags answers, p.toNat < 2 ^ 52 → m.Fresh answers →
    (m.mapPage v p flags answers).1 = true → ∀ o : UInt64, o.toNat < 4096 →
      (m.mapPage v p flags answers).2.isMapped (v + o) = true ∧
      (m.mapPage v p flags answers).2.getPhysical (v + o) = p + o
  /-- It changes no other page. -/
  map_other : ∀ v p flags answers, p.toNat < 2 ^ 52 → m.Fresh answers →
    SameTranslation m (m.mapPage v p flags answers).2 fun w => pageNumber w ≠ pageNumber v
  /-- A mapping that fails changes no page. -/
  map_fail : ∀ v p flags answers, p.toNat < 2 ^ 52 → m.Fresh answers → (m.mapPage v p flags answers).1 = false →
    SameTranslation m (m.mapPage v p flags answers).2 fun _ => True
  /-- Unmapping returns the frame of the page and leaves it unmapped. -/
  unmap : ∀ v, isAligned v 4096 = true → (m.unmapPage v).2.isMapped v = false ∧
    (m.unmapPage v).1 = (m.mapped (pageNumber v)).elim 0 Prod.fst
  /-- It changes no other page. -/
  unmap_other : ∀ v, SameTranslation m (m.unmapPage v).2 fun w => pageNumber w ≠ pageNumber v

lemma same_of_mapped (h : m.Inv) (hfr : m.Frames) (h' : m'.Inv) (hfr' : m'.Frames)
    {P : UInt64 → Prop} (hmap : ∀ w, P w → m'.mapped (pageNumber w) = m.mapped (pageNumber w)) :
    SameTranslation m m' P := by
  intro w hw
  rw [h.isMapped, h'.isMapped, h.getPhysical hfr, h'.getPhysical hfr', hmap w hw]
  exact ⟨rfl, rfl⟩

lemma Inv.refines (h : m.Inv) (hfr : m.Frames) : m.Refines where
  lookup := fun w => ⟨h.isMapped w, h.getPhysical hfr w⟩
  map_ok := by
    intro v p flags answers hp hf hok o ho
    have h' := @Inv.map _ v p flags _ h hf
    have hfr' := h.frames hfr (c := .map v p flags answers) hp ⟨hf, rfl⟩
    obtain ⟨-, -, ⟨hfail, -⟩ | ⟨-, hal, -, hmap, -⟩⟩ := h.map_tree hf rfl
    · rw [hok] at hfail
      cases hfail
    · obtain ⟨hpage, hoff⟩ := pageNumber_add hal ho
      rw [h'.isMapped, h'.getPhysical hfr', hpage, hmap, Function.update_self, hoff]
      exact ⟨rfl, rfl⟩
  map_other := by
    intro v p flags answers hp hf
    have hfr' := h.frames hfr (c := .map v p flags answers) hp ⟨hf, rfl⟩
    refine same_of_mapped h hfr (h.map hf) hfr' fun w hw => ?_
    obtain ⟨-, -, ⟨-, hmap, -⟩ | ⟨-, -, -, hmap, -⟩⟩ := h.map_tree hf rfl
    · rw [hmap]
    · rw [hmap, Function.update_of_ne hw]
  map_fail := by
    intro v p flags answers hp hf hfail
    have hfr' := h.frames hfr (c := .map v p flags answers) hp ⟨hf, rfl⟩
    refine same_of_mapped h hfr (h.map hf) hfr' fun w _ => ?_
    obtain ⟨-, -, ⟨-, hmap, -⟩ | ⟨hok, -⟩⟩ := h.map_tree hf rfl
    · rw [hmap]
    · rw [hfail] at hok
      cases hok
  unmap := by
    intro v hal
    obtain ⟨h', hmap, hret⟩ := h.unmap_tree hal rfl
    rw [h'.isMapped, hmap, Function.update_self, hret]
    refine ⟨rfl, ?_⟩
    cases hv : m.mapped (pageNumber v) with
    | none => rfl
    | some x => exact and_addrMask_of_aligned (hfr _ _ hv).1 (hfr _ _ hv).2
  unmap_other := by
    intro v
    have hstep : m.Step (.unmap v) (m.unmapPage v).2 := rfl
    refine same_of_mapped h hfr (h.step hstep) (h.frames hfr (c := .unmap v) trivial hstep) fun w hw => ?_
    cases hal : isAligned v 4096 with
    | false => rw [unmapPage_unaligned hal]
    | true => rw [(h.unmap_tree hal rfl).2.1, Function.update_of_ne hw]

/-- **Mapping refines a finite map**, in every state that mapping and unmapping reach from an empty
PML4. -/
theorem refines_of_steps (m₀ : VmmMachine) (hempty : m₀.Empty) (calls : List VmmCall)
    (m : VmmMachine) (hrun : Steps (fun m c m' => InRange c ∧ m.Step c m') m₀ calls m) :
    m.Refines := by
  have hfirst : m₀.Inv ∧ m₀.Frames := by
    refine ⟨inv_empty hempty, fun n x hx => ?_⟩
    rw [hempty.mapped] at hx
    cases hx
  have hlast := hrun.invariant (I := fun m => m.Inv ∧ m.Frames)
    (fun _ _ _ hi hs => ⟨hi.1.step hs.2, hi.1.frames hi.2 hs.1 hs.2⟩) hfirst
  exact hlast.1.refines hlast.2

/-- A PML4 at 16 KB, in a memory of zeros. -/
def blank : VmmMachine := ⟨⟨fun _ _ => 0, 0x4000, 0x4000, []⟩, fun _ => none⟩

lemma blank_empty : blank.Empty := ⟨by decide, rfl, rfl, rfl⟩

lemma fresh_blank {answers : List UInt64} (hok : ScriptOk answers) (hroot : 0x4000 ∉ answers) :
    blank.Fresh answers := by
  refine ⟨hok, fun q t _ ht => ?_⟩
  by_cases hq : q = []
  · subst hq
    obtain rfl : (0x4000 : UInt64) = t := Option.some.inj ht
    exact hroot
  · rw [tableAt_empty blank_empty.entries hq] at ht
    cases ht

/-- Mapping the second page to the third frame with tables at hand. -/
theorem refines_oneMapping : (blank.mapPage 0x1000 0x2000 3 [0x5000, 0x6000, 0x7000]).1 = true ∧
      (blank.mapPage 0x1000 0x2000 3 [0x5000, 0x6000, 0x7000]).2.Refines :=
  ⟨by decide, refines_of_steps blank blank_empty [.map 0x1000 0x2000 3 [0x5000, 0x6000, 0x7000]]
    _ (.cons ⟨show (0x2000 : UInt64).toNat < 2 ^ 52 by decide,
      fresh_blank (by decide) (by decide), rfl⟩ (.nil _))⟩

/-! ## User access -/

/-- All four entries on the walk for `virt` are present and for users, and the three upper ones are
writable. -/
def UserReachable (s : Vmm (List UInt64)) (virt : UInt64) : Prop :=
  ∀ q, q <:+ path virt → q ≠ [] → ∃ e, s.entryAt s.root q = some e ∧ present e = true ∧
    e &&& vmmFlagUser ≠ 0 ∧ (q ≠ path virt → e &&& vmmFlagWrite ≠ 0)

/-- The hardware lets users through when all four entries are present and for users. -/
def UserAccessible (s : Vmm (List UInt64)) (virt : UInt64) : Prop :=
  ∀ q, q <:+ path virt → q ≠ [] → ∃ e, s.entryAt s.root q = some e ∧ e &&& vmmFlagUser ≠ 0

/-- The entries for tables that are already there on the walk for `virt` are for users. -/
def UserWay (s : Vmm (List UInt64)) (virt : UInt64) : Prop :=
  ∀ q e, q <:+ tablePath virt → s.entryAt s.root q = some e → e &&& vmmFlagUser ≠ 0

lemma present_of_entryAt {s : Vmm (List UInt64)} {root e : UInt64} {q : List (Fin 512)}
    (he : s.entryAt root q = some e) : present e = true := by
  cases q with
  | nil => cases he
  | cons i q =>
    obtain ⟨t, -, hlive⟩ := Option.bind_eq_some_iff.mp he
    by_contra hp
    rw [RadixTable.live] at hlive
    split_ifs at hlive with hc
    obtain rfl := Option.some.inj hlive
    rw [child_eq_none.mpr (by simpa using hp)] at hc
    cases hc

lemma suffix_path {q : List (Fin 512)} : q <:+ path virt ↔ q = path virt ∨ q <:+ tablePath virt := by
  rw [path, List.suffix_cons_iff]
  rfl

lemma entry_on_way {s : Vmm (List UInt64)} {root : UInt64} {p q : List (Fin 512)} {t : UInt64}
    (ht : s.tableAt root p = some t) (hq : q <:+ p) (hne : q ≠ []) :
    ∃ e, s.entryAt root q = some e := by
  induction p generalizing t with
  | nil => exact absurd (List.suffix_nil.mp hq) hne
  | cons i p ih =>
    rcases List.suffix_cons_iff.mp hq with rfl | hq
    · rw [tableAt, RadixTable.tableAt_cons] at ht
      obtain ⟨e, he, -⟩ := Option.bind_eq_some_iff.mp ht
      exact ⟨e, he⟩
    · obtain ⟨u, hu, -⟩ := Option.bind_eq_some_iff.mp ht
      exact ih hu hq

/-- A mapping for users: the page is reachable for users exactly when the tables that were there
already were. -/
lemma Inv.userReachable (h : m.Inv) (hf : m.Fresh answers) (huser : flags &&& vmmFlagUser ≠ 0)
    (hok : (m.mapPage virt phys flags answers).1 = true) :
    UserReachable (m.mapPage virt phys flags answers).2.vmm virt ↔ UserWay m.vmm virt := by
  obtain ⟨r, hr⟩ : ∃ r, m.mapPage virt phys flags answers = r := ⟨_, rfl⟩
  have h' := @Inv.map _ virt phys flags _ h hf
  obtain ⟨-, hroot, ⟨hfail, -⟩ | ⟨-, -, -, -, s₁, pt, hext, hpt, hentry⟩⟩ := h.map_tree hf hr
  · rw [hr, hfail] at hok
    cases hok
  rw [hr] at h' ⊢
  have hupper : ∀ q, q <:+ tablePath virt →
      q.length ≤ 3 ∧ r.2.vmm.entryAt m.vmm.root q = s₁.entryAt m.vmm.root q := by
    intro q hq
    have hlen : q.length ≤ 3 := hq.length_le
    exact ⟨hlen, by rw [hentry q (by omega), if_neg (path_ne_of_length hlen)]⟩
  constructor
  · -- an entry that was there is still there
    intro hreach q e hq he
    obtain ⟨hlen, heq⟩ := hupper q hq
    have hne : q ≠ [] := by
      rintro rfl
      cases he
    obtain ⟨e', he', -, huser', -⟩ := hreach q (suffix_path.mpr (.inr hq)) hne
    rw [hroot, heq, hext.keeps (by omega) he] at he'
    exact Option.some.inj he' ▸ huser'
  · intro hway q hq hne
    rw [hroot]
    rcases suffix_path.mp hq with rfl | hq
    · refine ⟨pageEntry phys flags, ?_, pageEntry_present phys flags, ?_, fun hne => absurd rfl hne⟩
      · rw [hentry _ (by simp [path]), if_pos rfl]
      · rw [pageEntry_flag (by decide) (by decide),
          show vmmFlagPresent &&& vmmFlagUser = 0 by decide, UInt64.or_zero]
        exact huser
    · obtain ⟨hlen, heq⟩ := hupper q hq
      obtain ⟨e, he⟩ := entry_on_way hpt hq hne
      rw [← heq] at he
      refine ⟨e, he, present_of_entryAt he, ?_, fun _ => ?_⟩
      · -- the entry was there before, or was made for this page
        rw [heq] at he
        rcases hext.entry q (by omega) with hold | ⟨-, -, t, ht, hnew⟩
        · exact hway q e hq (hold ▸ he)
        · rw [hnew] at he
          obtain rfl := Option.some.inj he
          rw [tableEntry_and ht (by decide)]
          rcases entryFlags_cases flags with ⟨-, hno⟩ | ⟨h7, -⟩
          · exact absurd hno huser
          · rw [h7]
            decide
      · rw [← hroot] at he
        exact h'.write q e hlen he

/-- A page mapped without `USER` is closed to users by its own entry. -/
lemma Inv.not_userAccessible (h : m.Inv) {x : UInt64 × UInt64}
    (hx : m.mapped (pageNumber virt) = some x) (huser : x.2 &&& vmmFlagUser = 0) :
    ¬ UserAccessible m.vmm virt := by
  intro hacc
  obtain ⟨e, he, hflag⟩ := hacc (path virt) (List.suffix_refl _) (by simp [path])
  rw [h.page, hx, Option.map_some] at he
  obtain rfl := Option.some.inj he
  rw [pageEntry_flag (by decide) (by decide), show vmmFlagPresent &&& vmmFlagUser = 0 by decide,
    UInt64.or_zero] at hflag
  exact hflag huser

/-- **User mappings.**  In every state that mapping and unmapping reach from an empty PML4: after a
further mapping for users that succeeds, the page is reachable for users if and only if the tables
that were on its way already had been made for users; and no page mapped without `USER` is open to
users. -/
theorem userReachable_iff (m₀ : VmmMachine) (hempty : m₀.Empty) (calls : List VmmCall)
    (m : VmmMachine) (hrun : Steps Step m₀ calls m) :
    (∀ virt phys flags answers, m.Fresh answers → flags &&& vmmFlagUser ≠ 0 →
      (m.mapPage virt phys flags answers).1 = true →
      (UserReachable (m.mapPage virt phys flags answers).2.vmm virt ↔ UserWay m.vmm virt)) ∧
    (∀ virt x, m.mapped (pageNumber virt) = some x → x.2 &&& vmmFlagUser = 0 → ¬ UserAccessible m.vmm virt) := by
  have h : m.Inv := hrun.invariant (fun _ _ _ hi hs => hi.step hs) (inv_empty hempty)
  exact ⟨fun _ _ _ _ hf huser hok => h.userReachable hf huser hok,
    fun _ _ hx huser => h.not_userAccessible hx huser⟩

/-- The first mapping of a region is for users: so are its tables. -/
theorem userReachable_firstMapping :
    UserReachable (blank.mapPage 0x1000 0x2000 7 [0x5000, 0x6000, 0x7000]).2.vmm 0x1000 := by
  refine ((userReachable_iff blank blank_empty [] blank (.nil _)).1 0x1000 0x2000 7
    [0x5000, 0x6000, 0x7000] (fresh_blank (by decide) (by decide)) (by decide)
    (by decide)).mpr ?_
  intro q e hq he
  rw [entryAt_empty blank_empty.entries] at he
  cases he

/-- The kernel's page first, then a page for users next to it: the PML4 entry stays closed. -/
theorem not_userReachable_secondMapping : ¬ ∀ (m₀ : VmmMachine) (_ : m₀.Empty) (calls : List VmmCall) (m : VmmMachine)
      (_ : Steps Step m₀ calls m) (virt phys flags : UInt64) (answers : List UInt64),
      m.Fresh answers → flags &&& vmmFlagUser ≠ 0 →
      (m.mapPage virt phys flags answers).1 = true →
      UserReachable (m.mapPage virt phys flags answers).2.vmm virt := by
  intro hclaim
  have hreach := hclaim blank blank_empty [.map 0x1000 0x2000 3 [0x5000, 0x6000, 0x7000]]
    (blank.mapPage 0x1000 0x2000 3 [0x5000, 0x6000, 0x7000]).2
    (.cons ⟨fresh_blank (by decide) (by decide), rfl⟩ (.nil _)) 0x2000 0x3000 7 []
    ⟨by decide, fun _ _ _ _ => List.not_mem_nil⟩ (by decide) (by decide)
  obtain ⟨e, he, -, huser, -⟩ := hreach [0] (by decide) (by decide)
  have hentry : ((blank.mapPage 0x1000 0x2000 3 [0x5000, 0x6000, 0x7000]).2.mapPage 0x2000 0x3000 7
      []).2.vmm.entryAt 0x4000 [0] = some 0x5003 := by decide
  have hroot : ((blank.mapPage 0x1000 0x2000 3 [0x5000, 0x6000, 0x7000]).2.mapPage 0x2000 0x3000 7
      []).2.vmm.root = 0x4000 := by decide
  rw [hroot, hentry] at he
  obtain rfl := Option.some.inj he
  exact huser (by decide)

end VmmMachine

end AAAos
