import AAAos.Kernel.Proc.Process
import AAAos.Lib.Family
import AAAos.Lib.Trace

/-!
# The process tree

Every process points to its parent, and every process has an array of at most 32 children.
`process_create` adds the new process to the current one's array if there is room;
`process_exit` hands the children of the current process to the process with PID 1, as far as that
has room, takes the process out of its own parent's array, and frees its slot.

**What goes wrong.**  Where there is no room nothing is done: the 33rd child points to a parent that
does not list it, and a child that is not handed over points to a slot that is free.  The same
happens when the process with PID 1 exits, as it hands its children to itself.

**What is proved.**  As long as there is room (`HasRoom`), pointers and arrays agree
(`treeSound_of_steps`).  The arrays are lists followed by null pointers (`Lists`); on them the
operations are the ones of a `Family`, and in the middle of the hand-over loop the exiting process
has the children that are left.
-/

namespace AAAos

/-! ## Children arrays -/

namespace Process

variable {proc : Process} {l : List ProcRef} {i : Nat}

/-- `children[0..child_count)`. -/
def kids (proc : Process) : List ProcRef := (List.range proc.childCount).filterMap proc.children

/-- The children array holds this list, and null pointers behind it. -/
structure Lists (proc : Process) (l : List ProcRef) : Prop where
  count : proc.childCount = l.length
  children : ∀ i, proc.children i = l[i]?

lemma Lists.kids_eq (h : proc.Lists l) : proc.kids = l := by
  have hmap : ∀ n ≤ l.length, (List.range n).filterMap proc.children = l.take n := by
    intro n
    induction n with
    | zero => simp
    | succ n ih =>
      intro hn
      have hget : proc.children n = some (l.get ⟨n, by omega⟩) := by
        rw [h.children]
        exact List.getElem?_eq_getElem _
      rw [List.range_succ, List.filterMap_append, ih (by omega), List.take_add_one,
        List.filterMap_cons, hget, List.getElem?_eq_getElem (by omega)]
      rfl
  rw [kids, h.count, hmap _ le_rfl, List.take_length]

lemma lists_nil (hcount : proc.childCount = 0) (hnone : ∀ i, proc.children i = none) :
    proc.Lists [] := ⟨hcount, fun i => by rw [hnone i]; rfl⟩

lemma Lists.addChild (h : proc.Lists l) (child : ProcRef) : (proc.addChild child).Lists (l ++ [child]) := by
  refine ⟨by simp [Process.addChild, h.count], ?_⟩
  intro i
  rw [Process.addChild]
  dsimp only
  by_cases hi : i = proc.childCount
  · rw [hi, Function.update_self, h.count, List.getElem?_concat_length]
  · rw [Function.update_of_ne hi, h.children]
    rw [h.count] at hi
    rcases Nat.lt_or_gt_of_ne hi with hlt | hgt
    · rw [List.getElem?_append_left hlt]
    · rw [List.getElem?_eq_none (by omega), List.getElem?_eq_none (by simp; omega)]

lemma Lists.removeChild (h : proc.Lists l) (hi : i < l.length) : (proc.removeChild i).Lists (l.eraseIdx i) := by
  refine ⟨by rw [Process.removeChild, h.count, List.length_eraseIdx_of_lt hi], fun j => ?_⟩
  rw [Process.removeChild, List.getElem?_eraseIdx]
  dsimp only
  rw [h.count]
  split_ifs with hji hlast hend
  · exact h.children j
  · exact h.children (j + 1)
  · rw [List.getElem?_eq_none (by omega)]
  · rw [h.children, List.getElem?_eq_none (by omega), List.getElem?_eq_none (by omega)]

end Process

namespace ProcTable

variable {s s' : ProcTable} {p q cur idle : ProcRef} {l : List ProcRef} {i : Nat}

/-- The slot is in use. -/
def Live (s : ProcTable) (p : ProcRef) : Prop := (s.table p).state ≠ .invalid

instance (s : ProcTable) (p : ProcRef) : Decidable (s.Live p) :=
  inferInstanceAs (Decidable (_ ≠ _))

def parentOf (s : ProcTable) (p : ProcRef) : Option ProcRef := (s.table p).parent

def kidsOf (s : ProcTable) (p : ProcRef) : List ProcRef := (s.table p).kids

/-- Parent pointers lead to live processes; a process with a parent stands in that parent's array
exactly once; arrays hold live processes; no array has more than 32 children. -/
structure TreeSound (s : ProcTable) : Prop where
  parent : ∀ p q, s.Live p → (s.table p).parent = some q → s.Live q
  listed : ∀ p q, s.Live p → (s.table p).parent = some q →
    ∃! i, i < (s.table q).childCount ∧ (s.table q).children i = some p
  children : ∀ p i q, s.Live p → (s.table p).children i = some q → s.Live q
  count : ∀ p, s.Live p → (s.table p).childCount ≤ processMaxChildren

/-- The arrays are lists, and with the parent pointers they are a family. -/
structure Tree (s : ProcTable) : Prop where
  lists : ∀ p, s.Live p → (s.table p).Lists (s.kidsOf p)
  family : Family s.Live s.parentOf s.kidsOf
  count : ∀ p, s.Live p → (s.table p).childCount ≤ processMaxChildren

/-- The invariant: the tree is in order, and the current process is live. -/
structure TreeOk (s : ProcTable) : Prop extends Tree s where
  current : ∀ c, s.current = some c → s.Live c

lemma Tree.sound (h : s.Tree) : s.TreeSound where
  parent p q hp hq := h.family.parent_live p q hp hq
  listed p q hp hq := by
    have hlists := h.lists q (h.family.parent_live p q hp hq)
    have hone : (s.kidsOf q).count p = 1 := h.family.listed p q hp hq
    have hmem : p ∈ s.kidsOf q := List.count_pos_iff.mp (by omega)
    obtain ⟨i, hi, hget⟩ := List.getElem_of_mem hmem
    refine ⟨i, ⟨by rwa [hlists.count], by
      rw [hlists.children, List.getElem?_eq_getElem hi, hget]⟩, ?_⟩
    rintro j ⟨hj, hgetj⟩
    rw [hlists.count] at hj
    rw [hlists.children, List.getElem?_eq_getElem hj] at hgetj
    -- two places of one process would count it twice
    by_contra hne
    have hdup : List.Duplicate p (s.kidsOf q) := by
      rcases Nat.lt_or_gt_of_ne hne with hlt | hgt
      · exact List.duplicate_iff_exists_distinct_get.mpr
          ⟨⟨j, hj⟩, ⟨i, hi⟩, hlt, (Option.some.inj hgetj).symm, hget.symm⟩
      · exact List.duplicate_iff_exists_distinct_get.mpr
          ⟨⟨i, hi⟩, ⟨j, hj⟩, hgt, hget.symm, (Option.some.inj hgetj).symm⟩
    rw [List.duplicate_iff_two_le_count] at hdup
    omega
  children p i q hp hq := by
    rw [(h.lists p hp).children] at hq
    exact (h.family.points p q hp (List.mem_of_getElem? hq)).1
  count := h.count

/-! ## What leaves the tree alone -/

/-- The live processes have the same parents and children. -/
structure SameTree (s s' : ProcTable) : Prop where
  live : ∀ p, s'.Live p ↔ s.Live p
  parent : ∀ p, s.Live p → (s'.table p).parent = (s.table p).parent
  children : ∀ p, s.Live p → (s'.table p).children = (s.table p).children
  count : ∀ p, s.Live p → (s'.table p).childCount = (s.table p).childCount

lemma kids_congr {proc proc' : Process} (hcount : proc'.childCount = proc.childCount)
    (hchildren : proc'.children = proc.children) : proc'.kids = proc.kids := by
  rw [Process.kids, Process.kids, hcount, hchildren]

lemma Tree.of_same (h : s.Tree) (hsame : SameTree s s') : s'.Tree := by
  have hkids : ∀ p, s.Live p → s'.kidsOf p = s.kidsOf p := fun p hp =>
    kids_congr (hsame.count p hp) (hsame.children p hp)
  refine ⟨fun p hp => ?_, h.family.congr hsame.live hsame.parent hkids, fun p hp => ?_⟩
  · rw [hsame.live] at hp
    rw [hkids p hp]
    exact ⟨(hsame.count p hp).trans (h.lists p hp).count, fun i => by
      rw [hsame.children p hp]
      exact (h.lists p hp).children i⟩
  · rw [hsame.live] at hp
    rw [hsame.count p hp]
    exact h.count p hp

lemma TreeOk.of_same (h : s.TreeOk) (hsame : SameTree s s')
    (hcurrent : ∀ c, s'.current = some c → s.Live c) : s'.TreeOk :=
  ⟨h.toTree.of_same hsame, fun c hc => (hsame.live c).mpr (hcurrent c hc)⟩

lemma sameTree_modify (s : ProcTable) (p : ProcRef) {f : Process → Process}
    (hlive : (f (s.table p)).state = .invalid ↔ (s.table p).state = .invalid)
    (hparent : (f (s.table p)).parent = (s.table p).parent)
    (hchildren : (f (s.table p)).children = (s.table p).children)
    (hcount : (f (s.table p)).childCount = (s.table p).childCount) :
    SameTree s (s.modify p f) := by
  have hall : ∀ q, (((s.modify p f).table q).state = .invalid ↔ (s.table q).state = .invalid) ∧
      ((s.modify p f).table q).parent = (s.table q).parent ∧
      ((s.modify p f).table q).children = (s.table q).children ∧
      ((s.modify p f).table q).childCount = (s.table q).childCount := by
    intro q
    by_cases hq : q = p
    · subst hq
      rw [modify_self]
      exact ⟨hlive, hparent, hchildren, hcount⟩
    · rw [modify_of_ne hq]
      exact ⟨Iff.rfl, rfl, rfl, rfl⟩
  exact ⟨fun q => not_congr (hall q).1, fun q _ => (hall q).2.1, fun q _ => (hall q).2.2.1,
    fun q _ => (hall q).2.2.2⟩

lemma SameTree.trans {t : ProcTable} (h₁ : SameTree s s') (h₂ : SameTree s' t) : SameTree s t where
  live p := (h₂.live p).trans (h₁.live p)
  parent p hp := (h₂.parent p ((h₁.live p).mpr hp)).trans (h₁.parent p hp)
  children p hp := (h₂.children p ((h₁.live p).mpr hp)).trans (h₁.children p hp)
  count p hp := (h₂.count p ((h₁.live p).mpr hp)).trans (h₁.count p hp)

lemma SameTree.refl (s : ProcTable) : SameTree s s :=
  ⟨fun _ => Iff.rfl, fun _ _ => rfl, fun _ _ => rfl, fun _ _ => rfl⟩

/-- Writing a state that is not `INVALID` to a live process. -/
lemma sameTree_state (hp : s.Live p) {state : ProcessState} (hstate : state ≠ .invalid) :
    SameTree s (s.modify p fun proc => { proc with state := state }) := by
  refine sameTree_modify s p ?_ rfl rfl rfl
  exact ⟨fun h => absurd h hstate, fun h => absurd h hp⟩

lemma sameTree_setState (hp : s.Live p) {state : ProcessState} (hstate : state ≠ .invalid) :
    SameTree s (s.processSetState p state) := by
  have hwrite : SameTree s (s.writeState p state) :=
    let h := sameTree_state hp hstate
    ⟨h.live, h.parent, h.children, h.count⟩
  unfold processSetState
  split_ifs
  · have hpreempt : SameTree (s.writeState p state) ((s.writeState p state).preemptCurrent p) := by
      unfold preemptCurrent
      split
      · exact .refl _
      · split_ifs with hrun
        · refine sameTree_state ?_ (by decide)
          rw [Live, hrun.2]
          decide
        · exact .refl _
    exact hwrite.trans ⟨hpreempt.live, hpreempt.parent, hpreempt.children, hpreempt.count⟩
  · exact hwrite

lemma TreeOk.setState (h : s.TreeOk) (hp : s.Live p) {state : ProcessState}
    (hstate : state ≠ .invalid) : (s.processSetState p state).TreeOk := by
  refine h.of_same (sameTree_setState hp hstate) fun c hc => ?_
  by_cases hrun : state = .running
  · rw [hrun] at hc
    exact Option.some.inj hc ▸ hp
  · rw [(processSetState_eq hrun).2] at hc
    exact h.current c hc

/-! ## Creation -/

/-- Slot `p` was free, and now holds a child of the current process, or a process without parent. -/
structure Created (s s' : ProcTable) (p : ProcRef) : Prop where
  free : ¬ s.Live p
  live : ∀ q, s'.Live q ↔ q = p ∨ s.Live q
  current : s'.current = s.current
  parent : (s'.table p).parent = s.current
  lists : (s'.table p).Lists []
  joined : ∀ c, s.current = some c → (s.table c).childCount < processMaxChildren → s'.table c = (s.table c).addChild p
  others : ∀ q, q ≠ p → s.current ≠ some q → s'.table q = s.table q

/-- A slot that was free is filled in, and joins the current process's children. -/
lemma created_joinParent {t : ProcTable} (hfree : ¬ s.Live p)
    (hcur : ∀ c, s.current = some c → s.Live c) (hcurrent : t.current = s.current)
    (hothers : ∀ q, q ≠ p → t.table q = s.table q) (hlive : t.Live p)
    (hparent : (t.table p).parent = s.current) (hlists : (t.table p).Lists []) :
    Created s (t.joinParent p) p := by
  have hne : ∀ c, s.current = some c → c ≠ p := fun c hc he => hfree (he ▸ hcur c hc)
  have hself : (t.joinParent p).table p = t.table p := by
    unfold joinParent
    split
    · rfl
    · rename_i c hc
      split_ifs
      · exact modify_of_ne (Ne.symm (hne c (hcurrent ▸ hc)))
      · rfl
  have hrest : ∀ q, s.current ≠ some q → (t.joinParent p).table q = t.table q := by
    intro q hq
    unfold joinParent
    split
    · rfl
    · rename_i c hc
      split_ifs
      · exact modify_of_ne fun he => hq (by rwa [he, ← hcurrent])
      · rfl
  have hstates := joinParent_same t p
  refine ⟨hfree, fun q => ?_, ?_, ?_, ?_, fun c hc hroom => ?_, fun q hq hqc => ?_⟩
  · rw [Live, hstates.state q]
    by_cases hq : q = p
    · subst hq
      exact ⟨fun _ => .inl rfl, fun _ => hlive⟩
    · rw [hothers q hq]
      exact ⟨.inr, fun h => h.resolve_left hq⟩
  · rw [← hcurrent]
    unfold joinParent
    split
    · rfl
    · split_ifs <;> rfl
  · rw [hself, hparent]
  · rwa [hself]
  · have htable := hothers c (hne c hc)
    rw [← hcurrent] at hc
    simp only [joinParent, hc, htable, if_pos hroom, modify_self]
  · rw [hrest q hqc, hothers q hq]

/-- **What `process_create` does**: nothing to the live processes, or a new one is added to the
current process's children. -/
lemma processCreate_cases (hcur : ∀ c, s.current = some c → s.Live c) (name : List UInt8) :
    ((s.processCreate name).1 = none ∧ SameTree s (s.processCreate name).2 ∧
        (s.processCreate name).2.current = s.current) ∨
      ∃ p, (s.processCreate name).1 = some p ∧ Created s (s.processCreate name).2 p := by
  unfold processCreate allocPcb
  cases hfind : (List.finRange processMaxCount).find? fun p => (s.table p).state = .invalid with
  | none => exact .inl ⟨rfl, .refl s, rfl⟩
  | some p =>
    have hfree : (s.table p).state = .invalid := by simpa using List.find?_some hfind
    have hdead : ¬ s.Live p := fun h => h hfree
    simp only [Option.map_some]
    split_ifs
    · -- the stack could not be allocated, and the slot is free again
      have htable : ∀ q, q ≠ p → (freePcb { (assignPid (s.modify p fun _ => {}) p name) with
          pmm := (pmmAllocPages (assignPid (s.modify p fun _ => {}) p name).pmm
            (processKernelStackSize / 4096)).2 } p).table q = s.table q := by
        intro q hq
        simp [freePcb, assignPid, modify_of_ne hq]
      refine .inl ⟨rfl, ⟨fun q => ?_, fun q hq => ?_, fun q hq => ?_, fun q hq => ?_⟩, rfl⟩
      · by_cases hq : q = p
        · subst hq
          simp [Live, freePcb, hfree]
        · simp [Live, htable q hq]
      · rw [htable q (fun he => hdead (he ▸ hq))]
      · rw [htable q (fun he => hdead (he ▸ hq))]
      · rw [htable q (fun he => hdead (he ▸ hq))]
    · refine .inr ⟨p, rfl, created_joinParent hdead hcur rfl (fun q hq => ?_) ?_ ?_ ?_⟩
      · simp [giveStack, assignPid, modify_of_ne hq]
      · simp [Live, giveStack, assignPid]
      · simp [giveStack, assignPid, modify]
      · exact Process.lists_nil (by simp [giveStack]) (by simp [giveStack, assignPid])

lemma TreeOk.created (h : s.TreeOk) (hnew : Created s s' p)
    (hroom : ∀ c, s.current = some c → (s.table c).childCount < processMaxChildren) :
    s'.TreeOk := by
  have hcurrent : ∀ c, s'.current = some c → s'.Live c := fun c hc =>
    (hnew.live c).mpr (.inr (h.current c (hnew.current ▸ hc)))
  have hnone : s'.kidsOf p = [] := hnew.lists.kids_eq
  cases hcur : s.current with
  | none =>
    have hsame : ∀ q, q ≠ p → s'.table q = s.table q := fun q hq =>
      hnew.others q hq (by rw [hcur]; exact (Option.some_ne_none q).symm)
    have hkids : ∀ q, q ≠ p → s'.kidsOf q = s.kidsOf q := fun q hq => by
      simp [kidsOf, hsame q hq]
    refine ⟨⟨fun q hq => ?_, ?_, fun q hq => ?_⟩, hcurrent⟩
    · rcases (hnew.live q).mp hq with rfl | hq
      · rw [hnone]
        exact hnew.lists
      · have hqp : q ≠ p := fun he => hnew.free (he ▸ hq)
        rw [hkids q hqp, hsame q hqp]
        exact h.lists q hq
    · refine h.family.born hnew.live hnew.free (fun q hq => ?_) (hnew.parent.trans hcur) hkids hnone
      simp [parentOf, hsame q hq]
    · rcases (hnew.live q).mp hq with rfl | hq
      · rw [hnew.lists.count]
        exact Nat.zero_le _
      · rw [hsame q (fun he => hnew.free (he ▸ hq))]
        exact h.count q hq
  | some c =>
    have hc : s.Live c := h.current c hcur
    have hjoin := hnew.joined c hcur (hroom c hcur)
    have hlists := (h.lists c hc).addChild p
    rw [← hjoin] at hlists
    have hsame : ∀ q, q ≠ p → q ≠ c → s'.table q = s.table q := fun q hq hqc =>
      hnew.others q hq (by rw [hcur]; exact fun he => hqc (Option.some.inj he).symm)
    have hkids : ∀ q, q ≠ p → q ≠ c → s'.kidsOf q = s.kidsOf q := fun q hq hqc => by
      simp [kidsOf, hsame q hq hqc]
    refine ⟨⟨fun q hq => ?_, ?_, fun q hq => ?_⟩, hcurrent⟩
    · rcases (hnew.live q).mp hq with rfl | hq
      · rw [hnone]
        exact hnew.lists
      · have hqp : q ≠ p := fun he => hnew.free (he ▸ hq)
        by_cases hqc : q = c
        · subst hqc
          rwa [kidsOf, hlists.kids_eq]
        · rw [hkids q hqp hqc, hsame q hqp hqc]
          exact h.lists q hq
    · refine h.family.bornUnder hnew.live hnew.free hc (fun q hq => ?_) (hnew.parent.trans hcur)
        hkids hnone hlists.kids_eq
      by_cases hqc : q = c
      · rw [parentOf, hqc, hjoin]
        rfl
      · simp [parentOf, hsame q hq hqc]
    · rcases (hnew.live q).mp hq with rfl | hq
      · rw [hnew.lists.count]
        exact Nat.zero_le _
      · by_cases hqc : q = c
        · rw [hqc, hjoin]
          exact hroom c hcur
        · rw [hsame q (fun he => hnew.free (he ▸ hq)) hqc]
          exact h.count q hq

/-! ## Exit: handing over the children -/

/-- In the middle of the hand-over: the children `l` of the exiting process are left, in its array
from place `i` on. -/
structure Handing (s : ProcTable) (cur idle : ProcRef) (i : Nat) (l : List ProcRef) : Prop where
  cur_live : s.Live cur
  idle_live : s.Live idle
  ne : idle ≠ cur
  cur_count : (s.table cur).childCount = i + l.length
  left : ∀ j, (s.table cur).children (i + j) = l[j]?
  done : ∀ j, j < i → (s.table cur).children j = none
  room : (s.table idle).childCount + l.length ≤ processMaxChildren
  lists : ∀ p, s.Live p → p ≠ cur → (s.table p).Lists (s.kidsOf p)
  family : Family s.Live s.parentOf fun p => if p = cur then l else s.kidsOf p
  count : ∀ p, s.Live p → p ≠ cur → (s.table p).childCount ≤ processMaxChildren

/-- One round of the loop of `process_exit`. -/
def handRound (cur idle : ProcRef) (i : Nat) (s : ProcTable) : ProcTable :=
  (reparentChild cur idle i s).modify cur fun proc =>
    { proc with children := Function.update proc.children i none }

lemma field_modify {β : Type} (field : Process → β) {f : Process → Process}
    (hf : ∀ proc, field (f proc) = field proc) (s : ProcTable) (p q : ProcRef) :
    field ((s.modify p f).table q) = field (s.table q) := by
  by_cases hq : q = p
  · subst hq
    simp [hf]
  · rw [modify_of_ne hq]

/-- What one round does, when there is a child and room for it. -/
structure Handed (s s' : ProcTable) (cur idle x : ProcRef) (i : Nat) : Prop where
  live : ∀ p, s'.Live p ↔ s.Live p
  moved : (s'.table x).parent = some idle
  parent : ∀ p, p ≠ x → (s'.table p).parent = (s.table p).parent
  cur_children : (s'.table cur).children = Function.update (s.table cur).children i none
  cur_count : (s'.table cur).childCount = (s.table cur).childCount
  idle_children : (s'.table idle).children = ((s.table idle).addChild x).children
  idle_count : (s'.table idle).childCount = (s.table idle).childCount + 1
  others : ∀ p, p ≠ cur → p ≠ idle → (s'.table p).children = (s.table p).children ∧
    (s'.table p).childCount = (s.table p).childCount

lemma handed_handRound {x : ProcRef} (hne : idle ≠ cur) (hx : (s.table cur).children i = some x)
    (hroom : (s.table idle).childCount < processMaxChildren) :
    Handed s (handRound cur idle i s) cur idle x i := by
  have hround : handRound cur idle i s = ((s.modify x fun proc => { proc with parent := some idle }).modify idle
        fun proc => proc.addChild x).modify cur
        fun proc => { proc with children := Function.update proc.children i none } := by
    simp only [handRound, reparentChild, hx, if_pos hroom]
  have hstate : ∀ p, ((handRound cur idle i s).table p).state = (s.table p).state := fun p => by
    rw [hround, field_modify Process.state, field_modify Process.state, field_modify Process.state]
    all_goals exact fun _ => rfl
  have hparent : ∀ p, ((handRound cur idle i s).table p).parent =
      ((s.modify x fun proc => { proc with parent := some idle }).table p).parent := fun p => by
    rw [hround, field_modify Process.parent, field_modify Process.parent]
    all_goals exact fun _ => rfl
  -- the parent pointer is all that changes in the child's slot
  have hchild : ∀ p, ((s.modify x fun proc => { proc with parent := some idle }).table p).children =
        (s.table p).children ∧
      ((s.modify x fun proc => { proc with parent := some idle }).table p).childCount =
        (s.table p).childCount := fun p =>
    ⟨field_modify Process.children (by exact fun _ => rfl) s x p,
      field_modify Process.childCount (by exact fun _ => rfl) s x p⟩
  refine ⟨fun p => by simp [Live, hstate], ?_, fun p hp => ?_, ?_, ?_, ?_, ?_,
    fun p hpc hpi => ?_⟩
  · rw [hparent, modify_self]
  · rw [hparent, modify_of_ne hp]
  · rw [hround, modify_self, modify_of_ne (Ne.symm hne), (hchild cur).1]
  · rw [hround, field_modify Process.childCount, modify_of_ne (Ne.symm hne), (hchild cur).2]
    exact fun _ => rfl
  · rw [hround, modify_of_ne hne, modify_self, Process.addChild, Process.addChild, (hchild idle).1, (hchild idle).2]
  · rw [hround, modify_of_ne hne, modify_self, Process.addChild, (hchild idle).2]
  · rw [hround, modify_of_ne hpc, modify_of_ne hpi]
    exact hchild p

/-- **One round** hands over the first child that is left. -/
lemma Handing.round {x : ProcRef} (h : Handing s cur idle i (x :: l)) :
    Handing (handRound cur idle i s) cur idle (i + 1) l := by
  have hx : (s.table cur).children i = some x := by simpa using h.left 0
  have hroom := h.room
  have hcount := h.cur_count
  simp only [List.length_cons] at hroom hcount
  have hd := handed_handRound h.ne hx (by omega : (s.table idle).childCount < processMaxChildren)
  generalize handRound cur idle i s = s' at hd ⊢
  have hidle : (s'.table idle).Lists (s.kidsOf idle ++ [x]) := by
    have hadd := (h.lists idle h.idle_live h.ne).addChild x
    exact ⟨hd.idle_count.trans hadd.count, fun j => by rw [hd.idle_children]; exact hadd.children j⟩
  have hkids : ∀ p, p ≠ cur → p ≠ idle → s'.kidsOf p = s.kidsOf p := fun p hpc hpi =>
    kids_congr (hd.others p hpc hpi).2 (hd.others p hpc hpi).1
  refine ⟨(hd.live cur).mpr h.cur_live, (hd.live idle).mpr h.idle_live, h.ne, ?_, fun j => ?_,
    fun j hj => ?_, ?_, fun p hp hpc => ?_, ?_, fun p hp hpc => ?_⟩
  · rw [hd.cur_count]
    omega
  · have hleft := h.left (j + 1)
    rw [List.getElem?_cons_succ] at hleft
    rw [hd.cur_children, Function.update_of_ne (by omega), ← hleft]
    congr 1
    omega
  · rw [hd.cur_children]
    by_cases hji : j = i
    · simp [hji]
    · rw [Function.update_of_ne hji]
      exact h.done j (by omega)
  · rw [hd.idle_count]
    omega
  · rw [hd.live] at hp
    by_cases hpi : p = idle
    · subst hpi
      rwa [kidsOf, hidle.kids_eq]
    · rw [hkids p hpc hpi]
      have hlists := h.lists p hp hpc
      exact ⟨(hd.others p hpc hpi).2.trans hlists.count, fun j => by
        rw [(hd.others p hpc hpi).1]
        exact hlists.children j⟩
  · refine (h.family.handOver (x := x) h.cur_live h.idle_live h.ne (if_pos rfl) hd.parent
      hd.moved (fun p hpc hpi => ?_) (if_pos rfl) ?_).congr hd.live (fun _ _ => rfl) (fun _ _ => rfl)
    · rw [if_neg hpc, if_neg hpc]
      exact hkids p hpc hpi
    · rw [if_neg h.ne, if_neg h.ne]
      exact hidle.kids_eq
  · rw [hd.live] at hp
    by_cases hpi : p = idle
    · rw [hpi, hd.idle_count]
      omega
    · rw [(hd.others p hpc hpi).2]
      exact h.count p hp hpc

/-- **The loop** hands over all of them. -/
lemma Handing.loop {fuel : Nat} (h : Handing s cur idle i l) (hfuel : l.length ≤ fuel) :
    Handing (reparentLoop cur idle fuel i s) cur idle (i + l.length) [] := by
  induction l generalizing s i fuel with
  | nil =>
    have hend : ¬ i < (s.table cur).childCount := by
      have := h.cur_count
      simp only [List.length_nil] at this
      omega
    cases fuel with
    | zero => exact h
    | succ fuel =>
      rwa [reparentLoop, if_neg hend]
  | cons x l ih =>
    have hcount := h.cur_count
    simp only [List.length_cons] at hcount hfuel ⊢
    obtain ⟨fuel, rfl⟩ : ∃ n, fuel = n + 1 := ⟨fuel - 1, by omega⟩
    rw [reparentLoop, if_pos (by omega), show i + (l.length + 1) = i + 1 + l.length by omega]
    exact ih h.round (by omega)

lemma Handing.cleared (h : Handing s cur idle i []) : (s.modify cur fun proc => { proc with childCount := 0 }).Tree ∧
      (s.modify cur fun proc => { proc with childCount := 0 }).kidsOf cur = [] := by
  have hempty : ((s.modify cur fun proc => { proc with childCount := 0 }).table cur).Lists [] := by
    rw [modify_self]
    refine Process.lists_nil rfl fun j => ?_
    by_cases hj : j < i
    · exact h.done j hj
    · have hleft := h.left (j - i)
      rwa [Nat.add_sub_cancel' (by omega)] at hleft
  have hlive : ∀ p, (s.modify cur fun proc => { proc with childCount := 0 }).Live p ↔ s.Live p :=
    fun p => not_congr (by rw [field_modify Process.state]; exact fun _ => rfl)
  refine ⟨⟨fun p hp => ?_, h.family.congr hlive (fun p _ => ?_) (fun p _ => ?_), fun p hp => ?_⟩,
    hempty.kids_eq⟩
  · by_cases hpc : p = cur
    · subst hpc
      rwa [kidsOf, hempty.kids_eq]
    · rw [kidsOf, modify_of_ne hpc]
      exact h.lists p ((hlive p).mp hp) hpc
  · rw [parentOf, parentOf, field_modify Process.parent]
    exact fun _ => rfl
  · by_cases hpc : p = cur
    · rw [if_pos hpc, hpc]
      exact hempty.kids_eq
    · rw [if_neg hpc, kidsOf, kidsOf, modify_of_ne hpc]
  · by_cases hpc : p = cur
    · rw [hpc, hempty.count]
      exact Nat.zero_le _
    · rw [modify_of_ne hpc]
      exact h.count p ((hlive p).mp hp) hpc

lemma live_of_getByPid {pid : UInt32} (h : s.processGetByPid pid = some p) : s.Live p := by
  unfold processGetByPid at h
  split_ifs at h
  have hfound := List.find?_some h
  simp only [decide_eq_true_eq] at hfound
  exact hfound.1

/-- There is room for the children of `cur` with the process that has PID 1. -/
def RoomForChildren (s : ProcTable) (cur : ProcRef) : Prop :=
  (s.table cur).childCount = 0 ∨ ∃ idle, s.processGetByPid pidIdle = some idle ∧ idle ≠ cur ∧
    (s.table idle).childCount + (s.table cur).childCount ≤ processMaxChildren

lemma Tree.reparentChildren (h : s.Tree) (hcur : s.Live cur) (hroom : s.RoomForChildren cur) :
    (s.reparentChildren cur).Tree ∧ (s.reparentChildren cur).kidsOf cur = [] := by
  have hlists := h.lists cur hcur
  unfold ProcTable.reparentChildren
  rcases hroom with hzero | ⟨idle, hidle, hne, hfit⟩
  · rw [if_neg (by omega)]
    refine ⟨h, ?_⟩
    rw [hlists.count] at hzero
    exact List.eq_nil_of_length_eq_zero hzero
  · split_ifs with hpos
    · rw [hidle]
      have hstart : Handing s cur idle 0 (s.kidsOf cur) := by
        refine ⟨hcur, live_of_getByPid hidle, hne, by simp [hlists.count],
          fun j => by rw [Nat.zero_add]; exact hlists.children j, fun j hj => absurd hj (by omega),
          by rwa [← hlists.count], fun p hp _ => h.lists p hp,
          h.family.congr (fun _ => Iff.rfl) (fun _ _ => rfl) (fun p _ => ?_),
          fun p hp _ => h.count p hp⟩
        by_cases hpc : p = cur
        · simp [hpc]
        · simp [hpc]
      have hcount := h.count cur hcur
      rw [hlists.count] at hcount
      exact (hstart.loop hcount).cleared
    · refine ⟨h, ?_⟩
      have hzero : (s.kidsOf cur).length = 0 := by
        rw [← hlists.count]
        omega
      exact List.eq_nil_of_length_eq_zero hzero

/-! ## Exit: leaving the tree -/

/-- `process_exit` finds the process in its parent's array. -/
lemma leaveParent_cases (h : s.Tree) (hcur : s.Live cur) : ((s.table cur).parent = none ∧ s.leaveParent cur = s) ∨
      ∃ q i, (s.table cur).parent = some q ∧ (s.kidsOf q)[i]? = some cur ∧
        s.leaveParent cur = s.modify q fun proc => proc.removeChild i := by
  unfold leaveParent
  cases hpar : (s.table cur).parent with
  | none => exact .inl ⟨rfl, rfl⟩
  | some q =>
    refine .inr ⟨q, ?_⟩
    have hlists := h.lists q (h.family.parent_live cur q hcur hpar)
    have hone : (s.kidsOf q).count cur = 1 := h.family.listed cur q hcur hpar
    have hmem : cur ∈ s.kidsOf q := List.count_pos_iff.mp (by omega)
    cases hfind : (List.range (s.table q).childCount).find? fun i =>
        (s.table q).children i = some cur with
    | none =>
      obtain ⟨j, hj, hget⟩ := List.getElem_of_mem hmem
      have hnot := List.find?_eq_none.mp hfind j (by rw [hlists.count]; exact List.mem_range.mpr hj)
      rw [hlists.children, List.getElem?_eq_getElem hj, hget] at hnot
      simp at hnot
    | some i =>
      have hi := List.find?_some hfind
      rw [decide_eq_true_eq, hlists.children] at hi
      exact ⟨i, rfl, hi, by simp [hfind]⟩

/-- The rest of `process_exit` writes to the slot of the process only. -/
lemma table_of_freed {p : ProcRef} (hp : p ≠ cur) : ((s.freeStack cur).freePcb cur).table p = s.table p := by
  rw [freePcb, modify_of_ne hp, freeStack]
  split_ifs
  · exact Function.update_of_ne hp _ _
  · rfl

/-- **A process without children leaves the tree.** -/
lemma Tree.left (h : s.Tree) (hcur : s.Live cur) (hnone : s.kidsOf cur = []) :
    (((s.leaveParent cur).freeStack cur).freePcb cur).Tree := by
  have hdead : ¬ (((s.leaveParent cur).freeStack cur).freePcb cur).Live cur := by
    simp [Live, freePcb]
  rcases leaveParent_cases h hcur with ⟨hpar, heq⟩ | ⟨q, i, hpar, hget, heq⟩
  · rw [heq] at hdead ⊢
    have htable : ∀ p, p ≠ cur → ((s.freeStack cur).freePcb cur).table p = s.table p :=
      fun p hp => table_of_freed hp
    generalize (s.freeStack cur).freePcb cur = z at hdead htable ⊢
    have hlive : ∀ p, z.Live p ↔ s.Live p ∧ p ≠ cur := by
      intro p
      by_cases hp : p = cur
      · exact ⟨fun h => absurd (hp ▸ h) hdead, fun h => absurd hp h.2⟩
      · rw [Live, htable p hp]
        exact ⟨fun h => ⟨h, hp⟩, fun h => h.1⟩
    refine ⟨fun p hp => ?_, h.family.died hlive hcur hnone (fun p hp => ?_) (fun p hp _ => ?_)
      (fun p hp => ?_), fun p hp => ?_⟩
    · obtain ⟨hp, hpc⟩ := (hlive p).mp hp
      rw [kidsOf, htable p hpc]
      exact h.lists p hp
    · simp [parentOf, htable p hp]
    · simp [kidsOf, htable p hp]
    · rw [parentOf, hpar] at hp
      cases hp
    · obtain ⟨hp, hpc⟩ := (hlive p).mp hp
      rw [htable p hpc]
      exact h.count p hp
  · have hq : s.Live q := h.family.parent_live cur q hcur hpar
    have hlists := h.lists q hq
    have hi : i < (s.kidsOf q).length := List.getElem?_eq_some_iff.mp hget |>.1
    have hqc : q ≠ cur := by
      rintro rfl
      rw [hnone] at hi
      cases hi
    rw [heq] at hdead ⊢
    have htable : ∀ p, p ≠ cur → p ≠ q →
        (((s.modify q fun proc => proc.removeChild i).freeStack cur).freePcb cur).table p =
          s.table p := fun p hp hpq => (table_of_freed hp).trans (modify_of_ne hpq)
    have hparent : (((s.modify q fun proc => proc.removeChild i).freeStack cur).freePcb cur).table q =
        (s.table q).removeChild i := (table_of_freed hqc).trans modify_self
    generalize ((s.modify q fun proc => proc.removeChild i).freeStack cur).freePcb cur = z at *
    have hremoved : (z.table q).Lists ((s.kidsOf q).eraseIdx i) := by
      rw [hparent]
      exact hlists.removeChild hi
    have hperm : (cur :: (s.kidsOf q).eraseIdx i).Perm (s.kidsOf q) := by
      have hcons := List.getElem_cons_eraseIdx_perm hi
      rwa [(List.getElem?_eq_some_iff.mp hget).2] at hcons
    have hlive : ∀ p, z.Live p ↔ s.Live p ∧ p ≠ cur := by
      intro p
      by_cases hp : p = cur
      · exact ⟨fun h => absurd (hp ▸ h) hdead, fun h => absurd hp h.2⟩
      · have hstate : (z.table p).state = (s.table p).state := by
          by_cases hpq : p = q
          · rw [hpq, hparent]
            rfl
          · rw [htable p hp hpq]
        rw [Live, hstate]
        exact ⟨fun h => ⟨h, hp⟩, fun h => h.1⟩
    refine ⟨fun p hp => ?_, h.family.died hlive hcur hnone (fun p hp => ?_) (fun p hp hpq => ?_)
      (fun p hp => ?_), fun p hp => ?_⟩
    · obtain ⟨hp, hpc⟩ := (hlive p).mp hp
      by_cases hpq : p = q
      · subst hpq
        rwa [kidsOf, hremoved.kids_eq]
      · rw [kidsOf, htable p hpc hpq]
        exact h.lists p hp
    · by_cases hpq : p = q
      · rw [parentOf, hpq, hparent]
        rfl
      · simp [parentOf, htable p hp hpq]
    · simp [kidsOf, htable p hp (fun he => hpq (by rw [he]; exact hpar))]
    · obtain rfl : q = p := Option.some.inj (hpar.symm.trans hp)
      rwa [kidsOf, hremoved.kids_eq]
    · obtain ⟨hp, hpc⟩ := (hlive p).mp hp
      by_cases hpq : p = q
      · rw [hpq, hparent]
        exact Nat.le_trans (Nat.sub_le _ _) (h.count q hq)
      · rw [htable p hpc hpq]
        exact h.count p hp

lemma getByPid_congr (hlive : ∀ p, s'.Live p ↔ s.Live p)
    (hpid : ∀ p, (s'.table p).pid = (s.table p).pid) (pid : UInt32) :
    s'.processGetByPid pid = s.processGetByPid pid := by
  unfold processGetByPid
  congr 2
  funext p
  rw [hpid p]
  exact decide_eq_decide.mpr (and_congr_left fun _ => hlive p)

/-- **`process_exit`** keeps the tree if there is room for the children. -/
lemma TreeOk.exit (h : s.TreeOk) (hroom : ∀ cur, s.current = some cur → s.RoomForChildren cur)
    (status : Int32) : (s.processExit status).TreeOk := by
  unfold processExit
  cases hcur : s.current with
  | none => exact h
  | some cur =>
    have hlive := h.current cur hcur
    have hended : SameTree s (s.modify cur fun proc =>
        { proc with exitStatus := status, state := .terminated }) := by
      refine sameTree_modify s cur ?_ rfl rfl rfl
      exact ⟨fun he => absurd he ProcessState.noConfusion, fun he => absurd he hlive⟩
    have hpid : ∀ p, ((s.modify cur fun proc =>
        { proc with exitStatus := status, state := .terminated }).table p).pid =
        (s.table p).pid := fun p => by
      rw [field_modify Process.pid]
      exact fun _ => rfl
    dsimp only
    generalize (s.modify cur fun proc =>
      { proc with exitStatus := status, state := .terminated }) = t at hended hpid ⊢
    have hcur' := (hended.live cur).mpr hlive
    have hroom' : t.RoomForChildren cur := by
      unfold RoomForChildren
      rw [hended.count cur hlive, getByPid_congr hended.live hpid]
      rcases hroom cur hcur with hzero | ⟨idle, hidle, hne, hfit⟩
      · exact .inl hzero
      · refine .inr ⟨idle, hidle, hne, ?_⟩
        rwa [hended.count idle (live_of_getByPid hidle)]
    obtain ⟨htree, hnone⟩ := (h.toTree.of_same hended).reparentChildren hcur' hroom'
    have hstill : (t.reparentChildren cur).Live cur := by
      rwa [Live, (reparentChildren_same t cur).state cur]
    have hleft := htree.left hstill hnone
    exact ⟨⟨hleft.lists, hleft.family, hleft.count⟩, fun c hc => by cases hc⟩

/-! ## Runs -/

/-- The events of the process table, where states are set for live processes only. -/
def TreeStep (s : ProcTable) (e : ProcEvent) (s' : ProcTable) : Prop :=
  s' = s.apply e ∧
    match e with
    | .create _ => True
    | .exit _ => True
    | .run p => s.Live p
    | .block p => s.Live p
    | .wake p => s.Live p

/-- A process that is created finds room with its parent, and the children of a process that exits
find room with the process that has PID 1, which is another one. -/
def HasRoom (s : ProcTable) : ProcEvent → Prop
  | .create _ => ∀ c, s.current = some c → (s.table c).childCount < processMaxChildren
  | .exit _ => ∀ cur, s.current = some cur → s.RoomForChildren cur
  | _ => True

/-- An event that finds room. -/
def RoomyStep (s : ProcTable) (e : ProcEvent) (s' : ProcTable) : Prop :=
  TreeStep s e s' ∧ s.HasRoom e

/-- **One event.** -/
lemma TreeOk.step {e : ProcEvent} (h : s.TreeOk) (hstep : RoomyStep s e s') : s'.TreeOk := by
  obtain ⟨⟨rfl, hlive⟩, hroom⟩ := hstep
  cases e with
  | create name =>
    rcases processCreate_cases h.current name with ⟨-, hsame, hcurrent⟩ | ⟨p, -, hnew⟩
    · exact h.of_same hsame fun c hc => h.current c (hcurrent ▸ hc)
    · exact h.created hnew hroom
  | exit status => exact h.exit hroom status
  | run p | block p | wake p => exact h.setState hlive (by decide)

lemma treeOk_processInit (pmm : Pmm) : (processInit { pmm := pmm }).TreeOk := by
  have hclear : TreeOk { table := fun _ => { pid := pidInvalid }, pmm := pmm } := by
    refine ⟨⟨fun p hp => absurd rfl hp, ⟨fun p q hp => absurd rfl hp, fun p q hp => absurd rfl hp,
      fun p q hp => absurd rfl hp⟩, fun p hp => absurd rfl hp⟩, fun c hc => ?_⟩
    cases hc
  have hcases := processCreate_cases hclear.current [0x69, 0x64, 0x6c, 0x65]
  unfold processInit
  dsimp only
  split
  · rename_i s₂ heq
    rw [heq] at hcases
    rcases hcases with ⟨-, hsame, hcurrent⟩ | ⟨p, hsome, -⟩
    · exact hclear.of_same hsame fun c hc => hclear.current c (hcurrent ▸ hc)
    · cases hsome
  · rename_i idle s₂ heq
    rw [heq] at hcases
    rcases hcases with ⟨hnone, -⟩ | ⟨p, hsome, hnew⟩
    · cases hnone
    · obtain rfl : idle = p := Option.some.inj hsome
      have htree := hclear.created hnew fun c hc => by cases hc
      have hidle : s₂.Live idle := (hnew.live idle).mpr (.inl rfl)
      -- the first process is made the current one
      have hmade : TreeOk { s₂.modify idle fun proc =>
          { proc with priority := priorityIdle, flags := proc.flags ||| processFlagKernel } with
          current := some idle } := by
        have hmodify : SameTree s₂ (s₂.modify idle fun proc =>
            { proc with priority := priorityIdle, flags := proc.flags ||| processFlagKernel }) :=
          sameTree_modify s₂ idle Iff.rfl rfl rfl rfl
        refine htree.of_same ⟨hmodify.live, hmodify.parent, hmodify.children, hmodify.count⟩ ?_
        intro c hc
        exact Option.some.inj hc ▸ hidle
      exact hmade.setState (hmade.current idle rfl) (by decide)

/-- **The process tree is sound** in every run in which all find room. -/
theorem treeSound_of_steps (pmm : Pmm) {es : List ProcEvent} {s : ProcTable}
    (hrun : Steps RoomyStep (processInit { pmm := pmm }) es s) : s.TreeSound :=
  (hrun.invariant (fun _ _ _ ht hst => TreeOk.step ht hst) (treeOk_processInit pmm)).sound

/-- A memory of 255 free pages. -/
def roomyPmm : Pmm := ⟨fun i => if i = 0 then 1 else 0, 256, 1⟩

/-- A child, a grandchild, and the child exits: the grandchild goes to the first process. -/
theorem treeSound_of_short_run : ∃ s, Steps RoomyStep (processInit { pmm := roomyPmm })
    [.create [], .run 1, .create [], .exit 0] s ∧
    (s.table 2).parent = some 0 ∧ s.TreeSound := by
  obtain ⟨s, hrun, hparent⟩ : ∃ s, Steps RoomyStep (processInit { pmm := roomyPmm })
      [.create [], .run 1, .create [], .exit 0] s ∧ (s.table 2).parent = some 0 := by
    refine ⟨_, .cons ⟨⟨rfl, trivial⟩, fun c hc => ?_⟩ (.cons ⟨⟨rfl, ?_⟩, trivial⟩
      (.cons ⟨⟨rfl, trivial⟩, fun c hc => ?_⟩ (.cons ⟨⟨rfl, trivial⟩, fun c hc => ?_⟩ (.nil _)))), ?_⟩
    · obtain rfl : c = 0 := Option.some.inj (hc.symm.trans (by decide))
      decide
    · decide
    · obtain rfl : c = 1 := Option.some.inj (hc.symm.trans (by decide))
      decide
    · obtain rfl : c = 1 := Option.some.inj (hc.symm.trans (by decide))
      exact .inr ⟨0, by decide, by decide, by decide⟩
    · decide
  exact ⟨s, hrun, hparent, treeSound_of_steps roomyPmm hrun⟩

/-- The 33rd child of the first process is not in its array. -/
theorem child_not_listed : ∃ s, Steps TreeStep (processInit { pmm := roomyPmm })
    (List.replicate 33 (.create [])) s ∧ ¬ s.TreeSound := by
  have hsteps : ∀ (n : Nat) (s : ProcTable), Steps TreeStep s (List.replicate n (.create []))
      ((fun t => (t.processCreate []).2)^[n] s) := by
    intro n
    induction n with
    | zero => exact fun s => .nil s
    | succ n ih => exact fun s => .cons ⟨rfl, trivial⟩ (ih _)
  refine ⟨_, hsteps 33 _, fun h => ?_⟩
  have hlast : (fun s : ProcTable => ((s.table 33).state, (s.table 33).parent,
      (List.range (s.table 0).childCount).find? fun i => (s.table 0).children i = some 33))
      ((fun t => (t.processCreate []).2)^[33] (processInit { pmm := roomyPmm })) =
      (.ready, some 0, none) := by decide +kernel
  simp only [Prod.mk.injEq] at hlast
  obtain ⟨hstate, hparent, hnone⟩ := hlast
  obtain ⟨i, ⟨hi, hchild⟩, -⟩ := h.listed 33 0 (by rw [Live, hstate]; decide) hparent
  exact List.find?_eq_none.mp hnone i (List.mem_range.mpr hi) (decide_eq_true hchild)

end ProcTable

end AAAos
