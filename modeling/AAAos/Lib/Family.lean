import Mathlib.Data.List.Perm.Basic
import Mathlib.Data.List.Count

/-!
# Parent pointers and child lists

A tree kept in two directions: every node has a pointer to its parent, and every node has a list of
its children.  `Family live parent kids` says that the two agree on the live nodes: a parent is live
and lists the node exactly once, and who is listed is live and points back.

There are three operations.  A node is born, under a parent or under none (`born`, `bornUnder`); a
child is handed over from one list to another (`handOver`); a node without children dies and leaves
its parent's list (`died`).  The new tables are given by what changed, so that the lemmas apply
however the tables are stored.
-/

namespace AAAos

universe u

variable {α : Type u} [DecidableEq α]

/-- Parent pointers and child lists agree on the live nodes. -/
structure Family (live : α → Prop) (parent : α → Option α) (kids : α → List α) : Prop where
  parent_live : ∀ p q, live p → parent p = some q → live q
  listed : ∀ p q, live p → parent p = some q → (kids q).count p = 1
  points : ∀ p q, live p → q ∈ kids p → live q ∧ parent q = some p

namespace Family

variable {live live' : α → Prop} {parent parent' : α → Option α} {kids kids' : α → List α}
  {n c q x : α} {rest : List α}

lemma congr (h : Family live parent kids) (hlive : ∀ p, live' p ↔ live p)
    (hparent : ∀ p, live p → parent' p = parent p) (hkids : ∀ p, live p → kids' p = kids p) :
    Family live' parent' kids' where
  parent_live p q hp hq := by
    rw [hlive] at hp ⊢
    rw [hparent p hp] at hq
    exact h.parent_live p q hp hq
  listed p q hp hq := by
    rw [hlive] at hp
    rw [hparent p hp] at hq
    rw [hkids q (h.parent_live p q hp hq)]
    exact h.listed p q hp hq
  points p q hp hq := by
    rw [hlive] at hp
    rw [hkids p hp] at hq
    obtain ⟨hlive', hpar⟩ := h.points p q hp hq
    exact ⟨(hlive q).mpr hlive', (hparent q hlive').trans hpar⟩

lemma not_mem_kids (h : Family live parent kids) (hn : ¬ live n) (hq : live q) : n ∉ kids q :=
  fun hmem => hn (h.points q n hq hmem).1

/-- **A node is born** without a parent. -/
lemma born (h : Family live parent kids) (hlive : ∀ p, live' p ↔ p = n ∨ live p)
    (hn : ¬ live n) (hparent : ∀ p, p ≠ n → parent' p = parent p) (hroot : parent' n = none)
    (hkids : ∀ p, p ≠ n → kids' p = kids p) (hnone : kids' n = []) :
    Family live' parent' kids' where
  parent_live p q hp hq := by
    rcases (hlive p).mp hp with rfl | hp
    · rw [hroot] at hq
      cases hq
    · rw [hparent p (fun h => hn (h ▸ hp))] at hq
      exact (hlive q).mpr (.inr (h.parent_live p q hp hq))
  listed p q hp hq := by
    rcases (hlive p).mp hp with rfl | hp
    · rw [hroot] at hq
      cases hq
    · rw [hparent p (fun h => hn (h ▸ hp))] at hq
      have hqn : q ≠ n := fun he => hn (he ▸ h.parent_live p q hp hq)
      rw [hkids q hqn]
      exact h.listed p q hp hq
  points p q hp hq := by
    rcases (hlive p).mp hp with rfl | hp
    · rw [hnone] at hq
      cases hq
    · rw [hkids p (fun h => hn (h ▸ hp))] at hq
      obtain ⟨hlq, hpar⟩ := h.points p q hp hq
      exact ⟨(hlive q).mpr (.inr hlq), (hparent q (fun h => hn (h ▸ hlq))).trans hpar⟩

/-- **A node is born** under a live parent. -/
lemma bornUnder (h : Family live parent kids) (hlive : ∀ p, live' p ↔ p = n ∨ live p)
    (hn : ¬ live n) (hc : live c) (hparent : ∀ p, p ≠ n → parent' p = parent p)
    (hroot : parent' n = some c) (hkids : ∀ p, p ≠ n → p ≠ c → kids' p = kids p)
    (hnone : kids' n = []) (hlist : kids' c = kids c ++ [n]) : Family live' parent' kids' where
  parent_live p q hp hq := by
    rcases (hlive p).mp hp with rfl | hp
    · rw [hroot] at hq
      cases hq
      exact (hlive c).mpr (.inr hc)
    · rw [hparent p (fun h => hn (h ▸ hp))] at hq
      exact (hlive q).mpr (.inr (h.parent_live p q hp hq))
  listed p q hp hq := by
    rcases (hlive p).mp hp with rfl | hp
    · rw [hroot] at hq
      cases hq
      rw [hlist, List.count_append, List.count_eq_zero_of_not_mem (h.not_mem_kids hn hc), List.count_singleton_self]
    · have hpn : p ≠ n := fun h => hn (h ▸ hp)
      rw [hparent p hpn] at hq
      by_cases hqc : q = c
      · subst hqc
        rw [hlist, List.count_append, h.listed p q hp hq, List.count_singleton]
        simp [Ne.symm hpn]
      · rw [hkids q (fun he => hn (he ▸ h.parent_live p q hp hq)) hqc]
        exact h.listed p q hp hq
  points p q hp hq := by
    have hold : ∀ r, live p → r ∈ kids p → live' r ∧ parent' r = some p := fun r hp hr =>
      have hlr := (h.points p r hp hr)
      ⟨(hlive r).mpr (.inr hlr.1), (hparent r (fun h => hn (h ▸ hlr.1))).trans hlr.2⟩
    rcases (hlive p).mp hp with rfl | hp
    · rw [hnone] at hq
      cases hq
    · by_cases hpc : p = c
      · subst hpc
        rw [hlist, List.mem_append, List.mem_singleton] at hq
        rcases hq with hq | rfl
        · exact hold q hp hq
        · exact ⟨(hlive q).mpr (.inl rfl), hroot⟩
      · rw [hkids p (fun h => hn (h ▸ hp)) hpc] at hq
        exact hold q hp hq

/-- **A child is handed over**: the first of one list goes to the end of another. -/
lemma handOver (h : Family live parent kids) (hc : live c) (hq : live q) (hne : q ≠ c)
    (hfirst : kids c = x :: rest) (hparent : ∀ p, p ≠ x → parent' p = parent p)
    (hmoved : parent' x = some q) (hkids : ∀ p, p ≠ c → p ≠ q → kids' p = kids p)
    (hrest : kids' c = rest) (hlist : kids' q = kids q ++ [x]) : Family live parent' kids' := by
  have hx : live x ∧ parent x = some c := h.points c x hc (by rw [hfirst]; exact List.mem_cons_self)
  have hcount := h.listed x c hx.1 hx.2
  rw [hfirst, List.count_cons_self] at hcount
  have hnot : x ∉ rest := List.count_eq_zero.mp (by omega)
  have hnotq : x ∉ kids q := by
    intro hmem
    have hpar := (h.points q x hq hmem).2
    rw [hx.2] at hpar
    exact hne (Option.some.inj hpar).symm
  refine ⟨fun p r hp hr => ?_, fun p r hp hr => ?_, fun p r hp hr => ?_⟩
  · by_cases hpx : p = x
    · rw [hpx, hmoved] at hr
      cases hr
      exact hq
    · rw [hparent p hpx] at hr
      exact h.parent_live p r hp hr
  · by_cases hpx : p = x
    · subst hpx
      rw [hmoved] at hr
      cases hr
      rw [hlist, List.count_append, List.count_eq_zero_of_not_mem hnotq, List.count_singleton_self]
    · rw [hparent p hpx] at hr
      have hold := h.listed p r hp hr
      by_cases hrc : r = c
      · subst hrc
        rw [hfirst, List.count_cons_of_ne (Ne.symm hpx)] at hold
        rw [hrest]
        exact hold
      · by_cases hrq : r = q
        · subst hrq
          rw [hlist, List.count_append, hold, List.count_singleton]
          simp [Ne.symm hpx]
        · rw [hkids r hrc hrq]
          exact hold
  · by_cases hpc : p = c
    · subst hpc
      rw [hrest] at hr
      have hrx : r ≠ x := fun he => hnot (he ▸ hr)
      obtain ⟨hlr, hpar⟩ := h.points p r hp (by rw [hfirst]; exact List.mem_cons_of_mem x hr)
      exact ⟨hlr, (hparent r hrx).trans hpar⟩
    · by_cases hpq : p = q
      · subst hpq
        rw [hlist, List.mem_append, List.mem_singleton] at hr
        rcases hr with hr | rfl
        · obtain ⟨hlr, hpar⟩ := h.points p r hp hr
          exact ⟨hlr, (hparent r (fun he => hnotq (he ▸ hr))).trans hpar⟩
        · exact ⟨hx.1, hmoved⟩
      · rw [hkids p hpc hpq] at hr
        obtain ⟨hlr, hpar⟩ := h.points p r hp hr
        have hrx : r ≠ x := by
          rintro rfl
          rw [hx.2] at hpar
          exact hpc (Option.some.inj hpar).symm
        exact ⟨hlr, (hparent r hrx).trans hpar⟩

/-- **A node dies.**  It has no children, and has left its parent's list. -/
lemma died (h : Family live parent kids) (hlive : ∀ p, live' p ↔ live p ∧ p ≠ c)
    (hc : live c) (hnone : kids c = []) (hparent : ∀ p, p ≠ c → parent' p = parent p)
    (hkids : ∀ p, p ≠ c → parent c ≠ some p → kids' p = kids p)
    (hleft : ∀ p, parent c = some p → (c :: kids' p).Perm (kids p)) :
    Family live' parent' kids' := by
  have horphan : ∀ p, live p → parent p ≠ some c := by
    intro p hp hpar
    have hcount := h.listed p c hp hpar
    rw [hnone] at hcount
    cases hcount
  refine ⟨fun p r hp hr => ?_, fun p r hp hr => ?_, fun p r hp hr => ?_⟩
  · obtain ⟨hp, hpc⟩ := (hlive p).mp hp
    rw [hparent p hpc] at hr
    exact (hlive r).mpr ⟨h.parent_live p r hp hr, fun he => horphan p hp (he ▸ hr)⟩
  · obtain ⟨hp, hpc⟩ := (hlive p).mp hp
    rw [hparent p hpc] at hr
    have hold := h.listed p r hp hr
    by_cases hrc : parent c = some r
    · rw [← (hleft r hrc).count_eq, List.count_cons_of_ne (Ne.symm hpc)] at hold
      exact hold
    · rw [hkids r (fun he => horphan p hp (he ▸ hr)) hrc]
      exact hold
  · obtain ⟨hp, hpc⟩ := (hlive p).mp hp
    by_cases hcp : parent c = some p
    · have hperm := hleft p hcp
      have hmem : r ∈ kids p := hperm.mem_iff.mp (List.mem_cons_of_mem c hr)
      have hrc : r ≠ c := by
        rintro rfl
        have hcount := h.listed r p hc hcp
        rw [← hperm.count_eq, List.count_cons_self] at hcount
        exact List.count_eq_zero.mp (by omega : (kids' p).count r = 0) hr
      obtain ⟨hlr, hpar⟩ := h.points p r hp hmem
      exact ⟨(hlive r).mpr ⟨hlr, hrc⟩, (hparent r hrc).trans hpar⟩
    · rw [hkids p hpc hcp] at hr
      obtain ⟨hlr, hpar⟩ := h.points p r hp hr
      have hrc : r ≠ c := by
        rintro rfl
        exact hcp hpar
      exact ⟨(hlive r).mpr ⟨hlr, hrc⟩, (hparent r hrc).trans hpar⟩

end Family

end AAAos
