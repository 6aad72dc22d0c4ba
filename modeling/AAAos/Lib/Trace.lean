import Mathlib.Logic.Basic

/-!
# Runs of a labelled transition system

Every subsystem of the kernel is a state and a set of calls.  What a call may do is given as a
relation `step s call s'`, so that a caller's obligations (free only what you own, pass only
live pointers) are guards of the step and not hypotheses scattered over theorems.  `Steps` is
the set of finite runs, labelled by the calls made, and `Steps.invariant` is the one induction
over runs that the safety results share.
-/

namespace AAAos

universe u v

variable {σ : Type u} {κ : Type v}

/-- A finite run of `step` from one state to another, labelled by the calls made. -/
inductive Steps (step : σ → κ → σ → Prop) : σ → List κ → σ → Prop
  | nil (s : σ) : Steps step s [] s
  | cons {s t u : σ} {c : κ} {cs : List κ} :
      step s c t → Steps step t cs u → Steps step s (c :: cs) u

namespace Steps

variable {step : σ → κ → σ → Prop} {s t : σ} {cs : List κ}

/-- **The induction over runs.**  What one step preserves, every run preserves. -/
theorem invariant {I : σ → Prop} (hstep : ∀ s c t, I s → step s c t → I t)
    (hrun : Steps step s cs t) (hs : I s) : I t := by
  induction hrun with
  | nil s => exact hs
  | cons hst _ ih => exact ih (hstep _ _ _ hs hst)

/-- **The induction over short runs.**  What is preserved may speak of the number of calls so far. -/
theorem counted {I : Nat → σ → Prop} {bound n : Nat}
    (hstep : ∀ n s c t, n < bound → I n s → step s c t → I (n + 1) t) (hrun : Steps step s cs t)
    (hbound : n + cs.length ≤ bound) (hs : I n s) : I (n + cs.length) t := by
  induction hrun generalizing n with
  | nil s => exact hs
  | cons hst _ ih =>
    rw [List.length_cons] at hbound ⊢
    rw [Nat.add_comm _ 1, ← Nat.add_assoc]
    exact ih (by omega) (hstep _ _ _ _ (by omega) hs hst)

/-- A run of one relation is a run of every larger one. -/
theorem imp {step' : σ → κ → σ → Prop} (hstep : ∀ s c t, step s c t → step' s c t)
    (hrun : Steps step s cs t) : Steps step' s cs t := by
  induction hrun with
  | nil s => exact .nil s
  | cons hst _ ih => exact .cons (hstep _ _ _ hst) ih

/-- One run after another. -/
theorem append {u : σ} {ds : List κ} (h₁ : Steps step s cs t) (h₂ : Steps step t ds u) :
    Steps step s (cs ++ ds) u := by
  induction h₁ with
  | nil s => exact h₂
  | cons hst _ ih => exact .cons hst (ih h₂)

/-- Runs can be computed: where `exec` finds the next state, there is a step to it. -/
theorem of_exec {exec : σ → κ → Option σ} (h : ∀ s c t, exec s c = some t → step s c t)
    (hrun : cs.foldlM exec s = some t) : Steps step s cs t := by
  induction cs generalizing s with
  | nil =>
    obtain rfl : s = t := by simpa using hrun
    exact .nil s
  | cons c cs ih =>
    obtain ⟨u, hu, hrest⟩ : ∃ u, exec s c = some u ∧ cs.foldlM exec u = some t := by
      simpa [List.foldlM_cons, Option.bind_eq_some_iff] using hrun
    exact .cons (h s c u hu) (ih hrest)

end Steps

end AAAos
