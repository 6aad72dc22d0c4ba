import Mathlib.Data.List.Nodup
import Mathlib.Logic.Function.Basic

/-!
# Lists of waiters

A system has places where threads wait, and at each place a list of the threads that do.
`WaitExact` says that the lists are exact: a thread is listed at most once, only where it waits
(`place`, which gives each thread one place at most, so it is in at most one list), and only while
it is asleep.  The operations are to wake the first thread of a list, to put a thread to sleep, and
to clear a list; a thread that is in no list may change its place and its sleep freely.
-/

namespace AAAos

universe u v

variable {ι : Type u} {τ : Type v}

/-- The lists are exact. -/
structure WaitExact (lists : ι → List τ) (asleep : τ → Prop) (place : τ → Option ι) : Prop where
  nodup : ∀ a, (lists a).Nodup
  asleep : ∀ a, ∀ x ∈ lists a, asleep x
  place : ∀ a, ∀ x ∈ lists a, place x = some a

namespace WaitExact

variable {lists : ι → List τ} {asleep asleep' : τ → Prop} {place place' : τ → Option ι} {a : ι}
  {x : τ} {rest : List τ}

lemma eq_of_mem (h : WaitExact lists asleep place) {b : ι} (ha : x ∈ lists a) (hb : x ∈ lists b) : a = b :=
  Option.some.inj ((h.place a x ha).symm.trans (h.place b x hb))

/-- **The frame rule.**  Only listed threads matter. -/
lemma congr (h : WaitExact lists asleep place) (hasleep : ∀ a, ∀ x ∈ lists a, asleep' x)
    (hplace : ∀ a, ∀ x ∈ lists a, place' x = place x) : WaitExact lists asleep' place' :=
  ⟨h.nodup, hasleep, fun a x hx => (hplace a x hx).trans (h.place a x hx)⟩

variable [DecidableEq ι]

lemma wake (h : WaitExact lists asleep place) (hlist : lists a = x :: rest)
    (hasleep : ∀ y, y ≠ x → asleep y → asleep' y) :
    WaitExact (Function.update lists a rest) asleep' place := by
  have hnodup := h.nodup a
  rw [hlist, List.nodup_cons] at hnodup
  have hmem : ∀ b, ∀ y ∈ Function.update lists a rest b, y ∈ lists b ∧ y ≠ x := by
    intro b y hy
    by_cases hb : b = a
    · subst hb
      rw [Function.update_self] at hy
      exact ⟨hlist ▸ List.mem_cons_of_mem x hy, fun hyx => hnodup.1 (hyx ▸ hy)⟩
    · rw [Function.update_of_ne hb] at hy
      refine ⟨hy, fun hyx => hb ?_⟩
      exact h.eq_of_mem hy (hlist ▸ hyx ▸ List.mem_cons_self)
  refine ⟨fun b => ?_, fun b y hy => ?_, fun b y hy => h.place b y (hmem b y hy).1⟩
  · by_cases hb : b = a
    · subst hb
      rw [Function.update_self]
      exact hnodup.2
    · rw [Function.update_of_ne hb]
      exact h.nodup b
  · exact hasleep y (hmem b y hy).2 (h.asleep b y (hmem b y hy).1)

lemma sleep (h : WaitExact lists asleep place) (hnot : ∀ b, x ∉ lists b) (hplace : place x = some a)
    (hself : asleep' x) (hasleep : ∀ y, y ≠ x → asleep y → asleep' y) :
    WaitExact (Function.update lists a (lists a ++ [x])) asleep' place := by
  have hmem : ∀ b, ∀ y ∈ Function.update lists a (lists a ++ [x]) b,
      y ∈ lists b ∨ b = a ∧ y = x := by
    intro b y hy
    by_cases hb : b = a
    · subst hb
      rw [Function.update_self, List.mem_append, List.mem_singleton] at hy
      exact hy.imp_right fun hyx => ⟨rfl, hyx⟩
    · rw [Function.update_of_ne hb] at hy
      exact .inl hy
  refine ⟨fun b => ?_, fun b y hy => ?_, fun b y hy => ?_⟩
  · by_cases hb : b = a
    · subst hb
      rw [Function.update_self]
      refine List.nodup_append.mpr ⟨h.nodup b, List.nodup_singleton x, fun y hy z hz hyz => ?_⟩
      rw [List.mem_singleton.mp hz] at hyz
      exact hnot b (hyz ▸ hy)
    · rw [Function.update_of_ne hb]
      exact h.nodup b
  · rcases hmem b y hy with hy | ⟨-, rfl⟩
    · exact hasleep y (fun hyx => hnot b (hyx ▸ hy)) (h.asleep b y hy)
    · exact hself
  · rcases hmem b y hy with hy | ⟨rfl, rfl⟩
    · exact h.place b y hy
    · exact hplace

lemma clear (h : WaitExact lists asleep place) (a : ι) : WaitExact (Function.update lists a []) asleep place := by
  have hmem : ∀ b, ∀ y ∈ Function.update lists a [] b, y ∈ lists b := by
    intro b y hy
    by_cases hb : b = a
    · subst hb
      simp at hy
    · rwa [Function.update_of_ne hb] at hy
  refine ⟨fun b => ?_, fun b y hy => h.asleep b y (hmem b y hy), fun b y hy => h.place b y (hmem b y hy)⟩
  by_cases hb : b = a
  · subst hb
    simp
  · rw [Function.update_of_ne hb]
    exact h.nodup b

end WaitExact

end AAAos
