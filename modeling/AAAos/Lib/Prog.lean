import Mathlib.Logic.Basic

/-!
# Programs over a machine

A driver routine is a program that issues calls and computes with the replies.  `Prog` is the
tree of its calls, so the same routine runs on the machine that implements the calls (`run`) and
is reasoned about on a specification of them (`wp`).  `hang` is a loop that does not end.

Two inductions over the tree carry the whole method.  `run_invariant`: what every admitted call
preserves, a run preserves.  `simulates`: if each call of the machine is matched by the
specification, a weakest precondition proved on the specification holds of the run.  `Along`
says that every call a run issues is admitted in the state it is issued in.
-/

namespace AAAos

/-- The calls a program may issue and the type of each reply. -/
structure Interface where
  Call : Type
  Reply : Call → Type

/-- A program over an interface. -/
inductive Prog (I : Interface) (α : Type) : Type
  | done (a : α)
  | call (c : I.Call) (k : I.Reply c → Prog I α)
  | hang

/-- What answers the calls: a reply and the next state. -/
abbrev Machine (I : Interface) (σ : Type) := (c : I.Call) → σ → I.Reply c × σ

/-- What a call requires, and what it may answer. -/
structure Spec (I : Interface) (τ : Type) where
  pre : I.Call → τ → Prop
  post : (c : I.Call) → τ → I.Reply c → τ → Prop

variable {I : Interface} {α β σ τ : Type}

/-- The specification in which a program may rely on `P` of every call it issues. -/
def Spec.assuming (S : Spec I τ) (P : I.Call → Prop) : Spec I τ where
  pre c t := P c → S.pre c t
  post c t r u := P c ∧ S.post c t r u

namespace Prog

/-! ## Sequencing -/

def bind : Prog I α → (α → Prog I β) → Prog I β
  | done a, f => f a
  | call c k, f => call c fun r => (k r).bind f
  | hang, _ => hang

instance : Monad (Prog I) where
  pure := done
  bind := bind

/-- Issue one call. -/
def issue (c : I.Call) : Prog I (I.Reply c) := call c done

/-- A loop: the body gives the next state of the loop, or its result.  It hangs when it has not
ended after `fuel` rounds. -/
def loop (body : β → Prog I (β ⊕ α)) : Nat → β → Prog I α
  | 0, _ => hang
  | fuel + 1, b => (body b).bind fun
      | .inl b' => loop body fuel b'
      | .inr a => done a

/-! ## Running -/

/-- The run of a program on a machine; `none` if it hangs. -/
def run (M : Machine I σ) : Prog I α → σ → Option (α × σ)
  | done a, s => some (a, s)
  | call c k, s => (k (M c s).1).run M (M c s).2
  | hang, _ => none

/-- Every call of the run satisfies `P` in the state it is issued in. -/
def Along (M : Machine I σ) (P : I.Call → σ → Prop) : Prog I α → σ → Prop
  | done _, _ => True
  | call c k, s => P c s ∧ (k (M c s).1).Along M P (M c s).2
  | hang, _ => True

lemma along_of_forall {M : Machine I σ} {P : I.Call → σ → Prop} (h : ∀ c s, P c s)
    (p : Prog I α) (s : σ) : p.Along M P s := by
  induction p generalizing s with
  | done a => trivial
  | call c k ih => exact ⟨h c s, ih _ _⟩
  | hang => trivial

lemma Along.mono {M : Machine I σ} {P Q : I.Call → σ → Prop} {p : Prog I α} {s : σ}
    (h : p.Along M P s) (hPQ : ∀ c s, P c s → Q c s) : p.Along M Q s := by
  induction p generalizing s with
  | done a => trivial
  | call c k ih => exact ⟨hPQ c s h.1, ih _ h.2⟩
  | hang => trivial

/-- The calls of a sequence are those of the first program, and then those of the second one. -/
lemma along_bind {M : Machine I σ} {P : I.Call → σ → Prop} {p : Prog I α} {f : α → Prog I β}
    {s : σ} : (p >>= f).Along M P s ↔ p.Along M P s ∧ ∀ a t, p.run M s = some (a, t) → (f a).Along M P t := by
  induction p generalizing s with
  | done b =>
    refine ⟨fun h => ⟨trivial, fun a t hrun => ?_⟩, fun h => h.2 b s rfl⟩
    obtain ⟨rfl, rfl⟩ := Prod.mk.inj (Option.some.inj hrun)
    exact h
  | call c k ih =>
    constructor
    · intro h
      obtain ⟨hk, hf⟩ := (ih _).mp h.2
      exact ⟨⟨h.1, hk⟩, hf⟩
    · intro h
      exact ⟨h.1.1, (ih _).mpr ⟨h.1.2, h.2⟩⟩
  | hang => exact ⟨fun _ => ⟨trivial, fun a t hrun => nomatch hrun⟩, fun _ => trivial⟩

/-- **The induction over a run.**  What every admitted call preserves, the run preserves. -/
theorem run_invariant {M : Machine I σ} {P : I.Call → σ → Prop} {J : σ → Prop}
    (hstep : ∀ c s, J s → P c s → J (M c s).2) {p : Prog I α} {s t : σ} {a : α}
    (hs : J s) (halong : p.Along M P s) (hrun : p.run M s = some (a, t)) : J t := by
  induction p generalizing s with
  | done b =>
    cases hrun
    exact hs
  | call c k ih => exact ih _ (hstep c s hs halong.1) halong.2 hrun
  | hang => cases hrun

/-- What every admitted call preserves, holds at every call. -/
theorem Along.invariant {M : Machine I σ} {P : I.Call → σ → Prop} {J : σ → Prop}
    (hstep : ∀ c s, J s → P c s → J (M c s).2) {p : Prog I α} {s : σ} (hs : J s)
    (halong : p.Along M P s) : p.Along M (fun _ s => J s) s := by
  induction p generalizing s with
  | done a => trivial
  | call c k ih => exact ⟨hs, ih _ (hstep c s hs halong.1) halong.2⟩
  | hang => trivial

section RunLoop

variable {M : Machine I σ} {body : β → Prog I (β ⊕ α)} {s s' : σ} {b b' : β} {a : α} {fuel fuel' : Nat}

lemma run_bind {p : Prog I α} {f : α → Prog I β} (s : σ) :
    (p >>= f).run M s = (p.run M s).bind fun r => (f r.1).run M r.2 := by
  induction p generalizing s with
  | done a => rfl
  | call c k ih => exact ih _ _
  | hang => rfl

lemma run_bind_mono {p p' : Prog I α} {f f' : α → Prog I β} {y : β × σ}
    (hp : ∀ x, p.run M s = some x → p'.run M s = some x)
    (hf : ∀ a t, (f a).run M t = some y → (f' a).run M t = some y) (h : (p >>= f).run M s = some y) :
    (p' >>= f').run M s = some y := by
  rw [run_bind] at h ⊢
  obtain ⟨x, hx, hy⟩ := Option.bind_eq_some_iff.mp h
  rw [hp x hx]
  exact hf x.1 x.2 hy

lemma run_loop_inl (h : (body b).run M s = some (.inl b', s')) :
    (loop body (fuel + 1) b).run M s = (loop body fuel b').run M s' := by
  refine (run_bind s).trans ?_
  rw [h]
  rfl

lemma run_loop_inr (h : (body b).run M s = some (.inr a, s')) : (loop body (fuel + 1) b).run M s = some (a, s') := by
  refine (run_bind s).trans ?_
  rw [h]
  rfl

lemma run_loop_mono (h : (loop body fuel b).run M s = some (a, s')) (hle : fuel ≤ fuel') :
    (loop body fuel' b).run M s = some (a, s') := by
  induction fuel generalizing b s fuel' with
  | zero => cases h
  | succ fuel ih =>
    obtain ⟨fuel', rfl⟩ : ∃ n, fuel' = n + 1 := ⟨fuel' - 1, by omega⟩
    have hround := (run_bind s).symm.trans h
    obtain ⟨⟨r, t⟩, hrun, hrest⟩ := Option.bind_eq_some_iff.mp hround
    cases r with
    | inl b' =>
      rw [run_loop_inl hrun]
      exact ih hrest (Nat.le_of_succ_le_succ hle)
    | inr a' =>
      rw [run_loop_inr hrun]
      exact hrest

/-- **A loop that does not end.**  Every round leads to one of the same kind. -/
theorem run_loop_hangs {J : β → σ → Prop}
    (h : ∀ b s, J b s → ∃ b' s', (body b).run M s = some (.inl b', s') ∧ J b' s') (fuel : Nat) (hJ : J b s) :
    (loop body fuel b).run M s = none := by
  induction fuel generalizing b s with
  | zero => rfl
  | succ fuel ih =>
    obtain ⟨b', s', hrun, hJ'⟩ := h b s hJ
    rw [run_loop_inl hrun]
    exact ih hJ'

end RunLoop

/-! ## The calls of a program -/

/-- The program ends, every call it issues is allowed, and `Q` holds of its result, whatever the
specification answers. -/
def wp (S : Spec I τ) : Prog I α → (α → τ → Prop) → τ → Prop
  | done a, Q, t => Q a t
  | call c k, Q, t => S.pre c t ∧ ∀ r u, S.post c t r u → (k r).wp S Q u
  | hang, _, _ => False

variable {S : Spec I τ} {p : Prog I α} {f : α → Prog I β} {Q Q' : α → τ → Prop} {t : τ}

@[simp] lemma wp_pure (a : α) : (pure a : Prog I α).wp S Q t ↔ Q a t := Iff.rfl

@[simp] lemma wp_issue {c : I.Call} {Q : I.Reply c → τ → Prop} :
    (issue c).wp S Q t ↔ S.pre c t ∧ ∀ r u, S.post c t r u → Q r u := Iff.rfl

@[simp] lemma wp_bind {Q : β → τ → Prop} : (p >>= f).wp S Q t ↔ p.wp S (fun a u => (f a).wp S Q u) t := by
  induction p generalizing t with
  | done a => exact Iff.rfl
  | call c k ih => exact and_congr_right fun _ => forall₃_congr fun r _ _ => ih r
  | hang => exact Iff.rfl

@[simp] lemma wp_map {g : α → β} {Q : β → τ → Prop} : (g <$> p).wp S Q t ↔ p.wp S (fun a u => Q (g a) u) t := wp_bind

lemma wp_mono (h : p.wp S Q t) (hQ : ∀ a u, Q a u → Q' a u) : p.wp S Q' t := by
  induction p generalizing t with
  | done a => exact hQ a t h
  | call c k ih => exact ⟨h.1, fun r u hru => ih r (h.2 r u hru)⟩
  | hang => exact h

lemma wp_loop_succ {body : β → Prog I (β ⊕ α)} {fuel : Nat} {b : β} :
    (loop body (fuel + 1) b).wp S Q t ↔ (body b).wp S (fun r u =>
      match r with
      | .inl b' => (loop body fuel b').wp S Q u
      | .inr a => Q a u) t := by
  refine (wp_bind (f := _)).trans ?_
  refine ⟨fun h => wp_mono h ?_, fun h => wp_mono h ?_⟩
  · rintro (b' | a) u hu
    · exact hu
    · exact hu
  · rintro (b' | a) u hu
    · exact hu
    · exact hu

lemma wp_assuming {P : I.Call → Prop} (h : p.wp S Q t) : p.wp (S.assuming P) Q t := by
  induction p generalizing t with
  | done a => exact h
  | call c k ih => exact ⟨fun _ => h.1, fun r u hru => ih r (h.2 r u hru.2)⟩
  | hang => exact h

/-! ## Refinement -/

/-- **Simulation.**  If related states answer an allowed call alike, a program whose weakest
precondition holds on the specification returns on the machine, in a state related to one that
satisfies the postcondition. -/
theorem simulates {M : Machine I σ} {R : σ → τ → Prop} {P : I.Call → Prop}
    (hsim : ∀ c s t, R s t → P c → S.pre c t → ∃ u, S.post c t (M c s).1 u ∧ R (M c s).2 u)
    {s : σ} (hR : R s t) (hwp : p.wp (S.assuming P) Q t)
    (halong : p.Along M (fun c _ => P c) s) :
    ∃ a s' u, p.run M s = some (a, s') ∧ R s' u ∧ Q a u := by
  induction p generalizing s t with
  | done a => exact ⟨a, s, t, rfl, hR, hwp⟩
  | call c k ih =>
    obtain ⟨hc, hrest⟩ := halong
    obtain ⟨u, hpost, hRu⟩ := hsim c s t hR hc (hwp.1 hc)
    exact ih _ hRu (hwp.2 _ u ⟨hc, hpost⟩) hrest
  | hang => exact hwp.elim

end Prog

end AAAos
