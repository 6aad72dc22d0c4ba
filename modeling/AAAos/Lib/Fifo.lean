import Mathlib.Data.List.Basic

/-!
# Bounded queues

What a queue of at most `cap` values is for: values come in at the end and leave at the front, and a value can be
taken out of the middle.  `answers` is what an object says to one call after the other, and `answers_refine` is the
simulation of one object by another that gives the same answers.
-/

namespace AAAos

universe u v w x

/-! ## Objects that answer calls -/

section Answers

variable {σ : Type u} {τ : Type v} {κ : Type w} {ρ : Type x}

/-- The answers to the calls, and the state after the last one. -/
def answers (call : σ → κ → ρ × σ) : σ → List κ → List ρ × σ
  | s, [] => ([], s)
  | s, c :: cs =>
    let rest := answers call (call s c).2 cs
    ((call s c).1 :: rest.1, rest.2)

/-- **Simulation.**  If two objects give the same answer to each call, then they do so to every sequence of calls. -/
theorem answers_refine {call : σ → κ → ρ × σ} {call' : τ → κ → ρ × τ} {R : σ → τ → Prop}
    (hstep : ∀ s t c, R s t → (call s c).1 = (call' t c).1 ∧ R (call s c).2 (call' t c).2)
    {s : σ} {t : τ} (hst : R s t) (cs : List κ) :
    (answers call s cs).1 = (answers call' t cs).1 ∧ R (answers call s cs).2 (answers call' t cs).2 := by
  induction cs generalizing s t with
  | nil => exact ⟨rfl, hst⟩
  | cons c cs ih =>
    obtain ⟨hanswer, hnext⟩ := hstep s t c hst
    obtain ⟨hrest, hlast⟩ := ih hnext
    refine ⟨?_, hlast⟩
    simp only [answers, hanswer, hrest]

end Answers

/-! ## Queues -/

/-- The calls of a queue, with pointers that may be `NULL`. -/
inductive QueueCall (α : Type u)
  | enqueue (a : Option α)
  | dequeue
  | remove (a : Option α)
  | peek

/-- What a queue answers. -/
inductive QueueAnswer (α : Type u)
  | done (b : Bool)
  | value (a : Option α)
deriving DecidableEq

/-- A queue of at most `cap` values, first to last. -/
def fifoCall {α : Type u} [DecidableEq α] (cap : Nat) (l : List α) : QueueCall α → QueueAnswer α × List α
  | .enqueue (some a) => if l.length < cap then (.done true, l ++ [a]) else (.done false, l)
  | .enqueue none => (.done false, l)
  | .dequeue => (.value l.head?, l.tail)
  | .remove (some a) => (.done (decide (a ∈ l)), l.erase a)
  | .remove none => (.done false, l)
  | .peek => (.value l.head?, l)

end AAAos
