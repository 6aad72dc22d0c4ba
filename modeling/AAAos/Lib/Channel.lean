import AAAos.Lib.Trace

/-!
# Two parties and a channel

Each of two parties has a log of the messages it has sent.  The channel between them may lose, duplicate
and reorder messages: in a step, a party may receive any message of the other's log, whether it has
received it before or not, and nothing makes it receive one.
-/

namespace AAAos

universe u v w x y

variable {σ : Type u} {τ : Type v} {ε : Type w} {δ : Type x} {μ : Type y}

/-- A party: its steps, the message that a step receives, and the messages sent so far. -/
structure Party (σ : Type u) (ε : Type w) (μ : Type y) where
  Step : σ → ε → σ → Prop
  received : ε → Option μ
  sent : σ → List μ

/-- One of the two parties takes a step. -/
inductive ChannelStep (A : Party σ ε μ) (B : Party τ δ μ) : σ × τ → ε ⊕ δ → σ × τ → Prop
  | left {a a' : σ} {b : τ} {e : ε} (hstep : A.Step a e a')
      (hsent : ∀ m, A.received e = some m → m ∈ B.sent b) :
      ChannelStep A B (a, b) (.inl e) (a', b)
  | right {a : σ} {b b' : τ} {e : δ} (hstep : B.Step b e b')
      (hsent : ∀ m, B.received e = some m → m ∈ A.sent a) :
      ChannelStep A B (a, b) (.inr e) (a, b')

/-- **The induction over runs of two parties**: what each step of each party keeps holds at the end. -/
theorem Steps.of_channel {A : Party σ ε μ} {B : Party τ δ μ} {I : σ → τ → Prop}
    (hleft : ∀ a b e a', I a b → A.Step a e a' → (∀ m, A.received e = some m → m ∈ B.sent b) → I a' b)
    (hright : ∀ a b e b', I a b → B.Step b e b' → (∀ m, B.received e = some m → m ∈ A.sent a) → I a b')
    {a a' : σ} {b b' : τ} {es : List (ε ⊕ δ)}
    (hrun : Steps (ChannelStep A B) (a, b) es (a', b')) (h : I a b) : I a' b' := by
  refine hrun.invariant (I := fun s => I s.1 s.2) (fun s e s' hs hstep => ?_) h
  cases hstep with
  | left hstep hsent => exact hleft _ _ _ _ hs hstep hsent
  | right hstep hsent => exact hright _ _ _ _ hs hstep hsent

end AAAos
