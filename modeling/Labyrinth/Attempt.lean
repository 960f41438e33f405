/-!
# Attempts

Some operations write as they go and can fail midway. What they wrote before the
failure stays, so their result is not "a state or a fault" but a state and perhaps
a fault. Work is done element by element until the first fault, and the law of
that loop is that doing `xs ++ ys` is doing `xs` and then, if nothing failed, `ys`.
-/

namespace Labyrinth

/-- The state an operation reached, and what stopped it there if it did not finish. -/
structure Attempt (σ ε : Type) where
  state : σ
  fault : Option ε
  deriving DecidableEq, Repr

namespace Attempt

variable {α σ τ ε δ : Type}

def done (s : σ) : Attempt σ ε :=
  ⟨s, none⟩

def failed (s : σ) (e : ε) : Attempt σ ε :=
  ⟨s, some e⟩

/-- Goes on where an operation finished. -/
def andThen (a : Attempt σ ε) (next : σ → Attempt σ ε) : Attempt σ ε :=
  match a.fault with
  | none => next a.state
  | some _ => a

/-- The same operation on a part of a larger state. -/
def embed (a : Attempt σ ε) (whole : σ → τ) : Attempt τ ε :=
  ⟨whole a.state, a.fault⟩

def mapFault (a : Attempt σ ε) (f : ε → δ) : Attempt σ δ :=
  ⟨a.state, a.fault.map f⟩

/-- One step for each element, until the first fault. -/
def each (step : σ → α → Attempt σ ε) (s : σ) : List α → Attempt σ ε
  | [] => done s
  | x :: xs =>
    match step s x with
    | ⟨s', none⟩ => each step s' xs
    | ⟨s', some e⟩ => failed s' e

theorem each_append (step : σ → α → Attempt σ ε) (s : σ) (xs ys : List α) :
    each step s (xs ++ ys) = (each step s xs).andThen fun s' => each step s' ys := by
  induction xs generalizing s with
  | nil => rfl
  | cons x xs ih =>
      simp only [List.cons_append, each]
      split
      · exact ih _
      · rfl

end Attempt

end Labyrinth
