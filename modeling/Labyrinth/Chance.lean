/-!
# Chance

A maze is made of random draws, each a number below some range. What answers them
is a *source*: a list of answers given in advance, or a generator with a seed. All
that is known of a source is that an answer lies below the range it was asked for,
and that there is a bound on the answers still to come, which every draw lowers.
The bound is why a loop that draws until it likes the answer comes to an end.

A source can run dry. What was drawn so far is not lost then: a dry draw still
leaves a source behind.
-/

namespace Labyrinth

/-- What answers random draws. -/
class Source (σ : Type) where
  /-- An answer below the range, and the source that is left. -/
  draw : (range : Nat) → σ → Option (Nat × σ)
  /-- A bound on the answers that are left. -/
  remaining : σ → Nat
  draw_lt : ∀ {range : Nat} {s s' : σ} {answer : Nat},
    0 < range → draw range s = some (answer, s') → answer < range
  remaining_draw : ∀ {range : Nat} {s s' : σ} {answer : Nat},
    draw range s = some (answer, s') → remaining s' < remaining s

/-- The result of drawing: a value, or the range of the draw that found no answer. Either way
there is a source left. -/
inductive Drawn (σ α : Type) where
  | drew (value : α) (rest : σ)
  | dry (range : Nat) (rest : σ)
  deriving DecidableEq, Repr

namespace Drawn

variable {σ α β : Type}

/-- Draws on, unless the source is dry. -/
def andThen (d : Drawn σ α) (next : α → σ → Drawn σ β) : Drawn σ β :=
  match d with
  | drew value rest => next value rest
  | dry range rest => dry range rest

def map (d : Drawn σ α) (f : α → β) : Drawn σ β :=
  d.andThen fun value rest => drew (f value) rest

/-- The source that is left. -/
def rest : Drawn σ α → σ
  | drew _ rest => rest
  | dry _ rest => rest

end Drawn

def drawBelow {σ : Type} [Source σ] (range : Nat) (s : σ) : Drawn σ Nat :=
  match Source.draw range s with
  | some (answer, s') => .drew answer s'
  | none => .dry range s

theorem drawBelow_eq_drew_iff {σ : Type} [Source σ] {range answer : Nat} {s s' : σ} :
    drawBelow range s = .drew answer s' ↔ Source.draw range s = some (answer, s') := by
  unfold drawBelow
  cases Source.draw range s with
  | none => simp
  | some p => obtain ⟨a, t⟩ := p; simp

/-- A draw, whether it is answered or not, leaves no more answers than there were. -/
theorem remaining_drawBelow_le {σ : Type} [Source σ] (range : Nat) (s : σ) :
    Source.remaining (drawBelow range s).rest ≤ Source.remaining s := by
  unfold drawBelow
  cases h : Source.draw range s with
  | none => exact Nat.le_refl _
  | some p =>
      obtain ⟨answer, s'⟩ := p
      exact Nat.le_of_lt (Source.remaining_draw h)

end Labyrinth
