import Labyrinth.Chance

/-!
# Recorded draws

A source that remembers what it was asked and what it answered. It answers as the
source inside it does; nothing that draws from it can tell the difference.
-/

namespace Labyrinth

/-- A source with the draws it has answered, latest first, each a range and an answer. -/
structure Recorded (σ : Type) where
  source : σ
  draws : List (Nat × Nat)
  deriving DecidableEq, Repr

namespace Recorded

variable {σ : Type}

def fresh (s : σ) : Recorded σ :=
  ⟨s, []⟩

/-- The draws in the order in which they were made. -/
def history (s : Recorded σ) : List (Nat × Nat) :=
  s.draws.reverse

instance [Source σ] : Source (Recorded σ) where
  draw range s :=
    (Source.draw range s.source).map fun (answer, rest) =>
      (answer, ⟨rest, (range, answer) :: s.draws⟩)
  remaining s := Source.remaining s.source
  draw_lt := by
    intro range s s' answer hr h
    obtain ⟨⟨a, t⟩, hd, heq⟩ := Option.map_eq_some_iff.1 h
    obtain ⟨rfl, _⟩ := Prod.mk.inj heq
    exact Source.draw_lt hr hd
  remaining_draw := by
    intro range s s' answer h
    obtain ⟨⟨a, t⟩, hd, heq⟩ := Option.map_eq_some_iff.1 h
    obtain ⟨_, rfl⟩ := Prod.mk.inj heq
    exact Source.remaining_draw hd

end Recorded

end Labyrinth
