import Labyrinth.Move

/-!
# Sides of a cell

A line through a cell reaches some of its four sides. Sets of sides are what
shapes have in common with the glyphs they are drawn with: several lines through
one cell are drawn as one glyph that reaches every side any of them reaches.
-/

namespace Labyrinth

structure Sides where
  left : Bool
  up : Bool
  right : Bool
  down : Bool
  deriving DecidableEq, Repr

namespace Sides

def empty : Sides := ⟨false, false, false, false⟩

def has (s : Sides) : Move → Bool
  | .left => s.left
  | .up => s.up
  | .right => s.right
  | .down => s.down

def union (s t : Sides) : Sides :=
  ⟨s.left || t.left, s.up || t.up, s.right || t.right, s.down || t.down⟩

def ofMoves (moves : List Move) : Sides :=
  ⟨moves.contains .left, moves.contains .up, moves.contains .right, moves.contains .down⟩

def moves (s : Sides) : List Move :=
  Move.all.filter s.has

theorem has_union (s t : Sides) (m : Move) : (s.union t).has m = (s.has m || t.has m) := by
  cases m <;> rfl

theorem has_ofMoves (moves : List Move) (m : Move) : (ofMoves moves).has m = moves.contains m := by
  cases m <;> rfl

theorem eq_of_has {s t : Sides} (h : ∀ m, s.has m = t.has m) : s = t := by
  obtain ⟨_, _, _, _⟩ := s
  obtain ⟨_, _, _, _⟩ := t
  rw [Sides.mk.injEq]
  exact ⟨h .left, h .up, h .right, h .down⟩

end Sides

end Labyrinth
