import Labyrinth.UnknownName
import Labyrinth.Visit.Sides

/-!
# Line shapes

The piece of a visited line inside one cell. At the two ends of the line it is a
half-line that reaches only the neighbour; in between it goes straight through or
bends, and which of these follows from the move into the cell and the move out of
it. A line that enters and leaves on the same side has no shape.
-/

namespace Labyrinth

/-- The piece of a line inside one cell. A bend is named for the corner of a frame it
looks like: `topLeft` goes right and down. -/
inductive Shape where
  | horizontalLeft | horizontalRight | verticalUp | verticalDown
  | horizontal | vertical
  | topLeft | topRight | bottomLeft | bottomRight
  deriving DecidableEq, Repr

namespace Shape

def all : List Shape :=
  [.horizontalLeft, .horizontalRight, .verticalUp, .verticalDown, .horizontal, .vertical,
    .topLeft, .topRight, .bottomLeft, .bottomRight]

def name : Shape → String
  | horizontalLeft => "horizontal_left"
  | horizontalRight => "horizontal_right"
  | verticalUp => "vertical_up"
  | verticalDown => "vertical_down"
  | horizontal => "horizontal"
  | vertical => "vertical"
  | topLeft => "top_left"
  | topRight => "top_right"
  | bottomLeft => "bottom_left"
  | bottomRight => "bottom_right"

def ofName (name : Text) : Except UnknownName Shape :=
  match all.find? fun s => s.name.toList = name with
  | some s => .ok s
  | none => .error ⟨name, "VisitDirection"⟩

def arms : Shape → Sides
  | horizontalLeft => .ofMoves [.left]
  | horizontalRight => .ofMoves [.right]
  | verticalUp => .ofMoves [.up]
  | verticalDown => .ofMoves [.down]
  | horizontal => .ofMoves [.left, .right]
  | vertical => .ofMoves [.up, .down]
  | topLeft => .ofMoves [.right, .down]
  | topRight => .ofMoves [.left, .down]
  | bottomLeft => .ofMoves [.right, .up]
  | bottomRight => .ofMoves [.left, .up]

/-- The end of a line whose only neighbour lies in the direction of `m`. -/
def halfLine : (m : Move) → Shape
  | .left => horizontalLeft
  | .up => verticalUp
  | .right => horizontalRight
  | .down => verticalDown

/-- The piece between a move into the cell and a move out of it, which must not undo it. -/
def bend? : (incoming outgoing : Move) → Option Shape
  | .left, .left => some horizontal
  | .left, .up => some bottomLeft
  | .left, .down => some topLeft
  | .up, .left => some topRight
  | .up, .up => some vertical
  | .up, .right => some topLeft
  | .right, .up => some bottomRight
  | .right, .right => some horizontal
  | .right, .down => some topRight
  | .down, .left => some bottomRight
  | .down, .right => some bottomLeft
  | .down, .down => some vertical
  | .left, .right | .right, .left | .up, .down | .down, .up => none

theorem ofName_name (s : Shape) : ofName s.name.toList = .ok s := by
  cases s <;> rfl

theorem bend?_eq_none_iff {incoming outgoing : Move} :
    bend? incoming outgoing = none ↔ outgoing = incoming.opposite := by
  cases incoming <;> cases outgoing <;> simp [bend?, Move.opposite]

/-- A bend reaches back where the line came from and on to where it goes. -/
theorem arms_of_bend? {incoming outgoing : Move} {s : Shape}
    (h : bend? incoming outgoing = some s) :
    s.arms = .ofMoves [incoming.opposite, outgoing] := by
  cases incoming <;> cases outgoing <;> simp [bend?] at h <;> subst h <;> rfl

theorem find?_arms (s : Shape) : all.find? (fun t => t.arms = s.arms) = some s := by
  cases s <;> rfl

/-- No two shapes have the same arms. -/
theorem arms_injective {s t : Shape} (h : s.arms = t.arms) : s = t := by
  have hs := find?_arms s
  rw [h, find?_arms t] at hs
  exact (Option.some.inj hs).symm

end Shape

end Labyrinth
