import Labyrinth.Division
import Labyrinth.Event

/-!
# Generating a maze

A maze of a given width and height is an open chamber inside a border, divided
until no chamber is left, with an entrance and an exit opened in the border. A
side below 3 leaves no room for a chamber, and then there is no maze.
-/

namespace Labyrinth

namespace Generator

/-- Something that happens while a maze is made. -/
inductive Event where
  | refused (height width : Int)
  | split (s : Split)
  | generated (height width : Nat) (entrance exit : Option Nat)
  deriving DecidableEq, Repr

namespace Event

def level : Event → Level
  | split _ => .debug
  | refused .. | generated .. => .info

def columnText : Option Nat → String
  | none => "None"
  | some col => toString col

def message : Event → String
  | refused height width => s!"refusing to generate a {height}x{width} maze"
  | split s => s!"chamber {s.chamber.text} split at column {s.column}, row {s.row}"
  | generated height width entrance exit =>
    s!"generated {height}x{width} maze, entrance column {columnText entrance}, "
      ++ s!"exit column {columnText exit}"

end Event

/-- What came of an attempt to make a maze: the maze, nothing because it would be too small, or
the range of the draw that found no answer. -/
structure Result (σ : Type) where
  maze : Except Nat (Option Maze)
  source : σ
  events : List Event

/-- The column of an opening, where there is a row to look at. -/
def column? (opening : Except Misplaced (Option Nat)) : Option Nat :=
  match opening with
  | .ok col => col
  | .error _ => none

def finalEvent (m : Maze) (height width : Nat) : Event :=
  .generated height width (column? m.entrance) (column? m.exit)

/-- Makes a maze whose sides are large enough. -/
def divide {σ : Type} [Source σ] (height width : Nat) (source : σ) : Result σ :=
  let division := Division.run
    ⟨Maze.bordered height width, [Maze.interior height width], source, []⟩
  let splits := division.splits.map Event.split
  match division.maze with
  | .error range => ⟨.error range, division.source, splits⟩
  | .ok divided =>
    let maze := divided.openBorder height width
    ⟨.ok (some maze), division.source, splits ++ [finalEvent maze height width]⟩

def generate {σ : Type} [Source σ] (width height : Int) (source : σ) : Result σ :=
  if width < 3 ∨ height < 3 then ⟨.ok none, source, [.refused height width]⟩
  else divide height.toNat width.toNat source

end Generator

end Labyrinth
