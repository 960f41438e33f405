import Labyrinth.Table
import Labyrinth.Text

/-!
# Mazes

A maze is a table of cells that are open or not. One enters it through the first
open cell of its top row and leaves it through the first open cell of its bottom
row. A maze without rows has neither a top nor a bottom row to look at, which is
not the same as a row without an opening.
-/

namespace Labyrinth

/-- Open cells and walls; `true` is open. -/
abbrev Maze := Table Bool

namespace Maze

/-- The column of the opening in a row. -/
def opening? (row : Array Bool) : Option Nat :=
  row.findIdx? id

def entrance (m : Maze) : Except Misplaced (Option Nat) :=
  match m.rows[0]? with
  | none => .error .unreadable
  | some row => .ok (opening? row)

def exit (m : Maze) : Except Misplaced (Option Nat) :=
  match m.rows.back? with
  | none => .error .unreadable
  | some row => .ok (opening? row)

/-- Whether a cell is open; none outside the maze is. -/
def isOpen (m : Maze) (row col : Nat) : Bool :=
  m.cell? row col == some true

def put (m : Maze) (row col : Nat) (isOpen : Bool) : Maze :=
  m.modifyCell row col fun _ => isOpen

def draw (m : Maze) (wall path : Text) : Text :=
  Text.joined ['\n']
    (m.toLists.map fun row => row.flatMap fun isOpen => if isOpen then path else wall)

end Maze

end Labyrinth
