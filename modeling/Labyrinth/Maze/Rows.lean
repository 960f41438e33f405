import Labyrinth.Grid
import Labyrinth.Maze

/-!
# Mazes as statements

A maze is written as one row statement per row, ready to follow a block of
settings. Every statement ends its line, and the block is given the line break it
may lack, so that the first row begins a line of its own.
-/

namespace Labyrinth.Maze

def kind (isOpen : Bool) : CellKind :=
  if isOpen then .path else .wall

def rowStatement (row : List Bool) (index : Nat) : Text :=
  'r' :: Numeral.ofNat index ++ [':'] ++ row.map (fun isOpen => (kind isOpen).code) ++ [';']

def statements (m : Maze) : Text :=
  m.toLists.zipIdx.flatMap fun (row, index) => rowStatement row index ++ ['\n']

/-- A block of settings followed by the rows of a maze. -/
def compose (settings : Text) (m : Maze) : Text :=
  (match settings.getLast? with
    | none | some '\n' => settings
    | some _ => settings ++ ['\n'])
    ++ m.statements

end Labyrinth.Maze
