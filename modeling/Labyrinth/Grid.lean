import Labyrinth.Table

/-!
# Grids

The cells of a maze that a document describes: open ones, which belong to a path,
and walls. Everything is wall until a statement opens it.
-/

namespace Labyrinth

inductive CellKind where
  | wall | path
  deriving DecidableEq, Repr

namespace CellKind

/-- The letter of a kind, in row statements among others. -/
def code : CellKind → Char
  | wall => 'w'
  | path => 'p'

def ofCode? : Char → Option CellKind
  | 'w' => some wall
  | 'p' => some path
  | _ => none

/-- The kind with a given code, which may be any text. -/
def ofText (code : Text) : Except UnknownName CellKind :=
  match code with
  | [c] =>
    match ofCode? c with
    | some kind => .ok kind
    | none => .error ⟨code, "CellKind"⟩
  | _ => .error ⟨code, "CellKind"⟩

end CellKind

abbrev Grid := Table CellKind

namespace Grid

def openCells (g : Grid) : List Coordinate :=
  g.entries.filterMap fun (c, kind) => if kind = .path then some c else none

end Grid

end Labyrinth
