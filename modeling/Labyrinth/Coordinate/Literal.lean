import Labyrinth.Coordinate
import Labyrinth.Text.Blank

/-!
# Coordinate literals

A coordinate is written `c(row,column)`, both integers. It stands alone as the
value of a setting and at the front of a path, where moves follow it; both
readings take the same literal off the front of a text.
-/

namespace Labyrinth

inductive CoordinateFault where
  | malformed (text : Text)
  | longNumeral (e : Numeral.TooLong)
  deriving DecidableEq, Repr

def CoordinateFault.message : CoordinateFault → String
  | malformed text => s!"invalid coordinate '{text.shown}', expected c(row,col)"
  | longNumeral e => e.message

namespace Coordinate

/-- Splits a literal off the front of a text: the numerals of row and column, and the rest. -/
def leadingNumerals? (s : Text) : Option ((Text × Text) × Text) := do
  let s ← Text.after? "c(".toList s
  let (row, s) ← Numeral.leadingInteger? s
  let s ← Text.after? [','] s
  let (col, s) ← Numeral.leadingInteger? s
  let s ← Text.after? [')'] s
  return ((row, col), s)

def ofNumerals (row col : Text) : Except Numeral.TooLong Coordinate := do
  let row ← Numeral.integer row
  let col ← Numeral.integer col
  return ⟨row, col⟩

/-- Reads a coordinate literal; blanks and the case of letters do not matter. -/
def parse (text : Text) : Except CoordinateFault Coordinate :=
  match leadingNumerals? (Text.lowercased (Text.squeezed text)) with
  | some ((row, col), []) => (ofNumerals row col).mapError .longNumeral
  | _ => .error (.malformed text)

end Coordinate

end Labyrinth
