import Labyrinth.Numeral
import Labyrinth.Text.Blank
import Labyrinth.Text.Lowercase

/-!
# Colours

A colour is a triple of components, written `rgb(red:green:blue)`. A literal must
keep its components within 0 and 255; the value itself does not, so a colour that
never was a literal still has a written form.
-/

namespace Labyrinth

structure Color where
  red : Int
  green : Int
  blue : Int
  deriving DecidableEq, Repr

inductive ColorFault where
  | malformed (text : Text)
  | outOfRange (text : Text)
  | longNumeral (e : Numeral.TooLong)
  deriving DecidableEq, Repr

def ColorFault.message : ColorFault → String
  | malformed text => s!"invalid colour '{text.shown}', expected rgb(red:green:blue)"
  | outOfRange text => s!"colour components must be in 0..255, got '{text.shown}'"
  | longNumeral e => e.message

namespace Color

def white : Color := ⟨255, 255, 255⟩
def black : Color := ⟨0, 0, 0⟩
def scarlet : Color := ⟨255, 0, 0⟩
def lightGray : Color := ⟨192, 192, 192⟩

def text (c : Color) : Text :=
  "rgb(".toList ++ Numeral.ofInt c.red ++ [':'] ++ Numeral.ofInt c.green ++ [':']
    ++ Numeral.ofInt c.blue ++ [')']

/-- By red, then green, then blue. -/
def precedes (a b : Color) : Bool :=
  if a.red ≠ b.red then a.red < b.red
  else if a.green ≠ b.green then a.green < b.green
  else a.blue ≤ b.blue

/-- The three numerals of a colour literal without blanks and capitals. -/
def numerals? (s : Text) : Option (Text × Text × Text) := do
  let s ← Text.after? "rgb(".toList s
  let (red, s) ← Numeral.leadingDigits? s
  let s ← Text.after? [':'] s
  let (green, s) ← Numeral.leadingDigits? s
  let s ← Text.after? [':'] s
  let (blue, s) ← Numeral.leadingDigits? s
  if s = [')'] then some (red, green, blue) else none

/-- Reads a colour literal; blanks and the case of letters do not matter. -/
def parse (text : Text) : Except ColorFault Color :=
  match numerals? (Text.lowercased (Text.squeezed text)) with
  | none => .error (.malformed text)
  | some (red, green, blue) =>
    match (do
        let red ← Numeral.natural red
        let green ← Numeral.natural green
        let blue ← Numeral.natural blue
        return (red, green, blue)) with
    | .error e => .error (.longNumeral e)
    | .ok (red, green, blue) =>
      if red ≤ 255 ∧ green ≤ 255 ∧ blue ≤ 255 then .ok ⟨red, green, blue⟩
      else .error (.outOfRange text)

end Color

end Labyrinth
