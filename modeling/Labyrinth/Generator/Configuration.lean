import Labyrinth.Document.Statement
import Labyrinth.Generator
import Labyrinth.Maze.Rows
import Labyrinth.Text.Lines

/-!
# Mazes from settings

A block of settings can stand in for the size of a maze. The generator looks for
the first size setting in it, without compiling the block, makes a maze of that
size, and returns the block with the rows of the maze after it. What it needs from
the line is only that it holds two natural numbers.
-/

namespace Labyrinth

namespace Generator

inductive SizeFault where
  | malformed (line : Nat) (text : Text)
  | longNumeral (e : Numeral.TooLong)
  | missing
  deriving DecidableEq, Repr

def SizeFault.message : SizeFault → String
  | malformed line text =>
    s!"Invalid size setting on line {line}: '{text.shown}'\n"
      ++ "  Expected format: [size:height,width]"
  | longNumeral e => e.message
  | missing => "Configuration has no [size:height,width] setting"

/-- The value of a size setting, if a line is one. -/
def sizeValue? (line : Text) : Option Text :=
  (Text.after? "[size:".toList (normalized line)).bind (Text.before? ']')

/-- Height and width in the value of a size setting on the given line. -/
def readSizeValue (number : Nat) (line value : Text) : Except SizeFault (Nat × Nat) :=
  match Text.fields ',' value with
  | [height, width] =>
    if Numeral.isDigits height && Numeral.isDigits width then
      (do return (← Numeral.natural height, ← Numeral.natural width) :
        Except Numeral.TooLong (Nat × Nat)).mapError .longNumeral
    else .error (.malformed number (Text.trimmed line))
  | _ => .error (.malformed number (Text.trimmed line))

def findSize : List (Text × Nat) → Except SizeFault (Nat × Nat)
  | [] => .error .missing
  | (line, number) :: rest =>
    match sizeValue? line with
    | some value => readSizeValue number line value
    | none => findSize rest

def readSize (settings : Text) : Except SizeFault (Nat × Nat) :=
  findSize ((Text.lines settings).zipIdx 1)

/-- What came of an attempt to extend a block of settings by a maze. -/
inductive DescriptionResult where
  | made (text : Text)
  | tooSmall
  | badSize (e : SizeFault)
  | dry (range : Nat)
  deriving DecidableEq, Repr

/-- A block of settings with a maze of the size it asks for. -/
def describe {σ : Type} [Source σ] (settings : Text) (source : σ) : DescriptionResult :=
  match readSize settings with
  | .error e => .badSize e
  | .ok (height, width) =>
    match (generate width height source).maze with
    | .error range => .dry range
    | .ok none => .tooSmall
    | .ok (some m) => .made (m.compose settings)

end Generator

end Labyrinth
