import Labyrinth.Document.Setting

/-!
# Statements

A line holds one statement. Its first characters decide its form, and only then is
it read. Reading looks at nothing but the line. A path keeps its body unread,
because where a path starts and how far it may run depend on the document so far.
-/

namespace Labyrinth

inductive Form where
  | setting | row | path | range | chain
  deriving DecidableEq, Repr

inductive Statement where
  | setting (s : Setting)
  /-- The cells of a row, one character a cell. -/
  | row (index : Nat) (cells : Text)
  /-- A path; the body names its origin and its moves. -/
  | path (id : Nat) (body : Text)
  /-- The moves `first` to `last` of a path have been visited. -/
  | range (id first last : Int) (color : Color)
  /-- A walk over these points has been visited. -/
  | chain (color : Color) (points : List Coordinate)
  deriving DecidableEq, Repr

/-- A line as it is read: blanks dropped and letters small. -/
def normalized (line : Text) : Text :=
  Text.lowercased (Text.squeezed line)

namespace Form

/-- Whether a line is the letter `c` followed by a digit. -/
def isNumbered (c : Char) : Text → Bool
  | d :: e :: _ => d == c && Numeral.isDigit e
  | _ => false

/-- The form of a line, by how it begins. -/
def of? (line : Text) : Option Form :=
  if (Text.after? ['['] line).isSome then some .setting
  else if isNumbered 'r' line then some .row
  else if isNumbered 'p' line then some .path
  else if (Text.after? "vc:".toList line).isSome then some .chain
  else if (Text.after? "v:".toList line).isSome then some .range
  else none

/-- What a form describes, if it describes something on the grid. Such statements need a
size first. -/
def subject? : Form → Option String
  | setting => none
  | row => some "rows"
  | path => some "paths"
  | range | chain => some "visited paths"

end Form

namespace Statement

/-- `rN:cells;` -/
def readRow (line : Text) : Except Reason Statement :=
  match (do
      let s ← Text.after? ['r'] line
      let (index, s) ← Numeral.leadingDigits? s
      let s ← Text.after? [':'] s
      let cells ← Text.before? ';' s
      return (index, cells)) with
  | none => .error (.malformedRow line)
  | some (index, cells) => ((Numeral.natural index).mapError .longNumeral).map (.row · cells)

/-- `pN:body` -/
def readPath (line : Text) : Except Reason Statement :=
  match (do
      let s ← Text.after? ['p'] line
      let (id, s) ← Numeral.leadingDigits? s
      let body ← Text.after? [':'] s
      return (id, body)) with
  | none => .error (.malformedPath line)
  | some (id, body) => ((Numeral.natural id).mapError .longNumeral).map (.path · body)

/-- The three numbers of a range, once its fields are told apart from its colour. -/
def readRangeFields (numbers : List Text) (color : Except Reason Color) :
    Except Reason Statement :=
  let text := Text.joined [','] numbers
  match integers [3] text with
  | .error r => .error r
  | .ok [id, first, last] => do
    let color ← color
    if first < 0 ∨ last < first then .error (.invalidRange first last)
    else .ok (.range id first last color)
  | .ok _ => .error (.integerCount [3] text)

/-- `v:p(id,first,last);` or `v:p(id,first,last,colour);` -/
def readRange (line : Text) : Except Reason Statement :=
  match (do
      let s ← Text.after? "v:p(".toList line
      let s ← Text.before? ';' s
      Text.before? ')' s) with
  | none => .error (.malformedRange line)
  | some inner =>
    match Text.fields ',' inner with
    | [id, first, last] => readRangeFields [id, first, last] (.ok .lightGray)
    | [id, first, last, color] =>
      readRangeFields [id, first, last] ((Color.parse color).mapError .color)
    | fields => .error (.rangeFieldCount fields.length)

/-- `vc:rgb(r:g:b),c(row,col)>c(row,col)>...;` -/
def readChain (line : Text) : Except Reason Statement :=
  match (do
      let s ← Text.after? "vc:rgb(".toList line
      let (components, s) ← Text.cut? ')' s
      let s ← Text.after? [','] s
      let points ← Text.before? ';' s
      return (components, points)) with
  | none => .error (.malformedChain line)
  | some (components, points) => do
    let color ← (Color.parse ("rgb(".toList ++ components ++ [')'])).mapError .color
    let points ← ((Text.fields '>' points).mapM Coordinate.parse).mapError .coordinate
    if points.length < 2 then .error .shortChain
    else .ok (.chain color points)

def read (line : Text) : Form → Except Reason Statement
  | .setting => (Setting.read line).map .setting
  | .row => readRow line
  | .path => readPath line
  | .range => readRange line
  | .chain => readChain line

end Statement

end Labyrinth
