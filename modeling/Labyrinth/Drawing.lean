import Labyrinth.Description
import Labyrinth.Drawing.Glyph
import Labyrinth.Drawing.Style

/-!
# Drawings

A description is drawn as framed rows of text, every cell `cellWidth` characters
wide, with the numbers of rows and columns around the frame if the settings ask
for them. Of several things that could be shown in a cell the first of these wins:
the current position, a visited line, a wall, an open cell. The lines through a
cell are drawn as one glyph in the colour of the latest of them.

A cell may be given any width; from 0 down only the current position and visited
lines are still seen. A width that cannot be counted with is refused before a cell
is drawn: first where the column numbers are brought to it, then where the frame is
made as long as all cells of a row together. Behind these two checks `drawLines`
cannot fail.

Styles are left to a painter, and without colours it is not asked for any.
-/

namespace Labyrinth

structure DrawingOptions where
  /-- Characters per cell. -/
  cellWidth : Int := 3
  colorize : Bool := true
  deriving DecidableEq, Repr

inductive DrawingFault where
  /-- The width of a cell, to which a column number is brought, is no word. -/
  | cellWidth
  /-- The width of a row of cells is no word. -/
  | rowWidth
  deriving DecidableEq, Repr

def DrawingFault.message : DrawingFault → String
  | cellWidth => "Python int too large to convert to C ssize_t"
  | rowWidth => Word.refusal

namespace Description

/-- The colours of all visits, ascending and each once. -/
def visitColors (d : Description) : List Color :=
  Color.ascending ((d.visits.toLists.flatten.flatMap Array.toList).map Visit.color)

/-- The sides that the lines through a cell reach. -/
def visitArms (visits : Array Visit) : Sides :=
  visits.foldl (fun sides v => sides.union v.shape.arms) Sides.empty

/-- The width of the column of row numbers, with the blank that follows them. -/
def labelWidth (d : Description) : Nat :=
  if d.settings.showIndices then (Numeral.ofNat (d.height - 1)).length + 1 else 0

/-- A part of the drawing in its style, when it is coloured at all. -/
def styled (painter : Painter) (options : DrawingOptions) (style : Style) (s : Text) : Text :=
  if options.colorize then painter style s else s

@[simp] theorem styled_plain (painter : Painter) (w : Int) (style : Style) (s : Text) :
    styled painter ⟨w, false⟩ style s = s :=
  rfl

@[simp] theorem styled_colored (painter : Painter) (w : Int) (style : Style) (s : Text) :
    styled painter ⟨w, true⟩ style s = painter style s :=
  rfl

def visitStyle (colors : List Color) (c : Color) : Style :=
  Style.ofRank (colors.idxOf c)

def visitsIn (d : Description) (row col : Nat) : Array Visit :=
  (d.visits.cell? row col).getD #[]

/-- The drawing of the cell in a row and column, where `colors` are all visited ones. -/
def drawCell (d : Description) (painter : Painter) (options : DrawingOptions)
    (colors : List Color) (row col : Nat) (kind : CellKind) : Text :=
  let visits := d.visitsIn row col
  if d.currentPosition = some ⟨row, col⟩ then
    styled painter options .blackOnWhite (Text.centred options.cellWidth d.settings.positionChar)
  else
    match visits.back?, (visitArms visits).draw? options.cellWidth with
    | some latest, some line => styled painter options (visitStyle colors latest.color) line
    | _, _ =>
      match kind with
      | .wall => styled painter options .white (Text.times options.cellWidth d.settings.wallChar)
      | .path => Text.times options.cellWidth d.settings.pathChar

/-- The line of column numbers. A number too wide for its column shows its last digits. -/
def drawHeader (d : Description) (options : DrawingOptions) : Text :=
  Text.spaces (d.labelWidth + 1) ++
    (List.range d.width).flatMap fun col =>
      Text.centred options.cellWidth (Text.ending options.cellWidth (Numeral.ofNat col))

def drawFrame (d : Description) (painter : Painter) (options : DrawingOptions)
    (left right : Char) : Text :=
  Text.spaces d.labelWidth ++
    styled painter options .white
      (left :: Text.times (d.width * options.cellWidth) ['─'] ++ [right])

def drawRow (d : Description) (painter : Painter) (options : DrawingOptions)
    (colors : List Color) (row : Nat) (cells : List CellKind) : Text :=
  (if d.settings.showIndices then
      Text.alignedRight (d.labelWidth - 1) (Numeral.ofNat row) ++ [' ']
    else [])
    ++ styled painter options .white ['│']
    ++ cells.zipIdx.flatMap (fun (kind, col) => d.drawCell painter options colors row col kind)
    ++ styled painter options .white ['│']

def drawLines (d : Description) (painter : Painter) (options : DrawingOptions) : List Text :=
  let colors := d.visitColors
  (if d.settings.showIndices then [d.drawHeader options] else [])
    ++ [d.drawFrame painter options '┌' '┐']
    ++ d.grid.toLists.zipIdx.map (fun (cells, row) => d.drawRow painter options colors row cells)
    ++ [d.drawFrame painter options '└' '┘']

/-- Why a description cannot be drawn, if it cannot. There is a column number to bring to the
width of a cell only where there are columns. -/
def drawingFault? (d : Description) (options : DrawingOptions) : Option DrawingFault :=
  if d.settings.showIndices && 0 < d.width && !Word.holds options.cellWidth then
    some .cellWidth
  else if !Word.holds (d.width * options.cellWidth) then some .rowWidth
  else none

def draw (d : Description) (painter : Painter) (options : DrawingOptions) :
    Except DrawingFault Text :=
  match d.drawingFault? options with
  | some e => .error e
  | none => .ok (Text.joined ['\n'] (d.drawLines painter options))

end Description

end Labyrinth
