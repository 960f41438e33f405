import Labyrinth.Document.Draft
import Labyrinth.Document.Origin
import Labyrinth.Document.Statement

/-!
# Actions

A statement acts on a draft in two steps. First it is *resolved*: everything that
can be checked is checked against the draft, which is only read, and what is left
is an action that names the exact cells. Then the action is *performed*. A row is
the one statement whose last check comes after its first write, since its cells
are taken one by one until one of them lies beyond the last column.
-/

namespace Labyrinth

/-- A statement whose references are resolved. -/
inductive Action where
  | setting (s : Setting)
  | row (index : Nat) (cells : Text)
  | path (p : Path) (points : List Coordinate)
  | visit (s : Segment)
  deriving DecidableEq, Repr

namespace Draft

/-! ## Resolving -/

def locate (d : Draft) (id : Nat) : Origin → Except Reason Coordinate
  | .marker m =>
    match d.description.marker m with
    | some c => .ok c
    | none => .error (.undefinedMarker id m)
  | .point c => .ok c
  | .along other offset => (d.paths.resolve other offset (some (id : Int))).mapError .registry

/-- Resolves a path, with a limit on its repeat counts or without one. -/
def resolvePath (d : Draft) (limit : Option Int) (id : Nat) (body : Text) :
    Except Fault Action := do
  if d.paths.contains id then
    throw (.reason (.registry (.alreadyDefined id)))
  let (origin, clause) ← (Origin.read id body).mapError .reason
  let start ← (d.locate id origin).mapError .reason
  let moves ← (Move.Walk.parse clause limit).mapError .ofWalk
  let points ← (start.trajectory moves).mapError fun e => .reason (.walk (.unknownMove e))
  match d.firstOutside? points with
  | some c => throw (.reason (.pathLeaves id d.grid.height d.grid.width c))
  | none => return .path ⟨id, start, moves⟩ points

/-- Resolves a range of visited moves. Move `k` leads from point `k - 1` of the trajectory to
point `k`, so the moves `first` to `last` take one point more. -/
def resolveRange (d : Draft) (id first last : Int) (color : Color) : Except Reason Action := do
  let p ← (d.paths.get id).mapError .registry
  if p.moves.length < last then
    throw (.rangeBeyondPath last id p.moves.length)
  let trajectory ← (d.paths.trajectory id).mapError .registry
  let points := (trajectory.take (last + 1).toNat).drop (first - 1).toNat
  if points.length < 2 then
    throw .emptyRange
  match d.firstOutside? points with
  | some c => throw (.pointOutside c d.grid.height d.grid.width)
  | none => return .visit ⟨color, points⟩

/-- Checks the points of a chain in order: each inside the grid and next to the one before. -/
def checkChain (d : Draft) (previous : Option Coordinate) : List Coordinate → Except Reason Unit
  | [] => .ok ()
  | c :: rest =>
    if !d.grid.contains c then .error (.pointOutside c d.grid.height d.grid.width)
    else
      match previous with
      | some p =>
        if c.isAdjacent p then d.checkChain (some c) rest else .error (.brokenChain c p)
      | none => d.checkChain (some c) rest

def resolve (d : Draft) : Statement → Except Fault Action
  | .setting s => .ok (.setting s)
  | .row index cells =>
    if index < d.grid.height then .ok (.row index cells)
    else .error (.reason (.rowOutside index (d.grid.height - 1)))
  | .path id body => d.resolvePath (some d.repeatLimit) id body
  | .range id first last color => (d.resolveRange id first last color).mapError .reason
  | .chain color points =>
    match d.checkChain none points with
    | .error r => .error (.reason r)
    | .ok () => .ok (.visit ⟨color, points⟩)

/-- Reads a line that is not blank and resolves it. -/
def understand (d : Draft) (line : Text) : Except Fault Action :=
  match Form.of? line with
  | none => .error (.reason (.unexpectedStatement line))
  | some form =>
    match form.subject? with
    | none => readAs form
    | some subject =>
      if d.grid.height = 0 then .error (.reason (.undefinedSize subject)) else readAs form
where
  readAs (form : Form) : Except Fault Action :=
    match Statement.read line form with
    | .error r => .error (.reason r)
    | .ok s => d.resolve s

/-! ## Performing -/

def mapSettings (d : Draft) (change : Settings → Settings) : Draft :=
  { d with description := { d.description with settings := change d.description.settings } }

def applySetting (d : Draft) (line : Nat) : Setting → Draft
  | .size height width => { d with description := d.description.resize height width }
  | .marker m point =>
    { d with
      description := d.description.setMarker m (some point)
      markerLines := d.markerLines.put m line }
  | .outputMode mode => d.mapSettings fun s => { s with outputMode := mode }
  | .unit side => d.mapSettings fun s => { s with unit := side }
  | .chars path wall none => d.mapSettings fun s => { s with pathChar := [path], wallChar := [wall] }
  | .chars path wall (some (visited, position)) =>
    d.mapSettings fun s =>
      { s with
        pathChar := [path], wallChar := [wall], visitedChar := [visited]
        positionChar := [position] }
  | .ints path wall none => d.mapSettings fun s => { s with pathInt := path, wallInt := wall }
  | .ints path wall (some (visited, position)) =>
    d.mapSettings fun s =>
      { s with pathInt := path, wallInt := wall, visitedInt := visited, positionInt := position }
  | .pathColor c => d.mapSettings fun s => { s with pathColor := c }
  | .wallColor c => d.mapSettings fun s => { s with wallColor := c }
  | .positionColor c => d.mapSettings fun s => { s with positionColor := c }
  | .gridColor c => d.mapSettings fun s => { s with gridColor := c }
  | .visitedSprite file => d.mapSettings fun s => { s with visitedSprite := some file }
  | .positionSprite file => d.mapSettings fun s => { s with positionSprite := some file }
  | .showGrid shown => d.mapSettings fun s => { s with showGrid := shown }
  | .showIndices shown => d.mapSettings fun s => { s with showIndices := shown }

/-- Writes one cell, whose coordinate the checks have found to be inside the grid. -/
def writeCell (kind : CellKind) (d : Description) (c : Coordinate) : Attempt Description Fault :=
  (d.setCell c kind).mapFault fun e => .breakdown (.misplaced e)

/-- Writes the cell that one character of a row stands for. Characters that stand for no kind
leave their cell as it is, beyond the last column too. -/
def writeRowCell (row : Nat) (d : Description) (entry : Char × Nat) :
    Attempt Description Fault :=
  match CellKind.ofCode? entry.1 with
  | none => .done d
  | some kind =>
    if entry.2 < d.grid.width then writeCell kind d ⟨row, entry.2⟩
    else .failed d (.reason (.rowTooLong row (d.grid.width - 1)))

def writing (write : Description → Attempt Description Fault) : Draft → Attempt Draft Fault
  | ⟨description, paths, markerLines⟩ =>
    (write description).embed fun description => ⟨description, paths, markerLines⟩

def register (p : Path) (d : Draft) : Attempt Draft Fault :=
  match d.paths.register p with
  | .error e => .failed d (.reason (.registry e))
  | .ok paths => .done { d with paths }

def perform (d : Draft) (line : Nat) : Action → Attempt Draft Fault
  | .setting s => .done (d.applySetting line s)
  | .row index cells => d.writing fun m => Attempt.each (writeRowCell index) m cells.zipIdx
  | .path p points =>
    (d.writing fun m => Attempt.each (writeCell .path) m points).andThen (register p)
  | .visit s => d.writing fun m => (m.annotate s).mapFault .ofLine

/-- Carries out a line that is not blank. -/
def execute (d : Draft) (number : Nat) (line : Text) : Attempt Draft Fault :=
  match d.understand line with
  | .error e => .failed d e
  | .ok action => d.perform number action

end Draft

end Labyrinth
