import Labyrinth.Attempt
import Labyrinth.Grid
import Labyrinth.Settings
import Labyrinth.Visit.Line

/-!
# Descriptions

A description is a compiled maze: the grid, three optional markers, the settings,
and for each cell the visits it has received, oldest first. Annotating a segment
first finds the shapes of the whole line and only then adds them cell by cell. So
a segment without a line changes nothing, while a segment that runs off the table
keeps the visits of the cells before that.
-/

namespace Labyrinth

/-- One passage of a line through a cell. -/
structure Visit where
  shape : Shape
  color : Color
  deriving DecidableEq, Repr

structure Segment where
  color : Color
  points : List Coordinate
  deriving DecidableEq, Repr

/-- The places of a description that have a name. -/
inductive Marker where
  | entrance | exit | currentPosition
  deriving DecidableEq, Repr

namespace Marker

/-- The markers in the order in which they are checked. -/
def all : List Marker := [.entrance, .exit, .currentPosition]

def name : Marker → String
  | entrance => "entrance"
  | exit => "exit"
  | currentPosition => "current-position"

end Marker

structure Description where
  grid : Grid := ⟨#[]⟩
  settings : Settings := {}
  entrance : Option Coordinate := none
  exit : Option Coordinate := none
  currentPosition : Option Coordinate := none
  /-- The visits of each cell, oldest first. -/
  visits : Table (Array Visit) := ⟨#[]⟩
  deriving DecidableEq, Repr

namespace Description

def height (d : Description) : Nat :=
  d.grid.height

def width (d : Description) : Nat :=
  d.grid.width

def marker (d : Description) : Marker → Option Coordinate
  | .entrance => d.entrance
  | .exit => d.exit
  | .currentPosition => d.currentPosition

def setMarker (d : Description) (m : Marker) (c : Option Coordinate) : Description :=
  match m with
  | .entrance => { d with entrance := c }
  | .exit => { d with exit := c }
  | .currentPosition => { d with currentPosition := c }

/-- A fresh grid, all walls, and no visits. -/
def resize (d : Description) (height width : Int) : Description :=
  { d with grid := .filled height width .wall, visits := .filled height width #[] }

def setCell (d : Description) (c : Coordinate) (kind : CellKind) :
    Attempt Description Misplaced :=
  match d.grid.locate c .unwritable with
  | .error e => .failed d e
  | .ok (row, col) => .done { d with grid := d.grid.modifyCell row col fun _ => kind }

def visitsAt (d : Description) (c : Coordinate) : Except Misplaced (Array Visit) :=
  d.visits.get c

def addVisit (d : Description) (c : Coordinate) (v : Visit) : Attempt Description Misplaced :=
  match d.visits.locate c .unreadable with
  | .error e => .failed d e
  | .ok (row, col) =>
    .done { d with visits := d.visits.modifyCell row col fun visits => visits.push v }

/-- Adds a visit for each point of a segment whose line is known. -/
def addLine (d : Description) (color : Color) (line : List (Coordinate × Shape)) :
    Attempt Description Misplaced :=
  Attempt.each (fun d (c, shape) => d.addVisit c ⟨shape, color⟩) d line

/-- Adds the line of a segment to the cells it passes. -/
def annotate (d : Description) (s : Segment) : Attempt Description LineFault :=
  match Line.shapes s.points with
  | .error e => .failed d e
  | .ok shapes => (d.addLine s.color (s.points.zip shapes)).mapFault .misplaced

def visitedCells (d : Description) : Nat :=
  d.visits.toLists.flatten.countP fun visits => !visits.isEmpty

end Description

end Labyrinth
