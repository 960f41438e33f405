import Labyrinth.Description
import Labyrinth.Path.Registry

/-!
# Drafts

A draft is what a document has described so far: the description, the registry of
its paths, and for each marker the line that last set it. The lines are kept
because a marker is judged only when the document has ended, and the report names
the line that put it where it is.
-/

namespace Labyrinth

/-- The line that last set each marker; 0 while it has not been set. -/
structure MarkerLines where
  entrance : Nat := 0
  exit : Nat := 0
  currentPosition : Nat := 0
  deriving DecidableEq, Repr

namespace MarkerLines

def get (l : MarkerLines) : Marker → Nat
  | .entrance => l.entrance
  | .exit => l.exit
  | .currentPosition => l.currentPosition

def put (l : MarkerLines) (m : Marker) (line : Nat) : MarkerLines :=
  match m with
  | .entrance => { l with entrance := line }
  | .exit => { l with exit := line }
  | .currentPosition => { l with currentPosition := line }

end MarkerLines

/-- What a document has described so far. -/
structure Draft where
  description : Description := {}
  paths : Registry := .empty
  markerLines : MarkerLines := {}
  deriving DecidableEq, Repr

namespace Draft

def grid (d : Draft) : Grid :=
  d.description.grid

/-- The limit on repeat counts in the move clauses of paths: no straight run inside the grid is
longer than its longer side. -/
def repeatLimit (d : Draft) : Int :=
  max d.grid.height d.grid.width

def firstOutside? (d : Draft) (points : List Coordinate) : Option Coordinate :=
  points.find? fun c => !d.grid.contains c

theorem firstOutside?_eq_none_iff {d : Draft} {points : List Coordinate} :
    d.firstOutside? points = none ↔ ∀ c ∈ points, d.grid.contains c = true := by
  simp [firstOutside?]

end Draft

end Labyrinth
