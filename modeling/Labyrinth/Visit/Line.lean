import Labyrinth.Table
import Labyrinth.Visit.Shape

/-!
# Lines along a trajectory

A visited line passes through consecutive neighbouring cells. `shapes` assigns
each cell the piece of the line inside it and refuses a trajectory that is too
short, that jumps, or that steps straight back, naming the first fault in reading
order. `shapeAt` asks for the piece at one place only; it finds that place and its
neighbours by index, negative ones counting from the end, and so also answers for
places that the line as a whole never asks about.
-/

namespace Labyrinth

inductive LineFault where
  | tooShort
  | notAdjacent (target origin : Coordinate)
  | reversal (incoming outgoing : Move)
  | misplaced (e : Misplaced)
  deriving DecidableEq, Repr

def LineFault.message : LineFault → String
  | tooShort => "A visited path needs at least two cells"
  | notAdjacent target origin => s!"{target} is not adjacent to {origin}"
  | reversal incoming outgoing =>
    s!"Visited path reverses direction: {incoming.name} followed by {outgoing.name}"
  | misplaced e => e.message

namespace Line

/-- The direction in which `target` is seen from its neighbour `origin`. -/
def direction (origin target : Coordinate) : Except LineFault Move :=
  match origin.direction? target with
  | some m => .ok m
  | none => .error (.notAdjacent target origin)

def bend (incoming outgoing : Move) : Except LineFault Shape :=
  match Shape.bend? incoming outgoing with
  | some s => .ok s
  | none => .error (.reversal incoming outgoing)

def endShape (last neighbour : Coordinate) : Except LineFault Shape :=
  (direction last neighbour).map Shape.halfLine

def innerShape (previous current next : Coordinate) : Except LineFault Shape := do
  let incoming ← direction previous current
  let outgoing ← direction current next
  bend incoming outgoing

/-- The shapes from the cell after `previous` on. -/
def shapesAfter (previous : Coordinate) : List Coordinate → Except LineFault (List Shape)
  | [] => .ok []
  | [last] => (endShape last previous).map fun s => [s]
  | current :: next :: rest => do
    let s ← innerShape previous current next
    let more ← shapesAfter current (next :: rest)
    return s :: more

/-- The shapes along a trajectory, one a cell. -/
def shapes : List Coordinate → Except LineFault (List Shape)
  | [] => .ok []
  | [_] => .error .tooShort
  | first :: second :: rest => do
    let s ← endShape first second
    let more ← shapesAfter first (second :: rest)
    return s :: more

/-- The point of a trajectory that an index names. -/
def pointAt (trajectory : List Coordinate) (index : Int) : Except LineFault Coordinate :=
  match (position? trajectory.length index).bind fun i => trajectory[i]? with
  | some c => .ok c
  | none => .error (.misplaced (.ofIndex index .unreadable))

/-- The shape at one place of a trajectory. Only the indices 0 and `length - 1` count as its
ends. -/
def shapeAt (trajectory : List Coordinate) (index : Int) : Except LineFault Shape :=
  if trajectory.length < 2 then .error .tooShort
  else do
    let current ← pointAt trajectory index
    if index = 0 then endShape current (← pointAt trajectory 1)
    else if index = trajectory.length - 1 then
      endShape current (← pointAt trajectory (trajectory.length - 2))
    else do
      let previous ← pointAt trajectory (index - 1)
      let incoming ← direction previous current
      let next ← pointAt trajectory (index + 1)
      let outgoing ← direction current next
      bend incoming outgoing

end Line

end Labyrinth
