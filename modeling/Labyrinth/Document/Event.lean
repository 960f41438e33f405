import Labyrinth.Document
import Labyrinth.Event

/-!
# What a compilation tells

Every line that is not blank is told before it is carried out, so the last line of
an unfinished log is the one that failed. A path is told again once it has been
registered, and a compilation that runs to its end says what came of it.
-/

namespace Labyrinth.Document

/-- Something that happens while a document is compiled. -/
inductive Event where
  | line (number : Nat) (text : Text)
  | path (id : Int) (moves : Nat) (origin : Coordinate)
  | compiled (height width paths visitedCells : Nat)
  deriving DecidableEq, Repr

namespace Event

def level : Event → Level
  | line .. | path .. => .debug
  | compiled .. => .info

def message : Event → String
  | line number text => s!"line {number}: {text.shown}"
  | path id moves origin => s!"path {id}: {moves} moves from {origin}"
  | compiled height width paths visitedCells =>
    s!"compiled maze: {height}x{width}, {paths} paths, {visitedCells} visited cells"

end Event

/-- What an action tells when it has been performed. -/
def actionEvents : Action → List Event
  | .path p _ => [.path p.id p.moves.length p.origin]
  | .setting _ | .row .. | .visit _ => []

/-- What one line tells. `isDone` says whether it could be carried out. -/
def lineEvents (d : Draft) (entry : Text × Nat) (isDone : Bool) : List Event :=
  let line := normalized entry.1
  if line.isEmpty then []
  else
    .line entry.2 line ::
      match d.understand line with
      | .error _ => []
      | .ok action => if isDone then actionEvents action else []

/-- What the end of a document tells. -/
def finalEvents (d : Draft) : List Event :=
  let finished := finish d
  match finished.fault with
  | some _ => []
  | none =>
    let d := finished.state
    [.compiled d.grid.height d.grid.width d.paths.size d.description.visitedCells]

/-- What the lines after the first tell, as far as they are carried out. -/
def eventsFrom (d : Draft) : List (Text × Nat) → List Event
  | [] => finalEvents d
  | entry :: rest =>
    let after := carryOut d entry
    match after.fault with
    | none => lineEvents d entry true ++ eventsFrom after.state rest
    | some _ => lineEvents d entry false

/-- What the compilation of a document tells. -/
def events (text : Text) : List Event :=
  match Text.lines text with
  | [] => []
  | header :: rest =>
    match checkHeader header with
    | .error _ => []
    | .ok () => eventsFrom {} (numbered rest)

end Labyrinth.Document
