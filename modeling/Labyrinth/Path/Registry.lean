import Labyrinth.Diagnostic
import Labyrinth.Path

/-!
# The registry of paths

A document defines its paths one after the other, and a path may start where an
earlier one is after some of its moves. The registry holds the paths defined so
far, in that order. A number is given once: entries are never replaced, so what
a reference meant when it was resolved it means forever.
-/

namespace Labyrinth

inductive RegistryFault where
  | alreadyDefined (id : Int)
  | undefined (id : Int) (defined : List Int)
  | selfReference (id : Int)
  | offsetOutside (id offset : Int) (moves : Nat)
  /-- A path that was registered with a text that is no walk. -/
  | brokenWalk (e : UnknownName)
  deriving DecidableEq, Repr

namespace RegistryFault

def message : RegistryFault → String
  | alreadyDefined id => s!"path {id} is already defined"
  | undefined id [] => s!"path {id} is not defined"
  | undefined id (first :: rest) =>
    let ids := ", ".intercalate ((first :: rest).map toString)
    s!"path {id} is not defined (defined: {ids})"
  | selfReference id => s!"path {id} cannot start on itself"
  | offsetOutside id offset moves =>
    s!"offset {offset} is outside path {id} (valid offsets: 0..{moves})"
  | brokenWalk e => e.message

/-- The kind of diagnostic a refusal is; a broken walk is none in itself. -/
def kind? : RegistryFault → Option Kind
  | alreadyDefined _ => some .malformed
  | undefined .. | selfReference _ | offsetOutside .. => some .unresolvedReference
  | brokenWalk _ => none

end RegistryFault

/-- The paths defined so far, oldest first. -/
structure Registry where
  paths : List Path
  deriving DecidableEq, Repr

namespace Registry

def empty : Registry := ⟨[]⟩

def size (r : Registry) : Nat :=
  r.paths.length

def find? (r : Registry) (id : Int) : Option Path :=
  r.paths.find? fun p => p.id = id

def contains (r : Registry) (id : Int) : Bool :=
  (r.find? id).isSome

def ascending (r : Registry) : List Path :=
  r.paths.mergeSort fun a b => a.id ≤ b.id

/-- Adds a path under a number that is still free. -/
def register (r : Registry) (p : Path) : Except RegistryFault Registry :=
  if r.contains p.id then .error (.alreadyDefined p.id) else .ok ⟨r.paths ++ [p]⟩

def get (r : Registry) (id : Int) : Except RegistryFault Path :=
  match r.find? id with
  | some p => .ok p
  | none => .error (.undefined id (r.ascending.map Path.id))

def trajectory (r : Registry) (id : Int) : Except RegistryFault (List Coordinate) :=
  match r.get id with
  | .error e => .error e
  | .ok p => p.trajectory.mapError .brokenWalk

/-- Where a registered path is after `offset` of its moves. The path `current`, which is
being defined, may not refer to itself. -/
def resolve (r : Registry) (id offset : Int) (current : Option Int) :
    Except RegistryFault Coordinate :=
  if current = some id then .error (.selfReference id)
  else
    match r.get id with
    | .error e => .error e
    | .ok p =>
      if 0 ≤ offset ∧ offset ≤ p.moves.length then
        match p.trajectoryOf offset with
        | .error e => .error (.brokenWalk e)
        | .ok _ => .ok (p.origin.destination (p.firstMoves offset))
      else .error (.offsetOutside id offset p.moves.length)

end Registry

end Labyrinth
