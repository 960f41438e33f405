import Labyrinth.Coordinate.Literal
import Labyrinth.Description
import Labyrinth.Move.Walk
import Labyrinth.Path.Registry

/-!
# Faults of a document

Every way in which a document can fail to compile is one constructor of `Reason`,
with what the report has to quote. A reason has a kind; what some other part of
the library refused, such as a move clause, counts as a malformed statement
unless it has a kind of its own.

A `Breakdown` is different: a coordinate that names no cell, or a repeat count
beyond every limit, is no fault of the document's author, and the checks that
precede each write are there so that it does not occur.
-/

namespace Labyrinth

def languageVersion : Text := "1.0".toList

inductive Reason where
  | missingVersion
  | versionMismatch (version : Text)
  | unexpectedStatement (line : Text)
  | undefinedSize (subject : String)
  | unclosedSetting (line : Text)
  | settingWithoutValue (line : Text)
  | unknownSetting (key : Text)
  | integerCount (counts : List Nat) (text : Text)
  | notIntegers (text : Text)
  | longNumeral (e : Numeral.TooLong)
  | sizeNotPositive (height width : Int)
  | unitNotPositive (unit : Int)
  | placeholderCount (value : Text)
  | unquoted (value : Text)
  | outputMode (e : UnknownOutputMode)
  | coordinate (e : CoordinateFault)
  | color (e : ColorFault)
  | malformedRow (line : Text)
  | rowOutside (row : Nat) (last : Int)
  | rowTooLong (row : Nat) (last : Int)
  | malformedPath (line : Text)
  | unknownOrigin (id : Nat) (body : Text)
  | malformedOrigin (body : Text) (expected : String)
  | undefinedMarker (id : Nat) (marker : Marker)
  | registry (e : RegistryFault)
  | walk (e : WalkFault)
  | pathLeaves (id : Nat) (height width : Nat) (point : Coordinate)
  | malformedRange (line : Text)
  | rangeFieldCount (count : Nat)
  | invalidRange (first last : Int)
  | rangeBeyondPath (last id : Int) (moves : Nat)
  | emptyRange
  | malformedChain (line : Text)
  | shortChain
  | brokenChain (point previous : Coordinate)
  | pointOutside (point : Coordinate) (height width : Nat)
  | undrawable (e : LineFault)
  | markerOutside (marker : Marker) (point : Coordinate) (height width : Nat)
  deriving DecidableEq, Repr

namespace Reason

def message : Reason → String
  | missingVersion => "expected version information"
  | versionMismatch version =>
    s!"cannot read files of version '{version.shown}', expected: '{languageVersion.shown}'"
  | unexpectedStatement line => s!"unexpected statement '{line.shown}'"
  | undefinedSize subject => s!"maze size must be defined prior to defining {subject}"
  | unclosedSetting line => s!"setting must end with ']': '{line.shown}'"
  | settingWithoutValue line => s!"setting must have the form [key:value]: '{line.shown}'"
  | unknownSetting key => s!"unknown setting '{key.shown}'"
  | integerCount counts text =>
    let expected := " or ".intercalate (counts.map toString)
    s!"expected {expected} integers separated by ',', got '{text.shown}'"
  | notIntegers text => s!"expected integers separated by ',', got '{text.shown}'"
  | longNumeral e => e.message
  | sizeNotPositive height width => s!"maze size must be positive, got {height}x{width}"
  | unitNotPositive unit => s!"unit must be positive, got {unit}"
  | placeholderCount value =>
    "placeholder-char needs 2 or 4 characters (path, wall[, visited, position]), "
      ++ s!"got '{value.shown}'"
  | unquoted value => s!"expected a quoted path, got '{value.shown}'"
  | outputMode e => e.message
  | coordinate e => e.message
  | color e => e.message
  | malformedRow line => s!"row must have the form rN:cells; got '{line.shown}'"
  | rowOutside row last => s!"row {row} is outside the maze (rows 0..{last})"
  | rowTooLong row last => s!"row {row} has cells beyond column {last}"
  | malformedPath line => s!"path must have the form pN:<origin><moves>; got '{line.shown}'"
  | unknownOrigin id body =>
    s!"invalid origin for path {id}: '{body.shown}'\n"
      ++ "  Valid origins: e (entrance), x (exit), c(row,col), p(path,offset)"
  | malformedOrigin body expected => s!"invalid path origin in '{body.shown}', expected {expected}"
  | undefinedMarker id marker =>
    s!"path {id} starts at the {marker.name}, which is not defined"
  | registry e => e.message
  | walk e => e.message
  | pathLeaves id height width point =>
    s!"path {id} leaves the {height}x{width} maze at {point}"
  | malformedRange line =>
    s!"visited path must have the form v:p(path,start,end[,colour]); got '{line.shown}'"
  | rangeFieldCount count => s!"visited path needs 3 or 4 fields, got {count}"
  | invalidRange first last => s!"invalid visited range {first}..{last}"
  | rangeBeyondPath last id moves =>
    s!"visited range ends at move {last}, but path {id} has {moves} moves"
  | emptyRange => "visited range must cover at least one move"
  | malformedChain line =>
    "visited path must have the form vc:rgb(r:g:b),c(row,col)>c(row,col)...; "
      ++ s!"got '{line.shown}'"
  | shortChain => "visited path must have at least two coordinates"
  | brokenChain point previous => s!"{point} is not adjacent to {previous}"
  | pointOutside point height width => s!"{point} is outside the {height}x{width} maze"
  | undrawable e => e.message
  | markerOutside marker point height width =>
    s!"{marker.name} {point} is outside the {height}x{width} maze"

def kind : Reason → Kind
  | versionMismatch _ => .versionMismatch
  | undefinedSize _ => .undefinedSize
  | unexpectedStatement _ => .unexpectedStatement
  | undefinedMarker .. => .unresolvedReference
  | registry e => e.kind?.getD .malformed
  | rowOutside .. | rowTooLong .. | pathLeaves .. | pointOutside .. | markerOutside .. =>
    .outOfRange
  | missingVersion | unclosedSetting _ | settingWithoutValue _ | unknownSetting _
  | integerCount .. | notIntegers _ | longNumeral _ | sizeNotPositive .. | unitNotPositive _
  | placeholderCount _ | unquoted _ | outputMode _ | coordinate _ | color _ | malformedRow _
  | malformedPath _ | unknownOrigin .. | malformedOrigin .. | walk _ | malformedRange _
  | rangeFieldCount _ | invalidRange .. | rangeBeyondPath .. | emptyRange | malformedChain _
  | shortChain | brokenChain .. | undrawable _ => .malformed

end Reason

/-- What the checks of the compiler are meant to exclude. -/
inductive Breakdown where
  | misplaced (e : Misplaced)
  | tooManyCopies
  deriving DecidableEq, Repr

def Breakdown.message : Breakdown → String
  | misplaced e => e.message
  | tooManyCopies => ClauseFault.tooManyCopies.message

inductive Fault where
  | reason (r : Reason)
  | breakdown (b : Breakdown)
  deriving DecidableEq, Repr

namespace Fault

/-- A refused walk is a reason, except for the count that no word can hold. -/
def ofWalk : WalkFault → Fault
  | .clause .tooManyCopies => .breakdown .tooManyCopies
  | e => .reason (.walk e)

/-- A refused line is a reason, except for a point that names no cell. -/
def ofLine : LineFault → Fault
  | .misplaced e => .breakdown (.misplaced e)
  | e => .reason (.undrawable e)

end Fault

structure Stop where
  line : Nat
  fault : Fault
  deriving DecidableEq, Repr

def Stop.diagnostic? (s : Stop) : Option Diagnostic :=
  match s.fault with
  | .reason r => some ⟨r.kind, r.message, some s.line⟩
  | .breakdown _ => none

end Labyrinth
