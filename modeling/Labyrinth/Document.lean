import Labyrinth.Document.Action
import Labyrinth.Text.Lines

/-!
# Documents

A document is compiled line by line. The first line names the version of the
language, and every later one that is not blank holds a statement, which acts on
the draft. When all lines have been carried out, the markers are checked, because
only now the size is final, and the cells of entrance and exit are opened. The
first fault ends the compilation and is reported with its line; the draft stays as
it was at that moment.

A document without a size describes no grid. It may still hold settings, and then
there is nothing to check at the end.
-/

namespace Labyrinth

namespace Document

def checkHeader (line : Text) : Except Reason Unit :=
  match (Text.after? "[version:".toList (normalized line)).bind (Text.before? ']') with
  | none => .error .missingVersion
  | some found => if found = languageVersion then .ok () else .error (.versionMismatch found)

def carryOut (d : Draft) (entry : Text × Nat) : Attempt Draft Stop :=
  let line := normalized entry.1
  if line.isEmpty then .done d
  else (d.execute entry.2 line).mapFault fun e => ⟨entry.2, e⟩

/-- The lines after the first, with their numbers. -/
def numbered (rest : List Text) : List (Text × Nat) :=
  rest.zipIdx 2

/-- Checks that a marker is unset or inside the grid. -/
def checkMarker (d : Draft) (m : Marker) : Attempt Draft Stop :=
  match d.description.marker m with
  | none => .done d
  | some c =>
    if d.grid.contains c then .done d
    else .failed d
      ⟨d.markerLines.get m, .reason (.markerOutside m c d.grid.height d.grid.width)⟩

def openMarker (d : Draft) (m : Marker) : Attempt Draft Stop :=
  match d.description.marker m with
  | none => .done d
  | some c =>
    (d.writing fun description => Draft.writeCell .path description c).mapFault
      fun e => ⟨d.markerLines.get m, e⟩

/-- What is left to do after the last line. -/
def finish (d : Draft) : Attempt Draft Stop :=
  if d.grid.height = 0 then .done d
  else
    (Attempt.each checkMarker d Marker.all).andThen fun d =>
      Attempt.each openMarker d [.entrance, .exit]

def compileLines : List Text → Attempt Draft Stop
  | [] => .failed {} ⟨1, .reason .missingVersion⟩
  | header :: rest =>
    match checkHeader header with
    | .error r => .failed {} ⟨1, .reason r⟩
    | .ok () => (Attempt.each carryOut {} (numbered rest)).andThen finish

def compile (text : Text) : Attempt Draft Stop :=
  compileLines (Text.lines text)

end Document

end Labyrinth
