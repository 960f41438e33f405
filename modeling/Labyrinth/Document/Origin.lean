import Labyrinth.Document.Fault

/-!
# Origins of paths

The body of a path begins with the place where it starts: a marker, a coordinate,
or another path after some of its moves. The rest of the body is its move clause.
What is read here is what the text says; where that place is depends on the draft.
-/

namespace Labyrinth

inductive Origin where
  | marker (m : Marker)
  | point (c : Coordinate)
  /-- Where another path is after some of its moves. -/
  | along (id offset : Nat)
  deriving DecidableEq, Repr

namespace Origin

def readPoint (body : Text) : Except Reason (Origin × Text) :=
  match Coordinate.leadingNumerals? body with
  | none => .error (.malformedOrigin body "c(row,col)")
  | some ((row, col), clause) =>
    match Coordinate.ofNumerals row col with
    | .error e => .error (.longNumeral e)
    | .ok c => .ok (.point c, clause)

def readReference (body : Text) : Except Reason (Origin × Text) :=
  match (do
      let s ← Text.after? "p(".toList body
      let (id, s) ← Numeral.leadingDigits? s
      let s ← Text.after? [','] s
      let (offset, s) ← Numeral.leadingDigits? s
      let clause ← Text.after? [')'] s
      return ((id, offset), clause)) with
  | none => .error (.malformedOrigin body "p(path,offset)")
  | some ((id, offset), clause) =>
    match (do return (← Numeral.natural id, ← Numeral.natural offset)) with
    | .error e => .error (.longNumeral e)
    | .ok (id, offset) => .ok (.along id offset, clause)

/-- Splits the body of the path `id` into its origin and its move clause. -/
def read (id : Nat) (body : Text) : Except Reason (Origin × Text) :=
  match body with
  | 'e' :: clause => .ok (.marker .entrance, clause)
  | 'x' :: clause => .ok (.marker .exit, clause)
  | 'c' :: '(' :: _ => readPoint body
  | 'p' :: '(' :: _ => readReference body
  | _ => .error (.unknownOrigin id body)

end Origin

end Labyrinth
