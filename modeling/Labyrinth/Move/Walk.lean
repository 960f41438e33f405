import Labyrinth.Move.Clause

/-!
# Walks that never step straight back

A walk is kept as the text of its codes. It is sound when no move is followed at
once by its opposite. Only the moves that have a successor are looked up, so a
text of one character is sound whatever the character is; `parse` never meets
that case, because what it checks has been spelled from moves.
-/

namespace Labyrinth

inductive WalkFault where
  | clause (e : ClauseFault)
  | unknownMove (e : UnknownName)
  | reversal (position : Nat) (first second : Char) (moves : Text)
  deriving DecidableEq, Repr

def WalkFault.message : WalkFault → String
  | clause e => e.message
  | unknownMove e => e.message
  | reversal position first second moves =>
    s!"Move string reverses direction at position {position}: '{first}{second}' "
      ++ s!"in '{moves.shown}'"

namespace Move.Walk

/-- Looks for the first reversal in what stands at `position` of `moves`. -/
def checkFrom (moves : Text) (position : Nat) : Text → Except WalkFault Unit
  | first :: second :: rest =>
    match Move.oppositeCode [first] with
    | .error e => .error (.unknownMove e)
    | .ok back =>
      if [back] = Text.lowercased [second] then .error (.reversal position first second moves)
      else checkFrom moves (position + 1) (second :: rest)
  | _ => .ok ()

/-- Accepts a text in which no move is followed by its opposite. -/
def check (moves : Text) : Except WalkFault Unit :=
  checkFrom moves 0 moves

def parse (clause : Text) (limit : Option Int) : Except WalkFault Text :=
  match Clause.expand clause limit with
  | .error e => .error (.clause e)
  | .ok expanded =>
    match check (Move.spell expanded) with
    | .error e => .error e
    | .ok () => .ok (Move.spell expanded)

end Move.Walk

end Labyrinth
