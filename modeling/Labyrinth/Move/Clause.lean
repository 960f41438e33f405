import Labyrinth.Move
import Labyrinth.Numeral
import Labyrinth.Text.Blank
import Labyrinth.Word

/-!
# Move clauses

A walk is written as a clause: codes, each with a repeat count in parentheses or
without one, and a semicolon at the end. Blanks and the case of letters do not
matter. `expand` yields the moves one by one, and the limit it can be given bounds
a single count *before* that count is written out, so an absurd count costs
nothing.

What is said about a token depends on the character after its code, and the
semicolon serves there as the character after the last code. That is why the body
is read without it.
-/

namespace Labyrinth

inductive ClauseFault where
  | unterminated (clause : Text)
  | unknownCode (code : Char) (position : Nat) (clause : Text)
  | unclosedCount (code : Char) (clause : Text)
  | invalidCount (count : Text) (code : Char) (clause : Text)
  | countOverLimit (count : Text) (code : Char) (limit : Int)
  | strayCharacter (character code : Char) (clause : Text)
  | longNumeral (e : Numeral.TooLong)
  /-- More copies of a move than a word can count. -/
  | tooManyCopies
  deriving DecidableEq, Repr

def ClauseFault.message : ClauseFault → String
  | unterminated clause => s!"Move clause must end with ';': '{clause.shown}'"
  | unknownCode code position clause =>
    s!"Invalid move code '{code}' at position {position} in '{clause.shown}'\n"
      ++ "  Valid codes: l, u, r, d (optionally followed by a count, e.g. 'l(3)')"
  | unclosedCount code clause => s!"Unclosed repeat count after '{code}' in '{clause.shown}'"
  | invalidCount count code clause =>
    s!"Invalid repeat count '{count.shown}' after '{code}' in '{clause.shown}'\n"
      ++ "  Counts must be positive integers"
  | countOverLimit count code limit =>
    s!"Repeat count {count.shown} after '{code}' exceeds the limit of {limit}"
  | strayCharacter character code clause =>
    s!"Unexpected '{character}' after move code '{code}' in '{clause.shown}'"
  | longNumeral e => e.message
  | tooManyCopies => Word.refusal

namespace Move.Clause

/-- The value of a repeat count: positive, and at most `limit` where one is given. -/
def readCount (clause : Text) (limit : Option Int) (code : Char) (count : Text) :
    Except ClauseFault Nat :=
  if Numeral.isDigits count then
    match Numeral.natural count with
    | .error e => .error (.longNumeral e)
    | .ok 0 => .error (.invalidCount count code clause)
    | .ok n =>
      match limit with
      | some bound => if bound < n then .error (.countOverLimit count code bound) else copies n
      | none => copies n
  else .error (.invalidCount count code clause)
where
  copies (n : Nat) : Except ClauseFault Nat :=
    if Word.holds n then .ok n else .error .tooManyCopies

/-- Expands the body of a clause from `position` on. -/
def expandFrom (clause : Text) (limit : Option Int) (position : Nat) :
    Text → Except ClauseFault (List Move)
  | [] => .ok []
  | code :: rest =>
    match Move.ofCode? code with
    | none => .error (.unknownCode code position clause)
    | some m =>
      match rest with
      | '(' :: inner =>
        match _h : Text.cut? ')' inner with
        | none => .error (.unclosedCount code clause)
        | some (count, later) => do
          let n ← readCount clause limit code count
          let moves ← expandFrom clause limit (position + count.length + 3) later
          return List.replicate n m ++ moves
      | [] => .ok [m]
      | next :: later =>
        if next = ';' ∨ (Move.ofCode? next).isSome then do
          let moves ← expandFrom clause limit (position + 1) (next :: later)
          return m :: moves
        else .error (.strayCharacter next code clause)
termination_by body => body.length
decreasing_by
  · have := congrArg List.length (Text.eq_append_of_cut? _h)
    simp only [List.length_append, List.length_cons] at this ⊢
    omega
  · simp

/-- The moves that a clause stands for, each count at most `limit` where one is given. -/
def expand (clause : Text) (limit : Option Int) : Except ClauseFault (List Move) :=
  match Text.before? ';' (Text.lowercased (Text.squeezed clause)) with
  | none => .error (.unterminated clause)
  | some body => expandFrom clause limit 0 body

end Move.Clause

end Labyrinth
