import Labyrinth.Text.Lowercase
import Labyrinth.UnknownName

/-!
# Moves

A move is one step to a neighbouring cell. Its code is a single small letter, and
a walk is spelled as a text of such codes. Every move has an opposite, which
undoes it; that the opposite of the opposite is the move itself is why "steps
straight back" is a symmetric relation.
-/

namespace Labyrinth

inductive Move where
  | left | up | right | down
  deriving DecidableEq, Repr

namespace Move

def all : List Move := [.left, .up, .right, .down]

def code : Move → Char
  | left => 'l'
  | up => 'u'
  | right => 'r'
  | down => 'd'

def name : Move → String
  | left => "LEFT"
  | up => "UP"
  | right => "RIGHT"
  | down => "DOWN"

/-- The change of row and column. -/
def delta : Move → Int × Int
  | left => (0, -1)
  | up => (-1, 0)
  | right => (0, 1)
  | down => (1, 0)

def opposite : Move → Move
  | left => right
  | up => down
  | right => left
  | down => up

/-- The move with a given letter. Only the small letters are codes. -/
def ofCode? : Char → Option Move
  | 'l' => some left
  | 'u' => some up
  | 'r' => some right
  | 'd' => some down
  | _ => none

/-- The move with a given code, which may be any text. -/
def ofText (code : Text) : Except UnknownName Move :=
  match code with
  | [c] =>
    match ofCode? c with
    | some m => .ok m
    | none => .error ⟨code, "Move"⟩
  | _ => .error ⟨code, "Move"⟩

/-- The code of the move that undoes the one written `code`, in either case of letters. -/
def oppositeCode (code : Text) : Except UnknownName Char :=
  (ofText (Text.lowercased code)).map fun m => m.opposite.code

def spell (moves : List Move) : Text :=
  moves.map code

@[simp] theorem opposite_opposite (m : Move) : m.opposite.opposite = m := by
  cases m <;> rfl

@[simp] theorem ofCode?_code (m : Move) : ofCode? m.code = some m := by
  cases m <;> rfl

theorem ofCode?_eq_some_iff {c : Char} {m : Move} : ofCode? c = some m ↔ c = m.code := by
  constructor
  · intro h
    unfold ofCode? at h
    split at h <;> simp at h <;> subst h <;> rfl
  · rintro rfl
    exact ofCode?_code m

theorem code_injective {m n : Move} (h : m.code = n.code) : m = n := by
  have := ofCode?_code m
  rw [h, ofCode?_code] at this
  exact (Option.some.inj this).symm

end Move

end Labyrinth
