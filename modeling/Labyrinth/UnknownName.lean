import Labyrinth.Text.Quoted

/-!
# Names that name nothing

Moves, cell kinds and line shapes are written by short names. Looking up a name
that none of them has is refused in the same words for all three.
-/

namespace Labyrinth

/-- The refusal of `name`, which is not one of the names of a `family` of values. -/
structure UnknownName where
  name : Text
  family : String
  deriving DecidableEq, Repr

def UnknownName.message (e : UnknownName) : String :=
  s!"{(Text.quoted e.name).shown} is not a valid {e.family}"

end Labyrinth
