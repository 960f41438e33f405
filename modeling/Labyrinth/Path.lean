import Labyrinth.Coordinate

/-!
# Paths

A path is a walk with a number and a place where it starts. It is kept as it was
written, moves and all, because other statements refer to it by its number and a
count of its moves.
-/

namespace Labyrinth

structure Path where
  id : Int
  origin : Coordinate
  moves : Text
  deriving DecidableEq, Repr

namespace Path

/-- The first `count` moves; a negative `count` drops that many from the end instead. -/
def firstMoves (p : Path) (count : Int) : Text :=
  if 0 ≤ count then p.moves.take count.toNat
  else p.moves.take (p.moves.length - (-count).toNat)

def trajectory (p : Path) : Except UnknownName (List Coordinate) :=
  p.origin.trajectory p.moves

def trajectoryOf (p : Path) (count : Int) : Except UnknownName (List Coordinate) :=
  p.origin.trajectory (p.firstMoves count)

end Path

end Labyrinth
