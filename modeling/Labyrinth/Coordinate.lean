import Labyrinth.Move
import Labyrinth.Numeral

/-!
# Coordinates

A coordinate is a row and a column, both unbounded integers: a walk may leave
every grid and come back. Walking a text of move codes yields the trajectory, the
start first and one point more for each move, or the refusal of the first
character that is no code. In the second case there is still a place where the
walk got to, and `destination` is that place in both.
-/

namespace Labyrinth

/-- A place, by its row from the top and its column from the left. -/
structure Coordinate where
  row : Int
  col : Int
  deriving DecidableEq, Repr

namespace Coordinate

def text (c : Coordinate) : Text :=
  "c(".toList ++ Numeral.ofInt c.row ++ [','] ++ Numeral.ofInt c.col ++ [')']

instance : ToString Coordinate where
  toString c := String.ofList c.text

/-- Reading order: by row, and within a row by column. -/
instance : LT Coordinate where
  lt a b := a.row < b.row ∨ a.row = b.row ∧ a.col < b.col

instance : LE Coordinate where
  le a b := a.row < b.row ∨ a.row = b.row ∧ a.col ≤ b.col

instance (a b : Coordinate) : Decidable (a < b) :=
  inferInstanceAs (Decidable (a.row < b.row ∨ a.row = b.row ∧ a.col < b.col))

instance (a b : Coordinate) : Decidable (a ≤ b) :=
  inferInstanceAs (Decidable (a.row < b.row ∨ a.row = b.row ∧ a.col ≤ b.col))

def step (c : Coordinate) (m : Move) : Coordinate :=
  ⟨c.row + m.delta.1, c.col + m.delta.2⟩

/-- One horizontal or vertical step apart. -/
def isAdjacent (a b : Coordinate) : Bool :=
  (a.row - b.row).natAbs + (a.col - b.col).natAbs == 1

/-- The direction in which `target` is a neighbour of `origin`, if it is one. -/
def direction? (origin target : Coordinate) : Option Move :=
  Move.all.find? fun m => origin.step m = target

/-- Where a walk ends: after its last code, or where a character that is no code stopped it. -/
def destination (c : Coordinate) : Text → Coordinate
  | [] => c
  | x :: moves =>
    match Move.ofCode? x with
    | none => c
    | some m => destination (c.step m) moves

/-- Every point of a walk, from the start on. -/
def trajectory (c : Coordinate) : Text → Except UnknownName (List Coordinate)
  | [] => .ok [c]
  | x :: moves =>
    match Move.ofText [x] with
    | .error e => .error e
    | .ok m =>
      match trajectory (c.step m) moves with
      | .error e => .error e
      | .ok points => .ok (c :: points)

/-- A walk over moves touches one point more than it has moves. -/
theorem length_of_trajectory {c : Coordinate} {moves : Text} {points : List Coordinate}
    (h : c.trajectory moves = .ok points) : points.length = moves.length + 1 := by
  induction moves generalizing c points with
  | nil => simp [← Except.ok.inj h]
  | cons x moves ih =>
      unfold trajectory at h
      split at h
      · simp at h
      · split at h
        · simp at h
        · next rest hrest =>
            rw [← Except.ok.inj h]
            simp [ih hrest]

theorem getLast?_of_trajectory {c : Coordinate} {moves : Text} {points : List Coordinate}
    (h : c.trajectory moves = .ok points) : points.getLast? = some (c.destination moves) := by
  induction moves generalizing c points with
  | nil => simp [← Except.ok.inj h, destination]
  | cons x moves ih =>
      unfold trajectory at h
      split at h
      · simp at h
      · next m hm =>
          split at h
          · simp at h
          · next rest hrest =>
              have hx : Move.ofCode? x = some m := by
                unfold Move.ofText at hm
                simp only at hm
                split at hm
                · next hx => rw [hx, Except.ok.inj hm]
                · simp at hm
              have hne : rest ≠ [] := by
                intro hnil
                have := length_of_trajectory hrest
                simp [hnil] at this
              rw [← Except.ok.inj h, List.getLast?_cons_of_ne_nil hne, ih hrest]
              simp [destination, hx]

theorem isAdjacent_step (c : Coordinate) (m : Move) : isAdjacent c (c.step m) = true := by
  have h : (c.row - (c.step m).row).natAbs + (c.col - (c.step m).col).natAbs = 1 := by
    cases m <;> simp only [step, Move.delta] <;> omega
  exact beq_iff_eq.2 h

theorem direction?_eq_some_iff {a b : Coordinate} {m : Move} :
    direction? a b = some m ↔ a.step m = b := by
  obtain ⟨r, c⟩ := a
  obtain ⟨s, d⟩ := b
  cases m <;>
    simp [direction?, Move.all, List.find?_cons, step, Move.delta] <;>
    grind

end Coordinate

end Labyrinth
