import Labyrinth.Chance
import Labyrinth.Maze

/-!
# Cuts

A chamber is a rectangle of open cells. It is divided by a column and a row of
wall that cross inside it, which leaves four quarters and, around the crossing,
four sections of wall. All sections but one are pierced by a hole. The quarters
then form a chain, each joined to the next by a hole, so whoever stands in one of
them can reach the others.

What is drawn, a *cut*, is kept apart from what the cut does to the maze. The
position of a wall is drawn from the cells strictly inside the chamber, and a pair
of positions is drawn again while one of them is two cells in from the leading
edge. An end of a wall that meets an opening in the wall around the chamber is
left out, or it would close that opening.
-/

namespace Labyrinth

/-- A rectangle of cells, all four sides belonging to it. -/
structure Chamber where
  top : Nat
  left : Nat
  bottom : Nat
  right : Nat
  deriving DecidableEq, Repr

namespace Chamber

/-- A chamber that no wall fits into is left as it is. -/
def isDone (c : Chamber) : Bool :=
  c.right - c.left ≤ 1 || c.bottom - c.top ≤ 1

def contains (c : Chamber) (row col : Nat) : Bool :=
  c.top ≤ row && row ≤ c.bottom && c.left ≤ col && col ≤ c.right

def area (c : Chamber) : Nat :=
  (c.bottom + 1 - c.top) * (c.right + 1 - c.left)

def text (c : Chamber) : String :=
  s!"({c.top}, {c.left}, {c.bottom}, {c.right})"

end Chamber

/-- A straight run of cells in a wall, from its first cell on to the right or down. -/
structure Section where
  row : Nat
  col : Nat
  length : Nat
  isVertical : Bool
  deriving DecidableEq, Repr

/-- The cell at a place of a section, counted from 0. -/
def Section.cell (s : Section) (place : Nat) : Nat × Nat :=
  if s.isVertical then (s.row + place, s.col) else (s.row, s.col + place)

/-- The column and the row of wall that divide a chamber. -/
structure Split where
  chamber : Chamber
  column : Nat
  row : Nat
  deriving DecidableEq, Repr

namespace Split

/-- Whether neither wall is two cells in from the leading edge of the chamber. -/
def isAcceptable (s : Split) : Bool :=
  s.column - s.chamber.left != 2 && s.row - s.chamber.top != 2

/-- The four quarters of the chamber: top left, top right, bottom left, bottom right. -/
def quarters (s : Split) : List Chamber :=
  let c := s.chamber
  [⟨c.top, c.left, s.row - 1, s.column - 1⟩, ⟨c.top, s.column + 1, s.row - 1, c.right⟩,
    ⟨s.row + 1, c.left, c.bottom, s.column - 1⟩, ⟨s.row + 1, s.column + 1, c.bottom, c.right⟩]

theorem length_quarters (s : Split) : s.quarters.length = 4 :=
  rfl

/-- The four sections of wall around the crossing: above it, right, below, left. -/
def sections (s : Split) : List Section :=
  let c := s.chamber
  [⟨c.top, s.column, s.row - c.top, true⟩, ⟨s.row, s.column + 1, c.right - s.column, false⟩,
    ⟨s.row + 1, s.column, c.bottom - s.row, true⟩, ⟨s.row, c.left, s.column - c.left, false⟩]

/-! ## Walls -/

/-- The cells of the column of wall that stay out of it, because they face an opening above or
below the chamber. -/
def isColumnGap (s : Split) (m : Maze) (row : Nat) : Bool :=
  row == s.chamber.top && m.isOpen (row - 1) s.column
    || row == s.chamber.bottom && m.isOpen (row + 1) s.column

/-- The cells of the row of wall that stay out of it, because they face an opening left or
right of the chamber. -/
def isRowGap (s : Split) (m : Maze) (col : Nat) : Bool :=
  col == s.chamber.left && m.isOpen s.row (col - 1)
    || col == s.chamber.right && m.isOpen s.row (col + 1)

def buildColumn (s : Split) (m : Maze) : Maze :=
  (List.range' s.chamber.top (s.chamber.bottom + 1 - s.chamber.top)).foldl
    (fun m row => if s.isColumnGap m row then m else m.put row s.column false) m

def buildRow (s : Split) (m : Maze) : Maze :=
  (List.range' s.chamber.left (s.chamber.right + 1 - s.chamber.left)).foldl
    (fun m col => if s.isRowGap m col then m else m.put s.row col false) m

end Split

structure Cut where
  split : Split
  holes : List (Nat × Nat)
  deriving DecidableEq, Repr

/-- Builds the walls of a cut and pierces them. -/
def Cut.apply (cut : Cut) (m : Maze) : Maze :=
  cut.holes.foldl (fun m (row, col) => m.put row col true)
    (cut.split.buildRow (cut.split.buildColumn m))

/-! ## Drawing a cut -/

section Drawing

variable {σ : Type} [Source σ]

/-- Draws where the walls go, until the pair is acceptable. -/
def drawSplit (c : Chamber) (s : σ) : Drawn σ Split :=
  match _hcol : drawBelow (c.right - c.left - 1) s with
  | .dry range rest => .dry range rest
  | .drew col afterCol =>
    match _hrow : drawBelow (c.bottom - c.top - 1) afterCol with
    | .dry range rest => .dry range rest
    | .drew row afterRow =>
      let split : Split := ⟨c, c.left + 1 + col, c.top + 1 + row⟩
      if split.isAcceptable then .drew split afterRow else drawSplit c afterRow
termination_by Source.remaining s
decreasing_by
  have hcol := Source.remaining_draw (drawBelow_eq_drew_iff.1 _hcol)
  have hrow := Source.remaining_draw (drawBelow_eq_drew_iff.1 _hrow)
  omega

def pierce : List Section → σ → Drawn σ (List (Nat × Nat))
  | [], s => .drew [] s
  | wall :: rest, s =>
    (drawBelow wall.length s).andThen fun place s =>
      (pierce rest s).map fun holes => wall.cell place :: holes

/-- Draws which section stays closed, and the holes in the others. -/
def drawHoles (split : Split) (s : σ) : Drawn σ Cut :=
  (drawBelow 4 s).andThen fun closed s =>
    (pierce (split.sections.eraseIdx closed) s).map fun holes => ⟨split, holes⟩

theorem remaining_drawSplit {c : Chamber} {s s' : σ} {split : Split}
    (h : drawSplit c s = .drew split s') : Source.remaining s' < Source.remaining s := by
  fun_induction drawSplit c s with
  | case1 => simp at h
  | case2 => simp at h
  | case3 s col afterCol hcol row afterRow hrow candidate _ =>
      obtain ⟨_, rfl⟩ := Drawn.drew.inj h
      have hcol := Source.remaining_draw (drawBelow_eq_drew_iff.1 hcol)
      have hrow := Source.remaining_draw (drawBelow_eq_drew_iff.1 hrow)
      omega
  | case4 s col afterCol hcol row afterRow hrow candidate _ ih =>
      have := ih h
      have hcol := Source.remaining_draw (drawBelow_eq_drew_iff.1 hcol)
      have hrow := Source.remaining_draw (drawBelow_eq_drew_iff.1 hrow)
      omega

theorem remaining_pierce_le (sections : List Section) (s : σ) :
    Source.remaining (pierce sections s).rest ≤ Source.remaining s := by
  induction sections generalizing s with
  | nil => exact Nat.le_refl _
  | cons wall rest ih =>
      have hd := remaining_drawBelow_le wall.length s
      unfold pierce
      cases h : drawBelow wall.length s with
      | dry range t =>
          rw [h] at hd
          exact hd
      | drew place t =>
          rw [h] at hd
          have ht := ih t
          simp only [Drawn.andThen, Drawn.map]
          cases hp : pierce rest t with
          | dry range u =>
              rw [hp] at ht
              exact Nat.le_trans ht hd
          | drew holes u =>
              rw [hp] at ht
              exact Nat.le_trans ht hd

theorem remaining_drawHoles_le (split : Split) (s : σ) :
    Source.remaining (drawHoles split s).rest ≤ Source.remaining s := by
  have hd := remaining_drawBelow_le 4 s
  unfold drawHoles
  cases h : drawBelow 4 s with
  | dry range t =>
      rw [h] at hd
      exact hd
  | drew closed t =>
      rw [h] at hd
      have ht := remaining_pierce_le (split.sections.eraseIdx closed) t
      simp only [Drawn.andThen, Drawn.map]
      cases hp : pierce (split.sections.eraseIdx closed) t with
      | dry range u =>
          rw [hp] at ht
          exact Nat.le_trans ht hd
      | drew holes u =>
          rw [hp] at ht
          exact Nat.le_trans ht hd

end Drawing

end Labyrinth
