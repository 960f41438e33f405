import Labyrinth.Text.Padding
import Labyrinth.Visit.Sides
import Labyrinth.Word

/-!
# Line glyphs

The box-drawing character for a set of sides. A cell may be drawn wider than one
character; the glyph then stands in its middle, and the side of the cell that the
line reaches is filled with strokes, so that the glyphs of neighbouring cells join.
-/

namespace Labyrinth

inductive GlyphFault where
  | noSides
  /-- There would be more strokes beside the glyph than a word can count. -/
  | tooWide
  deriving DecidableEq, Repr

def GlyphFault.message : GlyphFault → String
  | noSides => "frozenset()"
  | tooWide => Word.refusal

namespace Sides

/-- The glyph that reaches exactly these sides. There is none for no side. -/
def glyph? : Sides → Option Char
  | ⟨false, false, false, false⟩ => none
  | ⟨true, false, false, false⟩ => some '╴'
  | ⟨false, true, false, false⟩ => some '╵'
  | ⟨false, false, true, false⟩ => some '╶'
  | ⟨false, false, false, true⟩ => some '╷'
  | ⟨true, false, true, false⟩ => some '─'
  | ⟨false, true, false, true⟩ => some '│'
  | ⟨false, false, true, true⟩ => some '┌'
  | ⟨true, false, false, true⟩ => some '┐'
  | ⟨false, true, true, false⟩ => some '└'
  | ⟨true, true, false, false⟩ => some '┘'
  | ⟨true, false, true, true⟩ => some '┬'
  | ⟨true, true, true, false⟩ => some '┴'
  | ⟨false, true, true, true⟩ => some '├'
  | ⟨true, true, false, true⟩ => some '┤'
  | ⟨true, true, true, true⟩ => some '┼'

def stroke (reached : Bool) : Char :=
  if reached then '─' else ' '

/-- How many strokes or blanks stand to the left of the glyph in a cell. -/
def leftPadding (width : Int) : Nat :=
  (width - 1).toNat / 2

/-- How many stand to its right, which is one more where both sides cannot have equally
many. -/
def rightPadding (width : Int) : Nat :=
  (width - 1).toNat - leftPadding width

/-- A glyph in the middle of a cell, with the sides of the cell filled. -/
def padded (s : Sides) (glyph : Char) (width : Int) : Text :=
  List.replicate (leftPadding width) (stroke s.left) ++ [glyph]
    ++ List.replicate (rightPadding width) (stroke s.right)

/-- The lines through a cell drawn `width` characters wide, but at least one. -/
def draw? (s : Sides) (width : Int) : Option Text :=
  (glyph? s).map fun glyph => s.padded glyph width

/-- The lines through a cell drawn at a width that need not be one that a drawing can have. -/
def draw (s : Sides) (width : Int) : Except GlyphFault Text :=
  match glyph? s with
  | none => .error .noSides
  | some glyph =>
    if Word.holds (rightPadding width) then .ok (s.padded glyph width) else .error .tooWide

theorem glyph?_eq_none_iff {s : Sides} : glyph? s = none ↔ s = Sides.empty := by
  obtain ⟨_ | _, _ | _, _ | _, _ | _⟩ := s <;> simp [glyph?, Sides.empty]

theorem length_of_draw? {s : Sides} {width : Int} {t : Text} (h : s.draw? width = some t) :
    t.length = max width.toNat 1 := by
  obtain ⟨glyph, _, rfl⟩ := Option.map_eq_some_iff.1 h
  simp [padded, leftPadding, rightPadding]
  omega

/-- Wherever lines are drawn without a fault, both ways of drawing them agree. -/
theorem draw?_of_draw_eq_ok {s : Sides} {width : Int} {t : Text} (h : s.draw width = .ok t) :
    s.draw? width = some t := by
  unfold draw at h
  split at h
  · cases h
  · next glyph hglyph =>
    split at h
    · cases h
      simp [draw?, hglyph]
    · cases h

end Sides

end Labyrinth
