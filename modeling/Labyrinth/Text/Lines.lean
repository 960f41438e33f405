import Labyrinth.Text

/-!
# Lines

A document is read line by line. Every Unicode line break counts, a carriage
return followed by a line feed counts once, and a break at the very end closes
the last line instead of opening an empty one: line numbers are what an editor
shows.
-/

namespace Labyrinth.Text

/-- A character after which a new line begins. -/
def isLineBreak (c : Char) : Bool :=
  let n := c.toNat
  (0x0A ≤ n && n ≤ 0x0D) || (0x1C ≤ n && n ≤ 0x1E) || n == 0x85 || n == 0x2028 || n == 0x2029

/-- The lines of a text, without the breaks that end them. -/
def lines : Text → List Text
  | [] => []
  | '\r' :: '\n' :: rest => [] :: lines rest
  | c :: rest =>
    if isLineBreak c then [] :: lines rest
    else match lines rest with
      | [] => [[c]]
      | line :: below => (c :: line) :: below

theorem lines_eq_nil_iff {s : Text} : lines s = [] ↔ s = [] := by
  constructor
  · intro h
    unfold lines at h
    split at h
    · rfl
    · simp at h
    · split at h
      · simp at h
      · split at h <;> simp at h
  · rintro rfl
    rfl

end Labyrinth.Text
