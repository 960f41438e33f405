import Labyrinth.Text

/-!
# Blank characters

The language ignores white space wherever it stands, inside a number as much as
between two statements. So the first thing that happens to a line is that every
blank is dropped from it, and nothing read afterwards ever sees one.
-/

namespace Labyrinth.Text

/-- Unicode white space, with the four separators U+001C to U+001F. Zero-width
characters are not blank: they have no width, but they are not space. -/
def isBlank (c : Char) : Bool :=
  let n := c.toNat
  (0x09 ≤ n && n ≤ 0x0D) || (0x1C ≤ n && n ≤ 0x20) || n == 0x85 || n == 0xA0 || n == 0x1680
    || (0x2000 ≤ n && n ≤ 0x200A) || n == 0x2028 || n == 0x2029 || n == 0x202F || n == 0x205F
    || n == 0x3000

def squeezed (s : Text) : Text :=
  s.filter fun c => !isBlank c

def trimmed (s : Text) : Text :=
  ((s.dropWhile isBlank).reverse.dropWhile isBlank).reverse

theorem isBlank_of_mem_squeezed {c : Char} {s : Text} (h : c ∈ squeezed s) :
    isBlank c = false := by
  simpa using (List.mem_filter.1 h).2

end Labyrinth.Text
