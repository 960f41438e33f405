import Labyrinth.Text

/-!
# Padding

Columns line up because every piece of a drawn line is brought to the width of
its column. A piece wider than its column is left whole: nothing is ever cut off
by padding.
-/

namespace Labyrinth.Text

/-- `n` blanks; none for a negative `n`. -/
def spaces (n : Int) : Text :=
  List.replicate n.toNat ' '

def alignedRight (width : Int) (s : Text) : Text :=
  spaces (width - s.length) ++ s

/-- Pads on both sides up to `width`. When the padding is odd, the spare blank goes to the
left in an odd width and to the right in an even one. -/
def centred (width : Int) (s : Text) : Text :=
  let padding := width - s.length
  let left := padding / 2 + (if padding % 2 = 1 ∧ width % 2 = 1 then 1 else 0)
  spaces left ++ s ++ spaces (padding - left)

/-- The last `count` characters; for a negative `count`, all but that many of the first
ones, and for 0 the whole text. -/
def ending (count : Int) (s : Text) : Text :=
  if 0 < count then s.drop (s.length - count.toNat) else s.drop (-count).toNat

theorem length_alignedRight (width : Int) (s : Text) :
    (alignedRight width s).length = max width.toNat s.length := by
  simp [alignedRight, spaces]
  omega

theorem length_centred (width : Int) (s : Text) :
    (centred width s).length = max width.toNat s.length := by
  simp only [centred, spaces, List.length_append, List.length_replicate]
  split <;> omega

end Labyrinth.Text
