import Labyrinth.Color
import Labyrinth.Text

/-!
# Terminal styles

The parts of a drawing are shown in styles. The colours of visited lines are not the
terminal's to show; each distinct one is given a style of the palette instead, in
the order of the colours, and the palette starts over when it is used up.

How a terminal is made to show a text in a style is not the drawing's to know. It
asks a painter for that, and a painter may do to the text whatever it takes.
-/

namespace Labyrinth

inductive Style where
  | red | green | yellow | blue | magenta | cyan | white
  | brightRed | brightGreen | brightYellow | brightBlue
  | blackOnWhite
  deriving DecidableEq, Repr

/-- How a text is written so that a terminal shows it in a style. -/
abbrev Painter := Style → Text → Text

namespace Style

def palette : List Style :=
  [.red, .green, .yellow, .blue, .magenta, .cyan, .brightRed, .brightGreen, .brightYellow,
    .brightBlue]

/-- The style of the colour at the given place among all visited ones. -/
def ofRank (rank : Nat) : Style :=
  palette.get ⟨rank % palette.length, Nat.mod_lt rank (by decide)⟩

end Style

def Color.insertAscending (c : Color) : List Color → List Color
  | [] => [c]
  | d :: rest =>
    if c = d then d :: rest
    else if c.precedes d then c :: d :: rest
    else d :: Color.insertAscending c rest

def Color.ascending (colors : List Color) : List Color :=
  colors.foldr Color.insertAscending []

end Labyrinth
