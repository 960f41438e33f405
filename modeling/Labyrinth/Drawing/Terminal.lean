import Labyrinth.Drawing.Style
import Labyrinth.Numeral

/-!
# Escape sequences

Terminals are told of a style by an escape sequence, which names it by numbers, and
another one tells them to forget it. A painter for them writes the one before a text
and the other after it, also when the text is empty. What the numbers are is up to
the painter; all that is asked of them is that they are numbers.

`Painter.terminal` is the one with the numbers in common use.
-/

namespace Labyrinth

namespace Text

/-- A character between the beginning and the end of an escape sequence. -/
def isParameter (c : Char) : Bool :=
  Numeral.isDigit c || c == ';'

def escape (parameters : Text) : Text :=
  '\x1b' :: '[' :: parameters ++ ['m']

end Text

/-- A painter that writes the sequence of a style, as its code says, before a text and the one
that cancels all styles behind it. -/
structure Painter.Escaping (painter : Painter) (code : Style → Text) : Prop where
  isParameter : ∀ style, ∀ c ∈ code style, Text.isParameter c = true
  paint : ∀ style s, painter style s = Text.escape (code style) ++ s ++ Text.escape ['0']

def Style.code : Style → Text
  | red => "31".toList
  | green => "32".toList
  | yellow => "33".toList
  | blue => "34".toList
  | magenta => "35".toList
  | cyan => "36".toList
  | white => "37".toList
  | brightRed => "91".toList
  | brightGreen => "92".toList
  | brightYellow => "93".toList
  | brightBlue => "94".toList
  | blackOnWhite => "47;30".toList

def Painter.terminal : Painter :=
  fun style s => Text.escape style.code ++ s ++ Text.escape ['0']

theorem Painter.escaping_terminal : terminal.Escaping Style.code where
  isParameter := by
    intro style
    apply List.all_eq_true.1
    cases style <;> decide
  paint := fun _ _ => rfl

theorem Style.code_injective {s t : Style} (h : s.code = t.code) : s = t := by
  revert h
  cases s <;> cases t <;> decide

end Labyrinth
