import Labyrinth.Text.PrintableTable
import Labyrinth.Text.Lowercase

/-!
# Quoted texts

A message that quotes an unusable value must show it on one line and leave no
doubt where it ends. The value stands between apostrophes, or between double
quotes when it holds an apostrophe and no double quote; the quote in use and the
backslash are escaped, and a character that would not print is written by its
code point.
-/

namespace Labyrinth.Text

def isPrintable (c : Char) : Bool :=
  inRuns c.toNat printableRuns

/-- `n` in base sixteen with at least `width` digits. -/
def hexadecimal (width n : Nat) : Text :=
  (Nat.toDigits 16 n).leftpad width '0'

/-- The code point of a character, in the shortest of the three escapes that holds it. -/
def codePointEscape (c : Char) : Text :=
  let n := c.toNat
  if n < 0x100 then '\\' :: 'x' :: hexadecimal 2 n
  else if n < 0x10000 then '\\' :: 'u' :: hexadecimal 4 n
  else '\\' :: 'U' :: hexadecimal 8 n

/-- One character inside quotes of the kind `mark`. -/
def quotedChar (mark c : Char) : Text :=
  if c = mark || c = '\\' then ['\\', c]
  else if c = '\n' then ['\\', 'n']
  else if c = '\r' then ['\\', 'r']
  else if c = '\t' then ['\\', 't']
  else if isPrintable c then [c]
  else codePointEscape c

/-- The quotation mark for a text: an apostrophe unless only the text holds one. -/
def quotationMark (s : Text) : Char :=
  if s.contains '\'' && !s.contains '"' then '"' else '\''

def quoted (s : Text) : Text :=
  let mark := quotationMark s
  mark :: s.flatMap (quotedChar mark) ++ [mark]

end Labyrinth.Text
