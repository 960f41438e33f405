import Labyrinth.Text

/-!
# Decimal numerals

Numbers are unbounded and written in base ten, with a minus sign in front of the
negative ones. A numeral may carry any number of leading zeros, but no more than
4300 digits in all: reading is quadratic in the length, so a longer one is
refused, and the refusal says how long it was.
-/

namespace Labyrinth

namespace Numeral

/-- The most digits a numeral may have. -/
def digitLimit : Nat := 4300

structure TooLong where
  digits : Nat
  deriving DecidableEq, Repr

def TooLong.message (e : TooLong) : String :=
  s!"Exceeds the limit (4300 digits) for integer string conversion: value has {e.digits} digits"
    ++ "; use sys.set_int_max_str_digits() to increase the limit"

/-- An ASCII digit. -/
def isDigit (c : Char) : Bool :=
  '0' ≤ c && c ≤ '9'

/-- One digit or more, and nothing else. -/
def isDigits (s : Text) : Bool :=
  !s.isEmpty && s.all isDigit

/-- Digits, after a minus sign or not. -/
def isInteger : Text → Bool
  | '-' :: s => isDigits s
  | s => isDigits s

/-- Splits the digits off the front of a text, if it starts with one. -/
def leadingDigits? (s : Text) : Option (Text × Text) :=
  let digits := s.takeWhile isDigit
  if digits.isEmpty then none else some (digits, s.dropWhile isDigit)

/-- Splits an integer off the front of a text, if it starts with one. -/
def leadingInteger? : Text → Option (Text × Text)
  | '-' :: s => (leadingDigits? s).map fun (digits, rest) => ('-' :: digits, rest)
  | s => leadingDigits? s

def natural (digits : Text) : Except TooLong Nat :=
  if digitLimit < digits.length then .error ⟨digits.length⟩
  else .ok (Nat.ofDigitChars 10 digits 0)

/-- The number that an optional minus sign and digits write. -/
def integer : Text → Except TooLong Int
  | '-' :: digits => (natural digits).map fun n => -(n : Int)
  | digits => (natural digits).map Int.ofNat

/-- A natural number as a numeral without leading zeros. -/
def ofNat (n : Nat) : Text :=
  Nat.toDigits 10 n

def ofInt : Int → Text
  | .ofNat n => ofNat n
  | .negSucc n => '-' :: ofNat (n + 1)

theorem natural_ofNat {n : Nat} (h : (ofNat n).length ≤ digitLimit) :
    natural (ofNat n) = .ok n := by
  rw [natural, if_neg (Nat.not_lt.2 h), ofNat, Nat.ofDigitChars_toDigits (by decide) (by decide)]

end Numeral

end Labyrinth
