/-!
# Words

Numbers have no bound wherever they are only compared, added or written. A machine
counts and addresses with words, though, and a word is a signed number of 64 bits.
So the bound shows in two places and nowhere else: in how often something is
repeated, and in which element of a sequence is meant. A number that is no word is
refused there, before anything is built or looked up.

The main statement is `holds_natCast`: a count is a word as soon as it is at most
the largest one.
-/

namespace Labyrinth.Word

def largest : Int := 0x7FFFFFFFFFFFFFFF

def least : Int := -0x8000000000000000

/-- Whether a number is a word. -/
def holds (n : Int) : Bool :=
  least ≤ n && n ≤ largest

/-- What is said of a count or a position that is no word. -/
def refusal : String :=
  "cannot fit 'int' into an index-sized integer"

theorem holds_eq_true_iff {n : Int} : holds n = true ↔ least ≤ n ∧ n ≤ largest := by
  simp [holds]

theorem holds_natCast {n : Nat} : holds n = true ↔ n ≤ largest := by
  simp only [holds_eq_true_iff, least]
  omega

end Labyrinth.Word
