import Labyrinth.Text.CaseTable
import Labyrinth.Text

/-!
# Lower case

Statements are matched without regard to case, so every line is lower-cased
before it is read, in the full Unicode sense: a letter may become two characters
(the dotted capital I), a letter outside ASCII may become an ASCII one (the Kelvin
sign), and a capital sigma becomes a final sigma at the end of a word. Inside
ASCII the map is the familiar one, which the first lemmas below say.
-/

namespace Labyrinth.Text

def inRuns (n : Nat) (runs : List (Nat × Nat)) : Bool :=
  runs.any fun (first, last) => first ≤ n && n ≤ last

/-- The small letter of a single character, where that is one character and does not
depend on its neighbours. -/
def lowerChar (c : Char) : Char :=
  let n := c.toNat
  if n < 0x80 then c.toLower
  else
    match lowerRuns.find? fun (first, last, step, _) =>
        first ≤ n && n ≤ last && (n - first) % step == 0 with
    | none => c
    | some (_, _, _, offset) => Char.ofNat (n + offset).toNat

/-- A character that a search for a letter looks past. -/
def isCaseSkipped (c : Char) : Bool :=
  inRuns c.toNat caseSkipped

/-- Whether the next character that is not looked past is a letter with a case. -/
def meetsLetter (s : Text) : Bool :=
  match s.dropWhile isCaseSkipped with
  | [] => false
  | c :: _ => inRuns c.toNat caseLetters

/-- The lower-case form of `c` with `before` on its left, nearest first, and `later` on
its right. A sigma is final when a letter precedes it and none follows. -/
def lowerInContext (before : Text) (c : Char) (later : Text) : Text :=
  if c = 'Σ' then
    if meetsLetter before && !meetsLetter later then ['ς'] else ['σ']
  else if c = 'İ' then ['i', '\u0307']
  else [lowerChar c]

/-- Lower-cases what follows `before`, which holds the characters already passed, nearest
first. -/
def lowerAfter (before : Text) : Text → Text
  | [] => []
  | c :: s => lowerInContext before c s ++ lowerAfter (c :: before) s

def lowercased (s : Text) : Text :=
  lowerAfter [] s

/-- ASCII never needs its context. -/
theorem lowerInContext_of_ascii {c : Char} (h : c.toNat < 0x80) (before later : Text) :
    lowerInContext before c later = [c.toLower] := by
  have hs : c ≠ 'Σ' := by rintro rfl; exact absurd h (by decide)
  have hi : c ≠ 'İ' := by rintro rfl; exact absurd h (by decide)
  simp [lowerInContext, hs, hi, lowerChar, h]

/-- A text of ASCII characters is lower-cased one character at a time. -/
theorem lowercased_of_ascii {s : Text} (h : ∀ c ∈ s, c.toNat < 0x80) :
    lowercased s = s.map Char.toLower := by
  suffices ∀ before, lowerAfter before s = s.map Char.toLower from this []
  induction s with
  | nil => intro before; rfl
  | cons c s ih =>
      intro before
      have hc : c.toNat < 0x80 := h c (by simp)
      have hs : ∀ d ∈ s, d.toNat < 0x80 := fun d hd => h d (by simp [hd])
      simp [lowerAfter, lowerInContext_of_ascii hc, ih hs]

end Labyrinth.Text
