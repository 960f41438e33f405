import Labyrinth.Coordinate.Literal
import Labyrinth.Proofs.NormalForms
import Labyrinth.Proofs.RangeStatements

/-!
# Literals are read back

A coordinate is written as two numerals between fixed characters, and whatever follows the
literal, reading takes it off the front again. For this the numerals must not be too long,
which those of a cell of a grid never are.

The other way round it is asked of a colour what it looks like, given that it has been read:
a bracket of three numerals, and in normal form nothing else.
-/

namespace Labyrinth

namespace Numeral

theorem isInteger_of_isDigits {s : Text} (h : isDigits s = true) : isInteger s = true := by
  unfold isInteger
  split
  · have hminus : isDigit '-' = true := isDigit_of_mem h List.mem_cons_self
    exact absurd hminus (by decide)
  · exact h

theorem integer_of_isDigits {s : Text} (h : isDigits s = true) :
    integer s = (natural s).map Int.ofNat := by
  unfold integer
  split
  · have hminus : isDigit '-' = true := isDigit_of_mem h List.mem_cons_self
    exact absurd hminus (by decide)
  · rfl

theorem isInteger_ofInt (n : Int) : isInteger (ofInt n) = true := by
  cases n with
  | ofNat n => exact isInteger_of_isDigits (isDigits_ofNat n)
  | negSucc n => exact isDigits_ofNat (n + 1)

/-- The number of digits of an integer; a minus sign is none. -/
def digitCount (n : Int) : Nat :=
  (ofNat n.natAbs).length

theorem writes_ofInt {n : Int} (h : digitCount n ≤ digitLimit) : Writes (ofInt n) n := by
  refine ⟨isInteger_ofInt n, ?_⟩
  cases n with
  | ofNat n =>
      have hread : natural (ofNat n) = .ok n := natural_ofNat h
      rw [ofInt, integer_of_isDigits (isDigits_ofNat n), hread]
      rfl
  | negSucc n =>
      have hread : natural (ofNat (n + 1)) = .ok (n + 1) := natural_ofNat h
      rw [ofInt, integer, hread]
      rfl

theorem writes_ofNat {n : Nat} (h : n < 10 ^ digitLimit) : Writes (ofNat n) n :=
  writes_ofInt (n := n) (length_ofNat_le h)

/-- An integer at the front of a text ends where something else than a digit begins. -/
theorem leadingInteger?_append {s : Text} (hs : isInteger s = true) {c : Char}
    (hc : isDigit c = false) (t : Text) :
    leadingInteger? (s ++ c :: t) = some (s, c :: t) := by
  unfold isInteger at hs
  split at hs
  · next digits =>
      show (leadingDigits? (digits ++ c :: t)).map _ = _
      rw [leadingDigits?_append hs hc, Option.map_some]
  · next hminus =>
      have hdigits := leadingDigits?_append hs hc t
      cases s with
      | nil => cases hs
      | cons d digits =>
          have hd : d ≠ '-' := fun heq => hminus digits (by rw [heq])
          rw [List.cons_append] at hdigits ⊢
          unfold leadingInteger?
          split
          · next heq => exact absurd (List.cons.inj heq).1 hd
          · exact hdigits

/-- Both parts of an integer that is taken off the front of a text. -/
theorem eq_append_of_leadingInteger? {s numeral rest : Text}
    (h : leadingInteger? s = some (numeral, rest)) :
    s = numeral ++ rest ∧ isInteger numeral = true := by
  unfold leadingInteger? at h
  split at h
  · obtain ⟨⟨digits, rest'⟩, hleading, heq⟩ := Option.map_eq_some_iff.1 h
    cases heq
    obtain ⟨rfl, hdigits⟩ := eq_append_of_leadingDigits? hleading
    exact ⟨rfl, hdigits⟩
  · obtain ⟨hs, hdigits⟩ := eq_append_of_leadingDigits? h
    exact ⟨hs, isInteger_of_isDigits hdigits⟩

theorem isPlain_of_isDigits {s : Text} (h : isDigits s = true) {c : Char} (hc : c ∈ s) :
    Maze.IsPlain c :=
  Maze.isPlain_of_isDigit (isDigit_of_mem h hc)

theorem isPlain_of_isInteger {s : Text} (h : isInteger s = true) {c : Char} (hc : c ∈ s) :
    Maze.IsPlain c := by
  rcases eq_minus_or_isDigit_of_mem h hc with rfl | hdigit
  · exact ⟨by decide, by decide, by decide, by decide⟩
  · exact Maze.isPlain_of_isDigit hdigit

theorem isPlain_of_mem_ofInt {n : Int} {c : Char} (h : c ∈ ofInt n) : Maze.IsPlain c :=
  isPlain_of_isInteger (isInteger_ofInt n) h

theorem Writes.isPlain_of_mem {s : Text} {n : Int} (h : Writes s n) {c : Char} (hc : c ∈ s) :
    Maze.IsPlain c :=
  isPlain_of_isInteger h.1 hc

end Numeral

/-! ## Coordinates -/

namespace Coordinate

variable {c : Coordinate}

/-- The numbers of the coordinate are not too long to be read. -/
structure Legible (c : Coordinate) : Prop where
  row : Numeral.Writes (Numeral.ofInt c.row) c.row
  col : Numeral.Writes (Numeral.ofInt c.col) c.col

/-- The cells of a grid are legible, unless it is of a size that no document can state. -/
theorem legible_of_contains {α : Type} {t : Table α} (hheight : t.height < 10 ^ Numeral.digitLimit)
    (hwidth : t.width < 10 ^ Numeral.digitLimit) (hc : t.contains c = true) : c.Legible := by
  obtain ⟨row, col⟩ := c
  obtain ⟨hrow, hrow', hcol, hcol'⟩ := Table.contains_iff.1 hc
  obtain ⟨i, rfl⟩ := Int.eq_ofNat_of_zero_le hrow
  obtain ⟨j, rfl⟩ := Int.eq_ofNat_of_zero_le hcol
  exact ⟨Numeral.writes_ofNat (Nat.lt_trans (Int.ofNat_lt.1 hrow') hheight),
    Numeral.writes_ofNat (Nat.lt_trans (Int.ofNat_lt.1 hcol') hwidth)⟩

theorem isPlain_of_mem_text {x : Char} (h : x ∈ c.text) : Maze.IsPlain x := by
  have hfixed : ∀ y ∈ ['c', '(', ',', ')'], Maze.IsPlain y := by
    intro y hy
    simp only [List.mem_cons, List.not_mem_nil, or_false] at hy
    rcases hy with rfl | rfl | rfl | rfl <;> exact ⟨by decide, by decide, by decide, by decide⟩
  simp only [text, List.mem_append] at h
  rcases h with (((h | h) | h) | h) | h
  · exact hfixed x (List.mem_of_mem_take (i := 2) h)
  · exact Numeral.isPlain_of_mem_ofInt h
  · exact hfixed x (by rw [List.mem_singleton.1 h]; decide)
  · exact Numeral.isPlain_of_mem_ofInt h
  · exact hfixed x (by rw [List.mem_singleton.1 h]; decide)

/-- Whatever follows a literal, it is split off again. -/
theorem leadingNumerals?_text_append (c : Coordinate) (t : Text) :
    leadingNumerals? (c.text ++ t) =
      some ((Numeral.ofInt c.row, Numeral.ofInt c.col), t) := by
  have hshape : c.text ++ t = "c(".toList ++ (Numeral.ofInt c.row ++ ',' ::
      (Numeral.ofInt c.col ++ ')' :: t)) := by
    simp only [text, List.append_assoc, List.cons_append, List.nil_append]
  have hrow := Numeral.leadingInteger?_append (Numeral.isInteger_ofInt c.row)
    (c := ',') (by decide) (Numeral.ofInt c.col ++ ')' :: t)
  have hcol := Numeral.leadingInteger?_append (Numeral.isInteger_ofInt c.col)
    (c := ')') (by decide) t
  rw [hshape, leadingNumerals?]
  simp only [Text.after?_append, Option.bind_eq_bind, Option.bind_some, hrow, hcol, Text.after?,
    if_true, Option.pure_def]

open Outcome in
theorem Legible.ofNumerals (h : c.Legible) :
    Coordinate.ofNumerals (Numeral.ofInt c.row) (Numeral.ofInt c.col) = .ok c :=
  bind_eq_ok.2 ⟨_, h.row.2, bind_eq_ok.2 ⟨_, h.col.2, rfl⟩⟩

theorem Legible.parse_text (h : c.Legible) : parse c.text = .ok c := by
  have hnormal : ∀ x ∈ c.text, Text.IsNormal x :=
    fun x hx => Text.isNormal_of_isPlain (isPlain_of_mem_text hx)
  have hsplit := leadingNumerals?_text_append c []
  rw [List.append_nil] at hsplit
  rw [parse, Text.squeezed_of_isNormal hnormal, Text.lowercased_of_isNormal hnormal, hsplit]
  show (Coordinate.ofNumerals _ _).mapError _ = _
  rw [h.ofNumerals]
  rfl

theorem mapM_parse_text {points : List Coordinate} (h : ∀ c ∈ points, c.Legible) :
    (points.map text).mapM parse = .ok points := by
  induction points with
  | nil => rfl
  | cons c points ih =>
      have hrest := ih fun d hd => h d (List.mem_cons_of_mem c hd)
      rw [List.map_cons, List.mapM_cons, (h c List.mem_cons_self).parse_text, hrest]
      rfl

end Coordinate

/-! ## Colours -/

open Outcome in
/-- A colour that has been read and is in normal form is a bracket with no other bracket in it. -/
theorem Color.exists_components {text : Text} {color : Color} (h : parse text = .ok color)
    (hnormal : ∀ c ∈ text, Text.IsNormal c) :
    ∃ components, text = "rgb(".toList ++ components ++ [')'] ∧ ')' ∉ components := by
  unfold parse at h
  rw [Text.squeezed_of_isNormal hnormal, Text.lowercased_of_isNormal hnormal] at h
  split at h
  · cases h
  · next red green blue hnumerals =>
      unfold numerals? at hnumerals
      obtain ⟨s₁, hbegin, hnumerals⟩ := Option.bind_eq_some_iff.1 hnumerals
      obtain ⟨⟨r, s₂⟩, hr, hnumerals⟩ := Option.bind_eq_some_iff.1 hnumerals
      obtain ⟨s₃, hcolon, hnumerals⟩ := Option.bind_eq_some_iff.1 hnumerals
      obtain ⟨⟨g, s₄⟩, hg, hnumerals⟩ := Option.bind_eq_some_iff.1 hnumerals
      obtain ⟨s₅, hcolon', hnumerals⟩ := Option.bind_eq_some_iff.1 hnumerals
      obtain ⟨⟨b, s₆⟩, hb, hnumerals⟩ := Option.bind_eq_some_iff.1 hnumerals
      obtain ⟨hend, -⟩ := Option.ite_none_right_eq_some.1 hnumerals
      obtain ⟨rfl, hred⟩ := Numeral.eq_append_of_leadingDigits? hr
      obtain ⟨rfl, hgreen⟩ := Numeral.eq_append_of_leadingDigits? hg
      obtain ⟨rfl, hblue⟩ := Numeral.eq_append_of_leadingDigits? hb
      have hend : s₆ = [')'] := hend
      refine ⟨r ++ ':' :: (g ++ ':' :: b), ?_, ?_⟩
      · rw [Text.eq_append_of_after? hbegin, Text.eq_append_of_after? hcolon,
          Text.eq_append_of_after? hcolon', hend]
        simp only [List.append_assoc, List.cons_append, List.nil_append]
      · have hred := Numeral.not_mem_of_isDigits hred (c := ')') (by decide)
        have hgreen := Numeral.not_mem_of_isDigits hgreen (c := ')') (by decide)
        have hblue := Numeral.not_mem_of_isDigits hblue (c := ')') (by decide)
        simp only [List.mem_append, List.mem_cons, hred, hgreen, hblue, or_false, false_or]
        decide

end Labyrinth
