import Labyrinth.Document.Fault
import Labyrinth.Proofs.Literals

/-!
# What is written can be read

A coordinate has one written form and many spellings: blanks, capitals and leading zeros do not
matter, nor does the sign of a zero. Reading undoes writing as long as the numbers are not too
long to be read. That they are not is itself a law of reading, since a number has no more digits
than any numeral it was read from. So whatever spelling was read, the written form of the outcome is
another spelling of it.

The components of a colour are bounded as well. A colour out of these bounds has a written form all
the same; it has the shape of a literal and is refused for its components alone.
-/

namespace Labyrinth

namespace Numeral

theorem ofInt_natCast (n : Nat) : ofInt n = ofNat n :=
  rfl

/-- A number that has been read is not too long to be written and read again. -/
theorem writes_of_integer {s : Text} {n : Int} (h : integer s = .ok n) (hs : isInteger s = true) :
    Writes (ofInt n) n :=
  writes_ofInt (length_ofNat_le (natAbs_lt h hs))

end Numeral

/-! ## Coordinates -/

namespace Coordinate

theorem isInteger_of_leadingNumerals? {s row col rest : Text}
    (h : leadingNumerals? s = some ((row, col), rest)) :
    Numeral.isInteger row = true ∧ Numeral.isInteger col = true := by
  unfold leadingNumerals? at h
  obtain ⟨s₁, -, h⟩ := Option.bind_eq_some_iff.1 h
  obtain ⟨⟨row', s₂⟩, hrow, h⟩ := Option.bind_eq_some_iff.1 h
  obtain ⟨s₃, -, h⟩ := Option.bind_eq_some_iff.1 h
  obtain ⟨⟨col', s₄⟩, hcol, h⟩ := Option.bind_eq_some_iff.1 h
  obtain ⟨s₅, -, h⟩ := Option.bind_eq_some_iff.1 h
  cases h
  exact ⟨(Numeral.eq_append_of_leadingInteger? hrow).2, (Numeral.eq_append_of_leadingInteger? hcol).2⟩

theorem legible_of_parse {text : Text} {c : Coordinate} (h : parse text = .ok c) : c.Legible := by
  unfold parse at h
  split at h
  · next row col hnumerals =>
      obtain ⟨hrow, hcol⟩ := isInteger_of_leadingNumerals? hnumerals
      obtain ⟨m, hm, hread⟩ := Outcome.bind_eq_ok.1 (Outcome.mapError_eq_ok.1 h)
      obtain ⟨n, hn, hread⟩ := Outcome.bind_eq_ok.1 hread
      cases hread
      exact ⟨Numeral.writes_of_integer hm hrow, Numeral.writes_of_integer hn hcol⟩
  · cases h

end Coordinate

/-! ## Colours -/

namespace Color

theorem isNormal_of_mem_text {c : Color} {x : Char} (h : x ∈ c.text) : Text.IsNormal x := by
  have hbegin : ∀ y ∈ "rgb(".toList, Text.IsNormal y := Text.isNormal_of_all (by decide)
  have hcolon : ∀ y ∈ [':'], Text.IsNormal y := Text.isNormal_of_all (by decide)
  have hend : ∀ y ∈ [')'], Text.IsNormal y := Text.isNormal_of_all (by decide)
  have hnumeral : ∀ (n : Int), ∀ y ∈ Numeral.ofInt n, Text.IsNormal y := fun n y hy =>
    Text.isNormal_of_isPlain (Numeral.isPlain_of_mem_ofInt hy)
  unfold text at h
  simp only [List.mem_append] at h
  rcases h with (((((h | h) | h) | h) | h) | h) | h
  · exact hbegin x h
  · exact hnumeral _ x h
  · exact hcolon x h
  · exact hnumeral _ x h
  · exact hcolon x h
  · exact hnumeral _ x h
  · exact hend x h

/-- A colour without negative components has the shape of a literal. -/
theorem numerals?_text (red green blue : Nat) :
    numerals? (text ⟨red, green, blue⟩) =
      some (Numeral.ofNat red, Numeral.ofNat green, Numeral.ofNat blue) := by
  have hshape : text ⟨red, green, blue⟩ = "rgb(".toList ++ (Numeral.ofNat red ++ ':' ::
      (Numeral.ofNat green ++ ':' :: (Numeral.ofNat blue ++ ')' :: []))) := by
    unfold text
    simp only [Numeral.ofInt_natCast, List.append_assoc, List.cons_append, List.nil_append]
  have hred := Numeral.leadingDigits?_append (Numeral.isDigits_ofNat red) (c := ':') (by decide)
    (Numeral.ofNat green ++ ':' :: (Numeral.ofNat blue ++ ')' :: []))
  have hgreen := Numeral.leadingDigits?_append (Numeral.isDigits_ofNat green) (c := ':')
    (by decide) (Numeral.ofNat blue ++ ')' :: [])
  have hblue := Numeral.leadingDigits?_append (Numeral.isDigits_ofNat blue) (c := ')')
    (by decide) []
  rw [hshape, numerals?]
  simp only [Text.after?_append, Option.bind_eq_bind, Option.bind_some, hred, hgreen, hblue,
    Text.after?, if_true]

theorem parse_text {red green blue : Nat} (hred : Numeral.digitCount red ≤ Numeral.digitLimit)
    (hgreen : Numeral.digitCount green ≤ Numeral.digitLimit)
    (hblue : Numeral.digitCount blue ≤ Numeral.digitLimit) :
    parse (text ⟨red, green, blue⟩) =
      if red ≤ 255 ∧ green ≤ 255 ∧ blue ≤ 255 then .ok ⟨red, green, blue⟩
      else .error (.outOfRange (text ⟨red, green, blue⟩)) := by
  have hnormal : ∀ x ∈ text ⟨red, green, blue⟩, Text.IsNormal x := fun x hx =>
    isNormal_of_mem_text hx
  have hr : Numeral.natural (Numeral.ofNat red) = .ok red := Numeral.natural_ofNat hred
  have hg : Numeral.natural (Numeral.ofNat green) = .ok green := Numeral.natural_ofNat hgreen
  have hb : Numeral.natural (Numeral.ofNat blue) = .ok blue := Numeral.natural_ofNat hblue
  rw [parse, Text.squeezed_of_isNormal hnormal, Text.lowercased_of_isNormal hnormal,
    numerals?_text]
  simp only [hr, hg, hb]
  rfl

end Color

/-! ## Both literals -/

/-- A coordinate whose numbers are not too long is read back from its written form, and one that was
read from any text is read back as well. The written form of a colour is read back if it is within
bounds, and is refused as malformed if it is not. -/
theorem literals_round_trip :
    (∀ c : Coordinate, Numeral.digitCount c.row ≤ Numeral.digitLimit →
      Numeral.digitCount c.col ≤ Numeral.digitLimit → Coordinate.parse c.text = .ok c) ∧
    (∀ (text : Text) (c : Coordinate), Coordinate.parse text = .ok c →
      Coordinate.parse c.text = .ok c) ∧
    ∀ red green blue : Nat, Numeral.digitCount red ≤ Numeral.digitLimit →
      Numeral.digitCount green ≤ Numeral.digitLimit →
      Numeral.digitCount blue ≤ Numeral.digitLimit →
        (red ≤ 255 ∧ green ≤ 255 ∧ blue ≤ 255 →
          Color.parse (Color.text ⟨red, green, blue⟩) = .ok ⟨red, green, blue⟩) ∧
        (¬ (red ≤ 255 ∧ green ≤ 255 ∧ blue ≤ 255) → ∃ e,
          Color.parse (Color.text ⟨red, green, blue⟩) = .error e ∧
            e = .outOfRange (Color.text ⟨red, green, blue⟩) ∧
              (Reason.color e).kind = .malformed) := by
  refine ⟨fun c hrow hcol => ?_, fun text c h => (Coordinate.legible_of_parse h).parse_text,
    fun red green blue hred hgreen hblue => ?_⟩
  · have hlegible : c.Legible := ⟨Numeral.writes_ofInt hrow, Numeral.writes_ofInt hcol⟩
    exact hlegible.parse_text
  · rw [Color.parse_text hred hgreen hblue]
    constructor
    · intro hbounds
      rw [if_pos hbounds]
    · intro hbounds
      rw [if_neg hbounds]
      exact ⟨_, rfl, rfl, rfl⟩

/-- A row of 4300 digits, a zero with a sign and zeros in front, and a component that is one too
large. -/
theorem literals_round_trip_at_the_limits :
    Numeral.digitCount (-(10 ^ (Numeral.digitLimit - 1) : Nat)) ≤ Numeral.digitLimit ∧
      Coordinate.parse (Coordinate.text ⟨-(10 ^ (Numeral.digitLimit - 1) : Nat), 7⟩) =
        .ok ⟨-(10 ^ (Numeral.digitLimit - 1) : Nat), 7⟩ ∧
      Coordinate.parse " C(-000,\t0012) ".toList = .ok ⟨0, 12⟩ ∧
      Coordinate.parse (Coordinate.text ⟨0, 12⟩) = .ok ⟨0, 12⟩ ∧
      Color.parse (Color.text ⟨255, 0, 255⟩) = .ok ⟨255, 0, 255⟩ ∧
      ∃ e, Color.parse (Color.text ⟨0, 256, 0⟩) = .error e ∧ (Reason.color e).kind = .malformed := by
  obtain ⟨hwritten, hread, hcolor⟩ := literals_round_trip
  have hlong : Numeral.digitCount (-(10 ^ (Numeral.digitLimit - 1) : Nat)) ≤ Numeral.digitLimit := by
    rw [Numeral.digitCount, Int.natAbs_neg, Int.natAbs_natCast]
    exact Numeral.length_ofNat_le (Nat.pow_lt_pow_right (by decide) (by decide))
  have hspelled : Coordinate.parse " C(-000,\t0012) ".toList = .ok ⟨0, 12⟩ := by decide +kernel
  obtain ⟨e, hrefused, -, hkind⟩ :=
    (hcolor 0 256 0 (by decide) (by decide) (by decide)).2 (by decide)
  exact ⟨hlong, hwritten _ hlong (by decide), hspelled, hread _ _ hspelled,
    (hcolor 255 0 255 (by decide) (by decide) (by decide)).1 (by decide), e, hrefused, hkind⟩

end Labyrinth
