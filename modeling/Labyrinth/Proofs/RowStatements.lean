import Mathlib.Algebra.Ring.Nat
import Labyrinth.Maze.Rows
import Labyrinth.Proofs.Lines
import Labyrinth.Proofs.Statements

/-!
# Row statements are read back

The statement of a row is written with digits, two letters for the cells and three
characters around them. None of these is blank, a capital or a line break, so the
statement is its own normal form and fits on one line, and reading it takes apart
what writing put together.

Only the number of the row can stand in the way: a numeral is refused when it has
too many digits. But a row number is below the height, the height has been read
from a numeral itself, and so neither has too many.
-/

namespace Labyrinth

/-! ## Numerals -/

namespace Numeral

theorem isDigit_iff {c : Char} : isDigit c = true ↔ 48 ≤ c.toNat ∧ c.toNat ≤ 57 := by
  simp only [isDigit, Bool.and_eq_true, decide_eq_true_eq, Char.le_def, UInt32.le_iff_toNat_le]
  rfl

theorem isDigit_of_mem_ofNat {n : Nat} {c : Char} (h : c ∈ ofNat n) : isDigit c = true := by
  have hdigit := Nat.isDigit_of_mem_toDigits (by decide) (by decide) h
  simp only [Char.isDigit, Bool.and_eq_true, decide_eq_true_eq] at hdigit
  rw [isDigit_iff]
  exact ⟨UInt32.le_iff_toNat_le.1 hdigit.1, UInt32.le_iff_toNat_le.1 hdigit.2⟩

theorem isDigit_of_mem {s : Text} (h : isDigits s = true) {c : Char} (hc : c ∈ s) :
    isDigit c = true := by
  simp only [isDigits, Bool.and_eq_true, List.all_eq_true] at h
  exact h.2 c hc

theorem isDigits_ofNat (n : Nat) : isDigits (ofNat n) = true := by
  have hne : ofNat n ≠ [] := Nat.toDigits_ne_nil
  simp only [isDigits, Bool.and_eq_true, Bool.not_eq_true', List.isEmpty_eq_false_iff,
    List.all_eq_true]
  exact ⟨hne, fun _ hc => isDigit_of_mem_ofNat hc⟩

/-- The digits at the front of a text end where something else begins. -/
theorem leadingDigits?_append {digits : Text} (hdigits : isDigits digits = true) {c : Char}
    (hc : isDigit c = false) (s : Text) :
    leadingDigits? (digits ++ c :: s) = some (digits, c :: s) := by
  simp only [isDigits, Bool.and_eq_true, Bool.not_eq_true', List.all_eq_true] at hdigits
  have htake : (digits ++ c :: s).takeWhile isDigit = digits := by
    rw [List.takeWhile_append_of_pos hdigits.2, List.takeWhile_cons, hc]
    exact List.append_nil _
  have hdrop : (digits ++ c :: s).dropWhile isDigit = c :: s := by
    rw [List.dropWhile_append_of_pos hdigits.2, List.dropWhile_cons, hc]
    rfl
  unfold leadingDigits?
  simp only [htake, hdrop, hdigits.1]
  rfl

theorem eq_append_of_leadingDigits? {s digits rest : Text}
    (h : leadingDigits? s = some (digits, rest)) :
    s = digits ++ rest ∧ isDigits digits = true := by
  unfold leadingDigits? at h
  simp only at h
  split at h
  · cases h
  · next hne =>
      obtain ⟨rfl, rfl⟩ := Prod.mk.inj (Option.some.inj h)
      refine ⟨List.takeWhile_append_dropWhile.symm, ?_⟩
      simp only [isDigits, Bool.and_eq_true, Bool.not_eq_true', Bool.eq_false_iff]
      exact ⟨hne, List.all_takeWhile⟩

theorem length_ofNat_le {n : Nat} (h : n < 10 ^ digitLimit) : (ofNat n).length ≤ digitLimit :=
  (Nat.length_toDigits_le_iff (by decide) (by decide)).2 h

theorem ofDigitChars_lt {digits : Text} (h : ∀ c ∈ digits, isDigit c = true) :
    Nat.ofDigitChars 10 digits 0 < 10 ^ digits.length := by
  induction digits with
  | nil => exact Nat.one_pos
  | cons c digits ih =>
      have hc := isDigit_iff.1 (h c List.mem_cons_self)
      have hrest := ih fun d hd => h d (List.mem_cons_of_mem _ hd)
      have hle : c.toNat - 48 ≤ 9 := by omega
      have hmul := Nat.mul_le_mul_left (10 ^ digits.length) hle
      rw [Nat.ofDigitChars_cons, Nat.ofDigitChars_eq_ofDigitChars_zero, List.length_cons,
        Nat.pow_succ]
      have hzero : 10 * 0 + (c.toNat - '0'.toNat) = c.toNat - 48 := by
        rw [Nat.mul_zero, Nat.zero_add]
        rfl
      rw [hzero]
      omega

theorem natural_eq_ok_iff {digits : Text} {n : Nat} :
    natural digits = .ok n ↔ digits.length ≤ digitLimit ∧ Nat.ofDigitChars 10 digits 0 = n := by
  rw [natural, ← ite_not, Outcome.ite_eq_ok, Nat.not_lt]

theorem natural_lt {digits : Text} {n : Nat} (h : natural digits = .ok n)
    (hdigits : isDigits digits = true) : n < 10 ^ digitLimit := by
  obtain ⟨hshort, rfl⟩ := natural_eq_ok_iff.1 h
  have hlt := ofDigitChars_lt fun c hc => isDigit_of_mem hdigits hc
  exact Nat.lt_of_lt_of_le hlt (Nat.pow_le_pow_right (by decide) hshort)

/-- An integer is written as a natural number, or as one behind a minus sign. -/
theorem exists_of_integer {s : Text} {n : Int} (h : integer s = .ok n) (hs : isInteger s = true) :
    (∃ digits k, s = '-' :: digits ∧ isDigits digits = true ∧ natural digits = .ok k ∧
        n = -(k : Int)) ∨
      ∃ k : Nat, isDigits s = true ∧ natural s = .ok k ∧ n = k := by
  unfold integer at h
  unfold isInteger at hs
  split at h
  · next digits =>
      obtain ⟨_, hk, rfl⟩ := Outcome.map_eq_ok.1 h
      obtain ⟨k, hdigits, hk⟩ := Outcome.bind_eq_ok.1 hk
      cases hk
      exact .inl ⟨digits, k, rfl, hs, hdigits, rfl⟩
  · next hminus =>
      obtain ⟨k, hk, rfl⟩ := Outcome.map_eq_ok.1 h
      split at hs
      · next rest => exact absurd rfl (hminus rest)
      · exact .inr ⟨k, hs, hk, rfl⟩

/-- What has been read has no more digits than can be read. -/
theorem natAbs_lt {s : Text} {n : Int} (h : integer s = .ok n) (hs : isInteger s = true) :
    n.natAbs < 10 ^ digitLimit := by
  rcases exists_of_integer h hs with ⟨digits, k, -, hdigits, hk, rfl⟩ | ⟨k, hdigits, hk, rfl⟩
  · rw [Int.natAbs_neg]
    exact natural_lt hk hdigits
  · exact natural_lt hk hdigits

theorem integer_lt {s : Text} {n : Int} (h : integer s = .ok n) (hs : isInteger s = true) :
    n < (10 ^ digitLimit : Nat) :=
  Int.lt_of_le_of_lt Int.le_natAbs (Int.ofNat_lt.2 (natAbs_lt h hs))

end Numeral

/-! ## Sizes -/

theorem integers_lt {counts : List Nat} {text : Text} {ns : List Int}
    (h : integers counts text = .ok ns) : ∀ n ∈ ns, n < (10 ^ Numeral.digitLimit : Nat) := by
  unfold integers at h
  simp only at h
  split at h
  · cases h
  · split at h
    · cases h
    · next hall =>
        intro n hn
        have hread := Outcome.mapError_eq_ok.1 h
        obtain ⟨part, hpart, hinteger⟩ := Outcome.exists_of_mapM hread n hn
        simp only [Bool.not_eq_true, Bool.not_eq_false', List.all_eq_true] at hall
        exact Numeral.integer_lt hinteger (hall part hpart)

namespace Setting

theorem size_of_readSize {value : Text} {s : Setting} (h : readSize value = .ok s) :
    ∃ height width, s = .size height width ∧ 0 < height ∧ 0 < width ∧
      height < 10 ^ Numeral.digitLimit ∧ width < 10 ^ Numeral.digitLimit := by
  unfold readSize at h
  split at h
  · cases h
  · next height width hints =>
      split at h
      · cases h
      · next hpos =>
          cases h
          have hheight := integers_lt hints height (by simp)
          have hwidth := integers_lt hints width (by simp)
          exact ⟨_, _, rfl, by omega, by omega, by omega, by omega⟩
  · cases h

/-- The key that a setting is stated under. -/
def key : Setting → SettingKey
  | size .. => .size
  | marker m _ => .marker m
  | outputMode _ => .outputMode
  | unit _ => .unit
  | chars .. => .placeholderChar
  | ints .. => .placeholderInt
  | pathColor _ => .pathColor
  | wallColor _ => .wallColor
  | positionColor _ => .positionColor
  | gridColor _ => .gridColor
  | visitedSprite _ => .visitedSprite
  | positionSprite _ => .positionSprite
  | showGrid _ => .showGrid
  | showIndices _ => .showIndices

open Outcome in
/-- Only a value that is read under its key makes a setting. -/
theorem key_of_readValue {value : Text} {k : SettingKey} {s : Setting}
    (h : readValue value k = .ok s) : s.key = k := by
  cases k with
  | size =>
      obtain ⟨_, _, rfl, -⟩ := size_of_readSize h
      rfl
  | unit =>
      simp only [readValue, readUnit] at h
      split at h
      · cases h
      · split at h <;> cases h
        rfl
      · cases h
  | placeholderChar =>
      simp only [readValue, readChars] at h
      split at h <;> cases h <;> rfl
  | placeholderInt =>
      simp only [readValue, readInts] at h
      split at h <;> cases h <;> rfl
  | showGrid =>
      cases h
      rfl
  | showIndices =>
      cases h
      rfl
  | _ =>
      obtain ⟨_, -, rfl⟩ := map_eq_ok.1 h
      rfl

/-- A line that states a setting is its key and its value between brackets. -/
theorem exists_of_read {line : Text} {s : Setting} (h : read line = .ok s) :
    ∃ value, line = '[' :: (s.key.name.toList ++ ':' :: value ++ [']']) ∧
      readValue value s.key = .ok s := by
  unfold read at h
  split at h
  · cases h
  · next inner hinner =>
      split at h
      · cases h
      · next name value hcut =>
          split at h
          · cases h
          · next k hname =>
              obtain rfl := key_of_readValue h
              obtain ⟨rest, hrest, hinner⟩ := Option.bind_eq_some_iff.1 hinner
              have hname : s.key.name.toList = name := by simpa using List.find?_some hname
              refine ⟨value, ?_, h⟩
              rw [Text.eq_append_of_after? hrest, Text.eq_append_of_before? hinner,
                Text.eq_append_of_cut? hcut, ← hname]
              rfl

/-- The sides of a size that has been read are positive, and no numeral is too short for them. -/
theorem sides_of_read {line : Text} {height width : Nat}
    (h : read line = .ok (.size height width)) :
    0 < height ∧ 0 < width ∧ height < 10 ^ Numeral.digitLimit ∧
      width < 10 ^ Numeral.digitLimit := by
  obtain ⟨_, -, hvalue⟩ := exists_of_read h
  obtain ⟨_, _, heq, hsides⟩ := size_of_readSize hvalue
  cases heq
  exact hsides

end Setting

/-! ## Statements -/

namespace Statement

/-- The text of a row statement, with its number and its cells as they are written. -/
def rowText (digits cells : Text) : Text :=
  'r' :: (digits ++ ':' :: (cells ++ [';']))

theorem form_rowText {digits : Text} (h : Numeral.isDigits digits = true) (cells : Text) :
    Form.of? (rowText digits cells) = some .row := by
  cases digits with
  | nil => cases h
  | cons d digits =>
      have hd : Numeral.isDigit d = true := Numeral.isDigit_of_mem h List.mem_cons_self
      have hnumbered : Form.isNumbered 'r' (rowText (d :: digits) cells) = true := hd
      rw [Form.of?, hnumbered]
      rfl

theorem ofLine?_rowText {digits : Text} {index : Nat} (hdigits : Numeral.isDigits digits = true)
    (hindex : Numeral.natural digits = .ok index) (cells : Text) :
    ofLine? (rowText digits cells) = some (.row index cells) := by
  have hcolon : Numeral.isDigit ':' = false := by decide
  have hshape : rowText digits cells = ['r'] ++ (digits ++ ':' :: (cells ++ [';'])) := rfl
  refine ofLine?_of_read (form_rowText hdigits cells) ?_
  rw [read, readRow, hshape]
  simp only [Text.after?_append, Option.bind_eq_bind, Option.bind_some,
    Numeral.leadingDigits?_append hdigits hcolon, Text.after?, if_true, Text.before?_append,
    Option.pure_def, hindex]
  rfl

open Outcome in
/-- A row is written in one way, up to the zeros before its number. -/
theorem exists_rowText_of_ofLine? {line cells : Text} {index : Nat}
    (h : ofLine? line = some (.row index cells)) :
    ∃ digits, line = rowText digits cells ∧ Numeral.isDigits digits = true ∧
      Numeral.natural digits = .ok index := by
  have hread : readRow line = .ok (.row index cells) := (ofLine?_eq_some_iff.1 h).2
  unfold readRow at hread
  split at hread
  · cases hread
  · next digits cells' hcut =>
      obtain ⟨_, hindex, heq⟩ := map_eq_ok.1 hread
      cases heq
      obtain ⟨afterLetter, hletter, hcut⟩ := Option.bind_eq_some_iff.1 hcut
      obtain ⟨⟨_, afterDigits⟩, hnumber, hcut⟩ := Option.bind_eq_some_iff.1 hcut
      obtain ⟨afterColon, hcolon, hcut⟩ := Option.bind_eq_some_iff.1 hcut
      obtain ⟨_, hend, heq⟩ := Option.bind_eq_some_iff.1 hcut
      cases heq
      obtain ⟨rfl, hdigits⟩ := Numeral.eq_append_of_leadingDigits? hnumber
      refine ⟨digits, ?_, hdigits, mapError_eq_ok.1 hindex⟩
      rw [Text.eq_append_of_after? hletter, Text.eq_append_of_after? hcolon,
        Text.eq_append_of_before? hend]
      rfl

end Statement

namespace Maze

/-- What a row statement is written with: small, printed and on one line. -/
def IsPlain (c : Char) : Prop :=
  c.toNat < 0x80 ∧ Text.isBlank c = false ∧ Text.isLineBreak c = false ∧ c.toLower = c

theorem isPlain_of_isDigit {c : Char} (h : Numeral.isDigit c = true) : IsPlain c := by
  rw [Numeral.isDigit_iff] at h
  refine ⟨by omega, ?_, ?_, ?_⟩
  · simp only [Text.isBlank, Bool.or_eq_false_iff, Bool.and_eq_false_iff, decide_eq_false_iff_not,
      beq_eq_false_iff_ne]
    omega
  · simp only [Text.isLineBreak, Bool.or_eq_false_iff, Bool.and_eq_false_iff,
      decide_eq_false_iff_not, beq_eq_false_iff_ne]
    omega
  · have hsmall : ¬ (c.val ≥ 'A'.val ∧ c.val ≤ 'Z'.val) := by
      rintro ⟨hcapital, -⟩
      have hle : 65 ≤ c.toNat := UInt32.le_iff_toNat_le.1 hcapital
      omega
    exact dif_neg hsmall

theorem isPlain_of_mem_rowStatement {row : List Bool} {index : Nat} {c : Char}
    (h : c ∈ rowStatement row index) : IsPlain c := by
  unfold rowStatement at h
  simp only [List.cons_append, List.mem_cons, List.mem_append, List.mem_map, List.not_mem_nil,
    or_false] at h
  rcases h with rfl | ((h | rfl) | ⟨b, -, rfl⟩) | rfl
  · exact ⟨by decide, by decide, by decide, by decide⟩
  · exact isPlain_of_isDigit (Numeral.isDigit_of_mem_ofNat h)
  · exact ⟨by decide, by decide, by decide, by decide⟩
  · cases b <;> exact ⟨by decide, by decide, by decide, by decide⟩
  · exact ⟨by decide, by decide, by decide, by decide⟩

theorem normalized_rowStatement (row : List Bool) (index : Nat) :
    normalized (rowStatement row index) = rowStatement row index := by
  have hsqueezed : Text.squeezed (rowStatement row index) = rowStatement row index := by
    refine List.filter_eq_self.2 fun c hc => ?_
    rw [(isPlain_of_mem_rowStatement hc).2.1]
    rfl
  rw [normalized, hsqueezed,
    Text.lowercased_of_ascii fun c hc => (isPlain_of_mem_rowStatement hc).1]
  have hsmall : ∀ c ∈ rowStatement row index, c.toLower = id c :=
    fun c hc => (isPlain_of_mem_rowStatement hc).2.2.2
  rw [List.map_congr_left hsmall, List.map_id]

theorem rowStatement_eq (row : List Bool) (index : Nat) :
    rowStatement row index =
      Statement.rowText (Numeral.ofNat index) (row.map fun isOpen => (kind isOpen).code) := by
  simp only [rowStatement, Statement.rowText, List.cons_append, List.nil_append, List.append_assoc]

end Maze

end Labyrinth
