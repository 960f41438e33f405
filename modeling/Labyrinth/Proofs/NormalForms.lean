import Labyrinth.Proofs.RowStatements

/-!
# Normal forms

A line is read in its normal form, without blanks and in small letters. Every character of a
normal form stays as it is when it is brought into normal form once more, so whatever is cut out
of a line that has been read, and put together again with plain characters, is read as it stands.

This is a fact about every character by itself, because the one letter whose small form
depends on its neighbours has two small forms that both stay as they are. For the letters of
the case table it comes down to this: no small form is the code of a capital or of a
blank. The codes of the table are compared as two sets of bits, since to look each of them
up among all the others would take long.
-/

namespace Labyrinth

namespace Text

/-- Neither dropping blanks nor lower-casing changes the character, wherever it stands. -/
structure IsNormal (c : Char) : Prop where
  notBlank : isBlank c = false
  small : ∀ before later, lowerInContext before c later = [c]

theorem lowercased_of_isNormal {s : Text} (h : ∀ c ∈ s, IsNormal c) : lowercased s = s := by
  suffices ∀ before, lowerAfter before s = s from this []
  induction s with
  | nil => intro before; rfl
  | cons c s ih =>
      intro before
      have hs := ih fun d hd => h d (List.mem_cons_of_mem c hd)
      rw [lowerAfter, (h c List.mem_cons_self).small, hs, List.singleton_append]

theorem squeezed_of_isNormal {s : Text} (h : ∀ c ∈ s, IsNormal c) : squeezed s = s := by
  apply List.filter_eq_self.2
  intro c hc
  rw [(h c hc).notBlank]
  rfl

theorem isNormal_of_ascii {c : Char} (hc : c.toNat < 0x80) (hblank : isBlank c = false)
    (hsmall : c.toLower = c) : IsNormal c :=
  ⟨hblank, fun before later => by rw [lowerInContext_of_ascii hc, hsmall]⟩

theorem isNormal_of_all {s : Text}
    (h : (s.all fun c => c.toNat < 0x80 && !isBlank c && c.toLower == c) = true) :
    ∀ c ∈ s, IsNormal c := by
  intro c hc
  have hall := List.all_eq_true.1 h c hc
  simp only [Bool.and_eq_true, decide_eq_true_eq, Bool.not_eq_true', beq_iff_eq] at hall
  obtain ⟨⟨hascii, hblank⟩, hsmall⟩ := hall
  exact isNormal_of_ascii hascii hblank hsmall

theorem isNormal_of_isPlain {c : Char} (h : Maze.IsPlain c) : IsNormal c :=
  isNormal_of_ascii h.1 h.2.1 h.2.2.2

theorem isBlank_of_isLineBreak {c : Char} (h : isLineBreak c = true) : isBlank c = true := by
  simp only [isLineBreak, isBlank, Bool.or_eq_true, Bool.and_eq_true, decide_eq_true_eq,
    beq_iff_eq] at h ⊢
  omega

theorem IsNormal.not_lineBreak {c : Char} (h : IsNormal c) : isLineBreak c = false := by
  rw [← Bool.not_eq_true]
  intro hbreak
  have hblank := h.notBlank
  rw [isBlank_of_isLineBreak hbreak] at hblank
  cases hblank

/-! ## Sets of codes -/

/-- The set of some numbers, as the bits of one. -/
def bits : List Nat → Nat
  | [] => 0
  | n :: codes => bits codes ||| 1 <<< n

theorem testBit_bits {codes : List Nat} {n : Nat} :
    (bits codes).testBit n = true ↔ n ∈ codes := by
  induction codes with
  | nil => simp [bits]
  | cons m codes ih =>
      rw [bits, Nat.testBit_or, Bool.or_eq_true, ih, Nat.one_shiftLeft, Nat.testBit_two_pow,
        decide_eq_true_eq, List.mem_cons, or_comm, eq_comm (a := m)]

theorem not_mem_of_bits {codes others : List Nat} (h : bits codes &&& bits others = 0) {n : Nat}
    (hn : n ∈ codes) : n ∉ others := by
  intro hn'
  have hboth : (bits codes &&& bits others).testBit n = true := by
    rw [Nat.testBit_and, testBit_bits.2 hn, testBit_bits.2 hn', Bool.and_self]
  rw [h, Nat.zero_testBit] at hboth
  cases hboth

/-! ## The case table -/

/-- The codes of a run of the case table. -/
def runCodes (first last step : Nat) : List Nat :=
  List.range' first ((last - first) / step + 1) step

theorem mem_runCodes {first last step n : Nat} (hfirst : first ≤ n) (hlast : n ≤ last)
    (hstep : (n - first) % step = 0) : n ∈ runCodes first last step := by
  have hdiv : step * ((n - first) / step) = n - first :=
    Nat.mul_div_cancel' (Nat.dvd_of_mod_eq_zero hstep)
  rw [runCodes, List.mem_range']
  refine ⟨(n - first) / step, Nat.lt_succ_of_le (Nat.div_le_div_right (by omega)), ?_⟩
  omega

/-- The codes of the letters that have a small form. -/
def capitals : List Nat :=
  lowerRuns.flatMap fun (first, last, step, _) => runCodes first last step

/-- The codes of the small forms: the two of sigma, the two characters of the dotted capital I, and
those that the table gives. -/
def smallForms : List Nat :=
  0x3C2 :: 0x3C3 :: 0x69 :: 0x307 ::
    lowerRuns.flatMap fun (first, last, step, offset) =>
      (runCodes first last step).map fun (n : Nat) => (n + offset).toNat

/-- The codes of the characters that are not normal: capitals, among them those outside the
table, and blanks. -/
def unsettled : List Nat :=
  0x130 :: List.range' 0x41 26 ++ capitals ++ List.range' 0x09 5 ++ List.range' 0x1C 5 ++
    List.range' 0x2000 11 ++ [0x85, 0xA0, 0x1680, 0x2028, 0x2029, 0x202F, 0x205F, 0x3000]

theorem bits_smallForms : bits smallForms &&& bits unsettled = 0 := by
  decide +kernel

/-- A letter that lower-casing looks up is in the table with its small form, or it stays. -/
theorem lowerChar_cases {c : Char} (hc : 0x80 ≤ c.toNat) :
    lowerChar c = c ∨ c.toNat ∈ capitals ∧
      ∃ n ∈ smallForms, lowerChar c = Char.ofNat n := by
  rw [lowerChar]
  dsimp only
  rw [if_neg (by omega)]
  split
  · exact .inl rfl
  · next first last step offset hfind =>
      have hrun := List.mem_of_find?_eq_some hfind
      have hin := List.find?_some hfind
      simp only [Bool.and_eq_true, decide_eq_true_eq, beq_iff_eq] at hin
      have hcode := mem_runCodes hin.1.1 hin.1.2 hin.2
      refine .inr ⟨List.mem_flatMap.2 ⟨_, hrun, hcode⟩, _, ?_, rfl⟩
      iterate 4 apply List.mem_cons_of_mem
      exact List.mem_flatMap.2 ⟨_, hrun, List.mem_map.2 ⟨_, hcode, rfl⟩⟩

theorem isNormal_of_not_mem_unsettled {c : Char} (h : c.toNat ∉ unsettled) : IsNormal c := by
  simp only [unsettled, List.cons_append, List.mem_cons, List.mem_append, List.mem_range'_1,
    List.not_mem_nil, or_false, not_or] at h
  have hblank : isBlank c = false := by
    simp only [isBlank, Bool.or_eq_false_iff, Bool.and_eq_false_iff, decide_eq_false_iff_not,
      beq_eq_false_iff_ne]
    omega
  by_cases hc : c.toNat < 0x80
  · refine isNormal_of_ascii hc hblank (dif_neg ?_)
    rintro ⟨hA, hZ⟩
    have hA : 65 ≤ c.toNat := UInt32.le_iff_toNat_le.1 hA
    have hZ : c.toNat ≤ 90 := UInt32.le_iff_toNat_le.1 hZ
    omega
  · obtain ⟨hdotted, ⟨⟨⟨⟨-, hcapital⟩, -⟩, -⟩, -⟩, -⟩ := h
    refine ⟨hblank, fun before later => ?_⟩
    rw [lowerInContext, if_neg, if_neg]
    · rcases lowerChar_cases (Nat.le_of_not_lt hc) with hsame | ⟨hmem, -⟩
      · rw [hsame]
      · exact absurd hmem hcapital
    · rintro rfl
      exact hdotted rfl
    · rintro rfl
      exact hcapital (by decide +kernel)

theorem isNormal_toLower : ∀ n < 0x80, isBlank (Char.ofNat n) = false →
    (Char.ofNat n).toLower.toNat < 0x80 ∧ isBlank (Char.ofNat n).toLower = false ∧
      (Char.ofNat n).toLower.toLower = (Char.ofNat n).toLower := by
  decide

/-- What lower-casing puts in the place of a character is normal. -/
theorem isNormal_of_mem_lowerInContext {before later : Text} {c x : Char}
    (hc : isBlank c = false) (hx : x ∈ lowerInContext before c later) : IsNormal x := by
  have hcode : ∀ {y : Char}, y.toNat ∈ smallForms → x = y → IsNormal x := by
    rintro y hy rfl
    exact isNormal_of_not_mem_unsettled (not_mem_of_bits bits_smallForms hy)
  rw [lowerInContext] at hx
  split at hx
  · split at hx
    · exact hcode (by simp [smallForms]) (List.mem_singleton.1 hx)
    · exact hcode (by simp [smallForms]) (List.mem_singleton.1 hx)
  · next hsigma =>
      split at hx
      · rcases List.mem_cons.1 hx with hx | hx
        · exact hcode (by simp [smallForms]) hx
        · exact hcode (by simp [smallForms]) (List.mem_singleton.1 hx)
      · next hdotted =>
          obtain rfl := List.mem_singleton.1 hx
          by_cases hascii : c.toNat < 0x80
          · obtain ⟨h₁, h₂, h₃⟩ := isNormal_toLower c.toNat hascii (by rw [Char.ofNat_toNat]; exact hc)
            rw [Char.ofNat_toNat] at h₁ h₂ h₃
            rw [lowerChar, if_pos hascii]
            exact isNormal_of_ascii h₁ h₂ h₃
          · rcases lowerChar_cases (Nat.le_of_not_lt hascii) with hsame | ⟨-, n, hn, hsmall⟩
            · rw [hsame]
              refine ⟨hc, fun before later => ?_⟩
              rw [lowerInContext, if_neg hsigma, if_neg hdotted, hsame]
            · rw [hsmall]
              by_cases hvalid : n.isValidChar
              · have htoNat : (Char.ofNat n).toNat = n := by
                  rw [Char.ofNat, dif_pos hvalid]
                  rfl
                apply isNormal_of_not_mem_unsettled
                rw [htoNat]
                exact not_mem_of_bits bits_smallForms hn
              · rw [Char.ofNat, dif_neg hvalid]
                exact isNormal_of_ascii (by decide) (by decide) (by decide)

theorem isNormal_of_mem_lowercased {s : Text} (h : ∀ c ∈ s, isBlank c = false) :
    ∀ x ∈ lowercased s, IsNormal x := by
  suffices ∀ before, ∀ x ∈ lowerAfter before s, IsNormal x from this []
  induction s with
  | nil => exact fun before x hx => absurd hx List.not_mem_nil
  | cons c s ih =>
      intro before x hx
      rcases List.mem_append.1 hx with hx | hx
      · exact isNormal_of_mem_lowerInContext (h c List.mem_cons_self) hx
      · exact ih (fun d hd => h d (List.mem_cons_of_mem c hd)) _ x hx

end Text

/-! ## Lines in normal form -/

theorem normalized_of_isNormal {s : Text} (h : ∀ c ∈ s, Text.IsNormal c) : normalized s = s := by
  rw [normalized, Text.squeezed_of_isNormal h, Text.lowercased_of_isNormal h]

theorem isNormal_of_mem_normalized {line : Text} {c : Char} (h : c ∈ normalized line) :
    Text.IsNormal c :=
  Text.isNormal_of_mem_lowercased (fun _ hd => Text.isBlank_of_mem_squeezed hd) c h

end Labyrinth
