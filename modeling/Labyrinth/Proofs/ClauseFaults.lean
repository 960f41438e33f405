import Labyrinth.Proofs.Clauses
import Labyrinth.Proofs.Refusals
import Mathlib.Algebra.Ring.Int.Defs

/-!
# Faults of move clauses

A clause is refused for the first token that cannot be expanded. Under a limit that is a word
itself, no count is ever found too large to be a word, and every refusal is one of the grammar
except for one: a numeral with more digits than can be read is refused as a numeral, before it
is compared with the limit, and so also where its value is small.

The other counts beyond the limit are refused as such, whatever comes after them in the clause.
-/

namespace Labyrinth

/-- Whether a fault is one of the grammar of clauses. The others are faults of a number: it cannot
be read, or it is no word. -/
def ClauseFault.isGrammatical : ClauseFault → Bool
  | longNumeral _ | tooManyCopies => false
  | _ => true

namespace Move.Clause

variable {clause count : Text} {limit : Option Int} {bound : Int} {position : Nat}

/-! ## One count -/

/-- Under a limit that is a word, only a numeral that is too long is no fault of the grammar. -/
theorem readCount_eq_error (hbound : bound ≤ Word.largest) {code : Char} {e : ClauseFault}
    (h : readCount clause (some bound) code count = .error e) :
    e.isGrammatical = true ∨ Numeral.isDigits count = true ∧
      Numeral.digitLimit < count.length ∧ e = .longNumeral ⟨count.length⟩ := by
  have hcopies : readCount clause (some bound) code count ≠ .error .tooManyCopies :=
    readCount_ne_tooManyCopies hbound code count
  unfold readCount at h hcopies
  split at h
  · next hdigits =>
      rw [if_pos hdigits] at hcopies
      split at h
      · next long hlong =>
          rw [Numeral.natural] at hlong
          split at hlong
          · next hlength =>
              cases hlong
              cases h
              exact .inr ⟨hdigits, hlength, rfl⟩
          · cases hlong
      · cases h
        exact .inl rfl
      · next hn =>
          simp only [hn] at hcopies
          dsimp only at h
          split at h
          · cases h
            exact .inl rfl
          · next hle =>
              rw [if_neg hle] at hcopies
              unfold readCount.copies at h hcopies
              split at h
              · cases h
              · next hword => exact absurd (if_neg hword) hcopies
  · cases h
    exact .inl rfl

theorem readCount_of_long (hdigits : Numeral.isDigits count = true)
    (hlong : Numeral.digitLimit < count.length) (code : Char) :
    readCount clause limit code count = .error (.longNumeral ⟨count.length⟩) := by
  rw [readCount, if_pos hdigits, Numeral.natural, if_pos hlong]

/-- A numeral that can be read is refused if its value is beyond the limit, and nothing but a zero
is refused as something else. -/
theorem readCount_of_over (hdigits : Numeral.isDigits count = true)
    (hshort : count.length ≤ Numeral.digitLimit)
    (hover : bound < (Nat.ofDigitChars 10 count 0 : Nat)) (code : Char) :
    readCount clause (some bound) code count = .error
      (if Nat.ofDigitChars 10 count 0 = 0 then .invalidCount count code clause
      else .countOverLimit count code bound) := by
  have hread := Numeral.natural_eq_ok_iff.2 ⟨hshort, rfl⟩
  rw [readCount, if_pos hdigits]
  split
  · next hn =>
      rw [hread] at hn
      cases hn
  · next hn =>
      rw [if_pos (Except.ok.inj (hread.symm.trans hn))]
  · next n hzero hn =>
      obtain rfl := Except.ok.inj (hread.symm.trans hn)
      dsimp only
      rw [if_pos hover, if_neg hzero]

/-! ## The first fault -/

/-- Where a count that is refused comes next behind tokens that are not, the expansion fails with
the count, whatever the rest of the clause is. -/
theorem expandFrom_of_refused {tokens : List Token} (hall : ∀ t ∈ tokens, t.Admissible limit)
    (hdigits : Numeral.isDigits count = true) {m : Move} {e : ClauseFault}
    (he : readCount clause limit m.code count = .error e) (later : Text) :
    expandFrom clause limit position
      (tokens.flatMap Token.text ++ ((Token.repeated m count).text ++ later)) = .error e := by
  induction tokens generalizing position with
  | nil =>
      simp only [List.flatMap_nil, Token.text, List.nil_append, List.cons_append, List.append_assoc]
      rw [expandFrom_counted hdigits, he]
      rfl
  | cons t tokens ih =>
      obtain ⟨ht, htokens⟩ := List.forall_mem_cons.1 hall
      have hnext : ∃ n rest, tokens.flatMap Token.text ++ ((Token.repeated m count).text ++ later) =
          Move.code n :: rest := by
        rcases flatMap_text_cases tokens with hnil | ⟨n, rest, hcons⟩
        · rw [hnil]
          exact ⟨m, _, rfl⟩
        · rw [hcons]
          exact ⟨n, _, rfl⟩
      obtain ⟨n, rest, hnext⟩ := hnext
      have hrest : ∀ position, expandFrom clause limit position (Move.code n :: rest) = .error e :=
        fun position => hnext ▸ ih htokens
      rw [List.flatMap_cons, List.append_assoc, hnext]
      cases t with
      | single m' =>
          rw [Token.text, List.singleton_append, expandFrom_code_code, hrest]
          rfl
      | repeated m' count' =>
          have hcount : IsCount limit count' := ht
          simp only [Token.text, List.cons_append, List.append_assoc, List.nil_append]
          rw [expandFrom_counted hcount.digits, hcount.readCount_eq, hrest]
          rfl

/-- A fault is one of the grammar, or a count is refused, or it is found behind a token. -/
theorem expandFrom_error_cases {body : Text} {e : ClauseFault}
    (h : expandFrom clause limit position body = .error e) :
    e.isGrammatical = true ∨
      (∃ (m : Move) (count later : Text), body = (Token.repeated m count).text ++ later ∧
        readCount clause limit m.code count = .error e) ∨
      ∃ (t : Token) (later : Text), t.Admissible limit ∧ body = t.text ++ later ∧
        expandFrom clause limit (position + t.text.length) later = .error e := by
  unfold expandFrom at h
  split at h
  · cases h
  · next code rest =>
      split at h
      · cases h
        exact .inl rfl
      · next m hcode =>
          obtain rfl := Move.ofCode?_eq_some_iff.1 hcode
          split at h
          · next inner =>
              split at h
              · cases h
                exact .inl rfl
              · next count later hcut =>
                  right
                  have hbody : m.code :: '(' :: inner = (Token.repeated m count).text ++ later := by
                    rw [Text.eq_append_of_cut? hcut]
                    simp [Token.text]
                  rcases Outcome.bind_eq_error.1 h with h | ⟨n, hn, h⟩
                  · exact .inl ⟨m, count, later, hbody, h⟩
                  · rcases Outcome.bind_eq_error.1 h with h | ⟨_, -, h⟩
                    · refine .inr ⟨.repeated m count, later, (isCount_of_readCount hn).1, hbody, ?_⟩
                      simpa [Token.text, Nat.add_assoc] using h
                    · cases h
          · cases h
          · next next later _ =>
              split at h
              · rcases Outcome.bind_eq_error.1 h with h | ⟨_, -, h⟩
                · exact .inr (.inr ⟨.single m, next :: later, trivial, rfl, h⟩)
                · cases h
              · cases h
                exact .inl rfl

/-- A fault that is none of the grammar is that of a count, and what stands before the count can be
expanded. -/
theorem exists_refused_of_expandFrom {body : Text} {e : ClauseFault}
    (h : expandFrom clause limit position body = .error e) (hgrammar : e.isGrammatical = false) :
    ∃ (tokens : List Token) (m : Move) (count later : Text), (∀ t ∈ tokens, t.Admissible limit) ∧
      body = tokens.flatMap Token.text ++ ((Token.repeated m count).text ++ later) ∧
      readCount clause limit m.code count = .error e := by
  -- each token is at least a code, so the text behind it is shorter
  induction hn : body.length using Nat.strongRecOn generalizing position body with
  | ind n ih =>
      rcases expandFrom_error_cases h with
        he | ⟨m, count, later, rfl, he⟩ | ⟨t, later, ht, rfl, hlater⟩
      · rw [hgrammar] at he
        cases he
      · exact ⟨[], m, count, later, fun t ht => absurd ht List.not_mem_nil, rfl, he⟩
      · have hshorter : later.length < n := by
          obtain ⟨m, rest, htext⟩ := t.exists_text_eq_code_cons
          rw [← hn, htext, List.length_append, List.length_cons]
          omega
        obtain ⟨tokens, m, count, last, hall, rfl, he⟩ := ih _ hshorter hlater rfl
        refine ⟨t :: tokens, m, count, last, List.forall_mem_cons.2 ⟨ht, hall⟩, ?_, he⟩
        rw [List.flatMap_cons, List.append_assoc]

/-! ## Clauses -/

/-- The expansion of a clause comes to a count: in small letters and without blanks, the clause has
nothing but tokens that can be expanded before the count. -/
def ComesTo (clause : Text) (limit : Option Int) (m : Move) (count : Text) : Prop :=
  Numeral.isDigits count = true ∧ ∃ (tokens : List Token) (later : Text),
    (∀ t ∈ tokens, t.Admissible limit) ∧ Text.lowercased (Text.squeezed clause) =
      tokens.flatMap Token.text ++ ((Token.repeated m count).text ++ later) ++ [';']

theorem ComesTo.expand_eq_error {m : Move} (h : ComesTo clause limit m count) {e : ClauseFault}
    (he : readCount clause limit m.code count = .error e) : expand clause limit = .error e := by
  obtain ⟨hdigits, tokens, later, hall, hclause⟩ := h
  rw [expand, hclause, Text.before?_append]
  exact expandFrom_of_refused hall hdigits he later

theorem exists_comesTo_of_expand (hbound : bound ≤ Word.largest) {e : ClauseFault}
    (h : expand clause (some bound) = .error e) (hgrammar : e.isGrammatical = false) :
    ∃ m count, ComesTo clause (some bound) m count ∧ Numeral.digitLimit < count.length ∧
      e = .longNumeral ⟨count.length⟩ := by
  unfold expand at h
  split at h
  · cases h
    cases hgrammar
  · next body hbody =>
      obtain ⟨tokens, m, count, later, hall, rfl, he⟩ := exists_refused_of_expandFrom h hgrammar
      rcases readCount_eq_error hbound he with he | ⟨hdigits, hlong, he⟩
      · rw [hgrammar] at he
        cases he
      · exact ⟨m, count, ⟨hdigits, tokens, later, hall, Text.eq_append_of_before? hbody⟩, hlong, he⟩

/-- Under a limit that is a word, a clause expands or is refused with a fault of the grammar, unless
the expansion comes to a numeral with more digits than can be read: then the numeral is refused, and
not the clause. Any other count beyond the limit that the expansion comes to is refused as such. -/
theorem expand_refusals (clause : Text) {bound : Int} (hbound : bound < 2 ^ 63) :
    (∀ e, expand clause (some bound) = .error e → e.isGrammatical = true ∨
      ∃ m count, ComesTo clause (some bound) m count ∧ Numeral.digitLimit < count.length ∧
        e = .longNumeral ⟨count.length⟩) ∧
    ∀ m count, ComesTo clause (some bound) m count →
      (Numeral.digitLimit < count.length →
        expand clause (some bound) = .error (.longNumeral ⟨count.length⟩)) ∧
      (count.length ≤ Numeral.digitLimit → bound < (Nat.ofDigitChars 10 count 0 : Nat) →
        expand clause (some bound) = .error
          (if Nat.ofDigitChars 10 count 0 = 0 then .invalidCount count m.code clause
          else .countOverLimit count m.code bound)) := by
  have hword : bound ≤ Word.largest := by
    unfold Word.largest
    omega
  refine ⟨fun e he => ?_, fun m count hcount => ⟨fun hlong => ?_, fun hshort hover => ?_⟩⟩
  · cases hgrammar : e.isGrammatical with
    | true => exact .inl rfl
    | false => exact .inr (exists_comesTo_of_expand hword he hgrammar)
  · exact hcount.expand_eq_error (readCount_of_long hcount.1 hlong m.code)
  · exact hcount.expand_eq_error (readCount_of_over hcount.1 hshort hover m.code)

/-- What stands behind the count does not matter. -/
theorem expand_refusals_of_fifty_one :
    (50 : Int) < 2 ^ 63 ∧ ComesTo " L U(7) d( 051) ?;".toList (some 50) .down "051".toList ∧
      expand " L U(7) d( 051) ?;".toList (some 50) =
        .error (.countOverLimit "051".toList 'd' 50) := by
  have hbound : (50 : Int) < 2 ^ 63 := by decide
  have hseven : IsCount (some 50) "7".toList :=
    ⟨by decide, by decide, by decide, fun b hb => by cases hb; decide, by decide⟩
  have hall : ∀ t ∈ [Token.single .left, .repeated .up "7".toList], t.Admissible (some 50) :=
    List.forall_mem_cons.2 ⟨trivial, List.forall_mem_singleton.2 hseven⟩
  have hcount : ComesTo " L U(7) d( 051) ?;".toList (some 50) .down "051".toList :=
    ⟨by decide, _, ['?'], hall, by decide +kernel⟩
  exact ⟨hbound, hcount, ((expand_refusals _ hbound).2 _ _ hcount).2 (by decide) (by decide)⟩

theorem comesTo_alone (hdigits : Numeral.isDigits count = true) (limit : Option Int) (m : Move) :
    ComesTo ((Token.repeated m count).text ++ [';']) limit m count := by
  have hnormal : ∀ c ∈ (Token.repeated m count).text ++ [';'], Text.IsNormal c := by
    intro c hc
    simp only [Token.text, List.mem_append, List.mem_cons, List.not_mem_nil, or_false] at hc
    rcases hc with (rfl | rfl | hc | rfl) | rfl
    · exact isNormal_code m
    · exact Text.isNormal_of_ascii (by decide) (by decide) (by decide)
    · exact Text.isNormal_of_isPlain (Numeral.isPlain_of_isDigits hdigits hc)
    · exact Text.isNormal_of_ascii (by decide) (by decide) (by decide)
    · exact Text.isNormal_of_ascii (by decide) (by decide) (by decide)
  refine ⟨hdigits, [], [], fun t ht => absurd ht List.not_mem_nil, ?_⟩
  rw [Text.squeezed_of_isNormal hnormal, Text.lowercased_of_isNormal hnormal, List.append_nil]
  rfl

/-- A count far beyond the limit, which is refused with no fault of the grammar: it has 4301
digits. -/
theorem expand_ungrammatical_of_nines :
    ∃ (clause count : Text) (e : ClauseFault), (50 : Int) < 2 ^ 63 ∧
      ComesTo clause (some 50) .down count ∧ (50 : Int) < (Nat.ofDigitChars 10 count 0 : Nat) ∧
      expand clause (some 50) = .error e ∧ e.isGrammatical = false := by
  let count := List.replicate 4301 '9'
  have hdigits : Numeral.isDigits count = true := by decide +kernel
  have hlong : Numeral.digitLimit < count.length := by
    rw [List.length_replicate]
    decide
  have hcount := comesTo_alone hdigits (some 50) .down
  exact ⟨_, count, _, by decide, hcount, by decide +kernel,
    hcount.expand_eq_error (readCount_of_long hdigits hlong _), rfl⟩

end Move.Clause

end Labyrinth
