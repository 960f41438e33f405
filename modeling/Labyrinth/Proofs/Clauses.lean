import Labyrinth.Move.Clause
import Labyrinth.Proofs.NormalForms
import Labyrinth.Proofs.Spellings

/-!
# The grammar of move clauses

A clause in normal form is a row of tokens and a semicolon. A token is a code, alone or with
a count in parentheses, and it stands for its move as often as the count says. A clause is
expanded exactly if it has that form, and to the moves that its tokens stand for.

The expansion looks at the character after a code, so what it makes of a token seems to depend
on what follows. It does not, since what follows is nothing or another code: a semicolon in the
body is let pass after a code and then refused as a code itself.
-/

namespace Labyrinth

namespace Move.Clause

/-! ## Counts -/

/-- A numeral that a move may be repeated by, where `limit` bounds the count. -/
structure IsCount (limit : Option Int) (count : Text) : Prop where
  digits : Numeral.isDigits count = true
  short : count.length ≤ Numeral.digitLimit
  positive : 0 < Nat.ofDigitChars 10 count 0
  within : ∀ bound ∈ limit, (Nat.ofDigitChars 10 count 0 : Int) ≤ bound
  word : (Nat.ofDigitChars 10 count 0 : Int) ≤ Word.largest

theorem copies_eq_ok_iff {k n : Nat} :
    readCount.copies k = .ok n ↔ (k : Int) ≤ Word.largest ∧ k = n := by
  rw [readCount.copies, Outcome.ite_eq_ok, Word.holds_natCast]

theorem isCount_of_readCount {clause count : Text} {limit : Option Int} {code : Char} {n : Nat}
    (h : readCount clause limit code count = .ok n) :
    IsCount limit count ∧ n = Nat.ofDigitChars 10 count 0 := by
  unfold readCount at h
  split at h
  · next hdigits =>
      split at h
      · cases h
      · cases h
      · next k hzero hk =>
          obtain ⟨hshort, rfl⟩ := Numeral.natural_eq_ok_iff.1 hk
          have hpos : 0 < Nat.ofDigitChars 10 count 0 := Nat.pos_of_ne_zero hzero
          cases limit with
          | none =>
              obtain ⟨hword, rfl⟩ := copies_eq_ok_iff.1 h
              exact ⟨⟨hdigits, hshort, hpos, nofun, hword⟩, rfl⟩
          | some bound =>
              dsimp only at h
              split at h
              · cases h
              · next hle =>
                  obtain ⟨hword, rfl⟩ := copies_eq_ok_iff.1 h
                  refine ⟨⟨hdigits, hshort, hpos, fun b hb => ?_, hword⟩, rfl⟩
                  cases hb
                  exact Int.not_lt.1 hle
  · cases h

theorem IsCount.readCount_eq {count : Text} {limit : Option Int} (h : IsCount limit count)
    (clause : Text) (code : Char) :
    readCount clause limit code count = .ok (Nat.ofDigitChars 10 count 0) := by
  have hread := Numeral.natural_eq_ok_iff.2 ⟨h.short, rfl⟩
  have hcopies := copies_eq_ok_iff.2 ⟨h.word, rfl⟩
  unfold readCount
  rw [if_pos h.digits]
  split
  · next he =>
      rw [hread] at he
      cases he
  · next hzero =>
      have hpos := h.positive
      rw [Except.ok.inj (hread.symm.trans hzero)] at hpos
      exact absurd hpos (Nat.lt_irrefl 0)
  · next n _ hn =>
      obtain rfl := Except.ok.inj (hread.symm.trans hn)
      cases limit with
      | none => exact hcopies
      | some bound =>
          dsimp only
          rw [if_neg (Int.not_lt.2 (h.within bound rfl))]
          exact hcopies

/-! ## Tokens -/

/-- What a clause is made of: a code alone, or with a count in parentheses. -/
inductive Token where
  | single (m : Move)
  | repeated (m : Move) (count : Text)
  deriving DecidableEq, Repr

namespace Token

def text : Token → Text
  | single m => [m.code]
  | repeated m count => m.code :: '(' :: (count ++ [')'])

/-- The moves that a token stands for. -/
def moves : Token → List Move
  | single m => [m]
  | repeated m count => List.replicate (Nat.ofDigitChars 10 count 0) m

/-- Only a count can be at fault. -/
def Admissible (limit : Option Int) : Token → Prop
  | single _ => True
  | repeated _ count => IsCount limit count

theorem exists_text_eq_code_cons (t : Token) : ∃ m rest, t.text = Move.code m :: rest := by
  cases t with
  | single m => exact ⟨m, [], rfl⟩
  | repeated m count => exact ⟨m, _, rfl⟩

end Token

/-- What may follow a code in the body: the end, or another code. -/
theorem flatMap_text_cases (tokens : List Token) :
    tokens.flatMap Token.text = [] ∨ ∃ m rest, tokens.flatMap Token.text = Move.code m :: rest := by
  cases tokens with
  | nil => exact .inl rfl
  | cons t tokens =>
      obtain ⟨m, rest, ht⟩ := t.exists_text_eq_code_cons
      exact .inr ⟨m, rest ++ tokens.flatMap Token.text, by rw [List.flatMap_cons, ht]; rfl⟩

variable {clause : Text} {limit : Option Int} {position : Nat}

/-- An expansion that succeeds has read a token and goes on behind it, or is at the end. -/
theorem expandFrom_cases {body : Text} {moves : List Move}
    (h : expandFrom clause limit position body = .ok moves) :
    body = [] ∧ moves = [] ∨ ∃ (t : Token) (later : Text) (more : List Move),
      t.Admissible limit ∧ body = t.text ++ later ∧ moves = t.moves ++ more ∧
        expandFrom clause limit (position + t.text.length) later = .ok more := by
  unfold expandFrom at h
  split at h
  · exact .inl ⟨rfl, (Except.ok.inj h).symm⟩
  · next code rest =>
      refine .inr ?_
      split at h
      · cases h
      · next m hcode =>
          obtain rfl := Move.ofCode?_eq_some_iff.1 hcode
          split at h
          · split at h
            · cases h
            · next inner count later hcut =>
                obtain ⟨n, hn, h⟩ := Outcome.bind_eq_ok.1 h
                obtain ⟨more, hmore, h⟩ := Outcome.bind_eq_ok.1 h
                obtain ⟨hcount, rfl⟩ := isCount_of_readCount hn
                refine ⟨.repeated m count, later, more, hcount, ?_, (Except.ok.inj h).symm, ?_⟩
                · rw [Text.eq_append_of_cut? hcut]
                  simp [Token.text]
                · simpa [Token.text, Nat.add_assoc] using hmore
          · refine ⟨.single m, [], [], trivial, rfl, (Except.ok.inj h).symm, ?_⟩
            rw [expandFrom]
          · split at h
            · obtain ⟨more, hmore, h⟩ := Outcome.bind_eq_ok.1 h
              exact ⟨.single m, _, more, trivial, rfl, (Except.ok.inj h).symm, hmore⟩
            · cases h

/-- A code with another one behind it stands for its move. -/
theorem expandFrom_code_code (m n : Move) (rest : Text) :
    expandFrom clause limit position (m.code :: n.code :: rest) = (do
      let moves ← expandFrom clause limit (position + 1) (n.code :: rest)
      return m :: moves) := by
  have hcode : (Move.ofCode? n.code).isSome = true := by rw [Move.ofCode?_code]; rfl
  rw [expandFrom, Move.ofCode?_code]
  dsimp only
  split
  · next heq => cases n <;> cases heq
  · next heq => cases heq
  · next heq =>
      cases heq
      rw [if_pos (.inr hcode)]

/-- A code with a count behind it stands for its move as often as the count says. -/
theorem expandFrom_counted {count : Text} (hcount : Numeral.isDigits count = true) (m : Move)
    (later : Text) :
    expandFrom clause limit position (m.code :: '(' :: (count ++ ')' :: later)) = (do
      let n ← readCount clause limit m.code count
      let moves ← expandFrom clause limit (position + count.length + 3) later
      return List.replicate n m ++ moves) := by
  have hparen : ')' ∉ count := Numeral.not_mem_of_isDigits hcount (by decide)
  have hclose := Text.cut?_append hparen later
  rw [expandFrom, Move.ofCode?_code]
  dsimp only
  split
  · next heq =>
      cases heq
      split
      · next hcut =>
          rw [hclose] at hcut
          cases hcut
      · next hcut =>
          rw [hclose] at hcut
          cases hcut
          rfl
  · next heq => cases heq
  · next hne heq => exact absurd (List.cons.inj heq).1.symm hne

theorem expandFrom_single {m : Move} {later : Text} {more : List Move}
    (hlater : later = [] ∨ ∃ m rest, later = Move.code m :: rest)
    (h : expandFrom clause limit (position + 1) later = .ok more) :
    expandFrom clause limit position (m.code :: later) = .ok (m :: more) := by
  rcases hlater with rfl | ⟨n, rest, rfl⟩
  · rw [expandFrom] at h
    cases h
    rw [expandFrom, Move.ofCode?_code]
  · rw [expandFrom_code_code]
    exact Outcome.bind_eq_ok.2 ⟨more, h, rfl⟩

theorem expandFrom_repeated {m : Move} {count later : Text} {more : List Move}
    (hcount : IsCount limit count)
    (h : expandFrom clause limit (position + count.length + 3) later = .ok more) :
    expandFrom clause limit position (m.code :: '(' :: (count ++ ')' :: later)) =
      .ok (List.replicate (Nat.ofDigitChars 10 count 0) m ++ more) := by
  rw [expandFrom_counted hcount.digits]
  exact Outcome.bind_eq_ok.2 ⟨_, hcount.readCount_eq clause m.code,
    Outcome.bind_eq_ok.2 ⟨more, h, rfl⟩⟩

/-- The body of a clause expands if it is a row of tokens, to what they stand for. -/
theorem expandFrom_eq_ok_iff {body : Text} {moves : List Move} :
    expandFrom clause limit position body = .ok moves ↔ ∃ tokens : List Token,
      body = tokens.flatMap Token.text ∧ (∀ t ∈ tokens, t.Admissible limit) ∧
        moves = tokens.flatMap Token.moves := by
  constructor
  · intro h
    -- each token is at least a code, so the text behind it is shorter
    induction hn : body.length using Nat.strongRecOn generalizing position body moves with
    | ind n ih =>
        rcases expandFrom_cases h with ⟨rfl, rfl⟩ | ⟨t, later, more, ht, rfl, rfl, hmore⟩
        · exact ⟨[], rfl, nofun, rfl⟩
        · have hshorter : later.length < n := by
            obtain ⟨m, rest, htext⟩ := t.exists_text_eq_code_cons
            rw [← hn, htext, List.length_append, List.length_cons]
            omega
          obtain ⟨tokens, rfl, hall, rfl⟩ := ih _ hshorter hmore rfl
          exact ⟨t :: tokens, rfl, List.forall_mem_cons.2 ⟨ht, hall⟩, rfl⟩
  · rintro ⟨tokens, rfl, hall, rfl⟩
    induction tokens generalizing position with
    | nil =>
        rw [List.flatMap_nil, expandFrom]
        rfl
    | cons t tokens ih =>
        obtain ⟨ht, htokens⟩ := List.forall_mem_cons.1 hall
        cases t with
        | single m => exact expandFrom_single (flatMap_text_cases tokens) (ih htokens)
        | repeated m count =>
            rw [List.flatMap_cons, Token.text]
            simp only [List.cons_append, List.append_assoc]
            exact expandFrom_repeated ht (ih htokens)

theorem expand_eq_ok_iff {moves : List Move} :
    expand clause limit = .ok moves ↔ ∃ tokens : List Token,
      Text.lowercased (Text.squeezed clause) = tokens.flatMap Token.text ++ [';'] ∧
        (∀ t ∈ tokens, t.Admissible limit) ∧ moves = tokens.flatMap Token.moves := by
  unfold expand
  constructor
  · intro h
    split at h
    · cases h
    · next body hbody =>
        obtain ⟨tokens, rfl, hall, hmoves⟩ := expandFrom_eq_ok_iff.1 h
        exact ⟨tokens, Text.eq_append_of_before? hbody, hall, hmoves⟩
  · rintro ⟨tokens, hclause, hall, hmoves⟩
    rw [hclause, Text.before?_append]
    exact expandFrom_eq_ok_iff.2 ⟨tokens, rfl, hall, hmoves⟩

/-! ## Spelled moves -/

theorem isNormal_code (m : Move) : Text.IsNormal m.code := by
  cases m <;> exact Text.isNormal_of_ascii (by decide) (by decide) (by decide)

theorem flatMap_single (moves : List Move) :
    (moves.map Token.single).flatMap Token.text = spell moves ∧
      (moves.map Token.single).flatMap Token.moves = moves := by
  induction moves with
  | nil => exact ⟨rfl, rfl⟩
  | cons m moves ih =>
      exact ⟨congrArg (m.code :: ·) ih.1, congrArg (m :: ·) ih.2⟩

/-- Moves that are spelled one by one expand to themselves, whatever the limit on counts. -/
theorem expand_spell (moves : List Move) (limit : Option Int) :
    expand (spell moves ++ [';']) limit = .ok moves := by
  have hnormal : ∀ c ∈ spell moves ++ [';'], Text.IsNormal c := by
    intro c hc
    rcases List.mem_append.1 hc with hc | hc
    · obtain ⟨m, -, rfl⟩ := List.mem_map.1 hc
      exact isNormal_code m
    · rw [List.mem_singleton.1 hc]
      exact Text.isNormal_of_ascii (by decide) (by decide) (by decide)
  obtain ⟨htext, hmoves⟩ := flatMap_single moves
  refine expand_eq_ok_iff.2 ⟨moves.map .single, ?_, ?_, hmoves.symm⟩
  · rw [Text.squeezed_of_isNormal hnormal, Text.lowercased_of_isNormal hnormal, htext]
  · intro t ht
    obtain ⟨m, -, rfl⟩ := List.mem_map.1 ht
    trivial

/-- A clause expands exactly if, in small letters and without blanks, it is a row of tokens and
a final semicolon; the outcome is what the tokens stand for one after the other, and spelled out
it expands to itself. -/
theorem expand_grammar (clause : Text) (limit : Option Int) (moves : List Move) :
    (expand clause limit = .ok moves ↔ ∃ tokens : List Token,
      Text.lowercased (Text.squeezed clause) = tokens.flatMap Token.text ++ [';'] ∧
        (∀ t ∈ tokens, t.Admissible limit) ∧ moves = tokens.flatMap Token.moves) ∧
      ∀ other : Option Int, expand (spell moves ++ [';']) other = .ok moves :=
  ⟨expand_eq_ok_iff, expand_spell moves⟩

end Move.Clause

end Labyrinth
