import Labyrinth.Proofs.Composed
import Labyrinth.Proofs.NormalForms

/-!
# Replacing a line

A document is a loop over its lines, so what a line is worth is what it does to the draft that
the lines before it leave. `compileLines_append_cons` opens the loop at one line. A line that
does the same there can stand in its place, and a line does the same if it is understood as the
same action: what an action does depends on no more than the draft and, for a marker, on the
number of the line.
-/

namespace Labyrinth

namespace Document

/-- Lines in normal form can be put in the place of a line. -/
theorem exists_text_replaced {text line : Text} {before after rows : List Text}
    (hlines : Text.lines text = before ++ line :: after)
    (h : ∀ row ∈ rows, ∀ c ∈ row, Text.IsNormal c) :
    ∃ text', Text.lines text' = before ++ (rows ++ after) :=
  Text.exists_lines_replaced hlines fun row hrow c hc => (h row hrow c hc).not_lineBreak

theorem exists_of_checkHeader {line : Text} (h : checkHeader line = .ok ()) :
    ∃ s, normalized line = '[' :: s := by
  unfold checkHeader at h
  split at h
  · cases h
  · next hinner =>
      obtain ⟨s, hafter, -⟩ := Option.bind_eq_some_iff.1 hinner
      exact ⟨_, Text.eq_append_of_after? hafter⟩

/-- A line that begins like a statement on the grid is no header. -/
theorem checkHeader_ne_ok {line s : Text} {c : Char} (h : normalized line = c :: s) (hc : c ≠ '[') :
    checkHeader line ≠ .ok () := by
  intro hheader
  obtain ⟨t, ht⟩ := exists_of_checkHeader hheader
  rw [h] at ht
  exact hc (List.cons.inj ht).1

/-- These lines, a header first, have all been carried out. -/
def Passed (lines : List Text) : Prop :=
  ∃ header rest, lines = header :: rest ∧ checkHeader header = .ok () ∧
    Attempt.each carryOut {} (numbered rest) = .done (afterLines lines)

theorem reached_of_passed {lines : List Text} (h : Passed lines) : Reached (afterLines lines) := by
  obtain ⟨_, _, -, -, heach⟩ := h
  exact reached_of_done heach

/-- A document with a line in it that is no header ends well if the lines before pass, the line is
carried out after them, and all goes well from there. -/
theorem compileLines_append_cons {before after : List Text} {line : Text} {d : Draft}
    (hline : checkHeader line ≠ .ok ()) :
    compileLines (before ++ line :: after) = .done d ↔
      Passed before ∧ ∃ e m, carryOut (afterLines before) (line, before.length + 1) = .done e ∧
        Attempt.each carryOut e (after.zipIdx (before.length + 2)) = .done m ∧
        finish m = .done d := by
  constructor
  · intro h
    obtain ⟨header, rest, m, hlines, hheader, heach, hend⟩ := compileLines_eq_done.1 h
    cases before with
    | nil =>
        obtain ⟨rfl, rfl⟩ := List.cons.inj hlines
        exact absurd hheader hline
    | cons first before =>
        obtain ⟨rfl, rfl⟩ := List.cons.inj hlines
        obtain ⟨b, e, hbefore, hdone, hafter⟩ := each_numbered_split.1 heach
        have hb : afterLines (first :: before) = b := by
          rw [afterLines, body_of_header hheader, hbefore]
          rfl
        rw [hb]
        exact ⟨⟨first, before, rfl, hheader, by rw [hb]; exact hbefore⟩, e, m, hdone, hafter, hend⟩
  · rintro ⟨⟨header, rest, rfl, hheader, hbefore⟩, e, m, hdone, hafter, hend⟩
    exact compileLines_eq_done.2 ⟨header, _, m, rfl, hheader,
      each_numbered_split.2 ⟨_, e, hbefore, hdone, hafter⟩, hend⟩

/-- A line that does the same to the draft can take the place of another. -/
theorem compileLines_replaced {before after : List Text} {line line' : Text} {d : Draft}
    (hline : checkHeader line ≠ .ok ()) (hline' : checkHeader line' ≠ .ok ())
    (hsame : carryOut (afterLines before) (line', before.length + 1) =
      carryOut (afterLines before) (line, before.length + 1)) :
    compileLines (before ++ line' :: after) = .done d ↔
      compileLines (before ++ line :: after) = .done d := by
  rw [compileLines_append_cons hline, compileLines_append_cons hline', hsame]

end Document

end Labyrinth
