import Labyrinth.Proofs.Reached
import Labyrinth.Proofs.RowStatements

/-!
# What a line that fails leaves behind

The checks of a statement come before its first write, so a line that is refused
has changed nothing. A walk that has no line is found out only when it is to be
drawn, but its shapes are all worked out before the first of them is added.

A row is the exception, because it writes its cells one by one and learns of the
last column on the way. What it leaves is what the same row would have written had
it ended there: the row that is too long and the row that is cut off agree up to
the last column, and a row that ends there does not fail.
-/

namespace Labyrinth

theorem Fault.ofLine_ne_rowTooLong (e : LineFault) (index : Nat) (last : Int) :
    ofLine e ≠ .reason (.rowTooLong index last) := by
  cases e with
  | misplaced _ => exact fun h => nomatch h
  | _ => exact fun h => nomatch h

namespace Draft

/-- While a row is only read and resolved, its cells are not counted. -/
theorem understand_ne_rowTooLong {d : Draft} {line : Text} (hform : Form.of? line = some .row)
    (index : Nat) (last : Int) :
    d.understand line ≠ .error (.reason (.rowTooLong index last)) := by
  intro h
  cases refused_of_understand h with
  | unread hformed hread =>
      rw [hform] at hformed
      cases hformed
      rw [Statement.read, Statement.readRow] at hread
      split at hread
      · cases hread
      · obtain ⟨_, -, heq⟩ := Outcome.mapError_eq_error.1 (Outcome.map_eq_error.1 hread)
        cases heq
  | @unresolved s _ hstated hresolved =>
      have hs := (Statement.ofLine?_eq_some_iff.1 hstated).1
      rw [hform] at hs
      cases s with
      | row i cells =>
          rw [resolve] at hresolved
          split at hresolved <;> cases hresolved
      | _ => cases hs

/-- A row cut to the width of the grid is carried out, and leaves what the whole row leaves. -/
theorem execute_row_cut {d : Draft} (hd : d.description.Framed) {digits : Text} {index : Nat}
    (hdigits : Numeral.isDigits digits = true) (hindex : Numeral.natural digits = .ok index)
    (hin : index < d.grid.height) (number : Nat) (cells : Text) :
    d.execute number (Statement.rowText digits (cells.take d.grid.width)) =
      .done (d.withGrid (d.grid.withRow index (cells.take d.grid.width).zipIdx)) := by
  have hunderstood := understand_of_row
    (Statement.ofLine?_rowText hdigits hindex (cells.take d.grid.width)) hin
  have hrest : (cells.take d.grid.width).drop d.grid.width = [] :=
    List.drop_eq_nil_of_le (List.length_take_le ..)
  simp only [execute, hunderstood]
  rw [perform_row hd hin, List.take_take, Nat.min_self, hrest]
  rfl

end Draft

namespace Document

/-- A line that fails leaves the draft as it was, unless it is a row with a cell beyond the last
column. Such a row leaves what the same row leaves when its cells are cut to the width. -/
theorem carryOut_failed {d : Draft} (hd : Reached d) {line : Text} {number : Nat} {stop : Stop}
    (hfault : (carryOut d (line, number)).fault = some stop) :
    (Form.of? (normalized line) ≠ some .row → (carryOut d (line, number)).state = d) ∧
      (Form.of? (normalized line) = some .row →
        ((∀ index last, stop.fault ≠ .reason (.rowTooLong index last)) →
          (carryOut d (line, number)).state = d) ∧
        ∀ index last, stop.fault = .reason (.rowTooLong index last) →
          ∃ digits cells, normalized line = Statement.rowText digits cells ∧
            Numeral.isDigits digits = true ∧ Numeral.natural digits = .ok index ∧
            d.execute number (Statement.rowText digits (cells.take d.grid.width)) =
              .done (carryOut d (line, number)).state) := by
  have hwritten : normalized line ≠ [] := by
    intro hblank
    rw [carryOut_of_blank hblank] at hfault
    cases hfault
  have hcarried := Draft.carried_of_execute hd.framed number (normalized line)
  rw [carryOut_of_statement hwritten] at hfault ⊢
  obtain ⟨f, hf, rfl⟩ := Option.map_eq_some_iff.1 hfault
  simp only [Attempt.mapFault]
  rw [hf] at hcarried
  -- Only a row that is too long leaves a draft other than `d`.
  generalize (d.execute number (normalized line)).state = after at hcarried ⊢
  cases hcarried with
  | refused hrefused =>
      refine ⟨fun _ => rfl, fun hform => ⟨fun _ => rfl, fun index last hlong => ?_⟩⟩
      rw [hlong] at hrefused
      exact absurd hrefused (Draft.understand_ne_rowTooLong hform index last)
  | longRow hstated hin =>
      obtain ⟨digits, hline, hdigits, hindex⟩ := Statement.exists_rowText_of_ofLine? hstated
      have hform := Statement.form_rowText hdigits
      rw [hline]
      refine ⟨fun hother => absurd (hform _) hother, fun _ => ⟨fun hshort => ?_, ?_⟩⟩
      · exact absurd rfl (hshort _ _)
      · intro index last hlong
        cases hlong
        exact ⟨digits, _, rfl, hdigits, hindex,
          Draft.execute_row_cut hd.framed hdigits hindex hin number _⟩
  | undrawn _ =>
      refine ⟨fun _ => rfl, fun _ => ⟨fun _ => rfl, fun index last hlong => ?_⟩⟩
      exact absurd hlong (Fault.ofLine_ne_rowTooLong _ index last)

/-- The third cell of a row of a grid with two columns is refused, the first two are written. -/
theorem carryOut_failed_long_row :
    ∃ (d : Draft) (line : Text) (stop : Stop) (index : Nat) (last : Int),
      Reached d ∧ (carryOut d (line, 4)).fault = some stop ∧
        Form.of? (normalized line) = some .row ∧ stop.fault = .reason (.rowTooLong index last) ∧
        ∃ digits cells, normalized line = Statement.rowText digits cells ∧
          d.execute 4 (Statement.rowText digits (cells.take d.grid.width)) =
            .done (carryOut d (line, 4)).state := by
  let d := (Attempt.each carryOut {} (numbered ["[size:2,2]".toList, "R1: p w;".toList])).state
  let line := "R1: w P p;".toList
  have hfault : (carryOut d (line, 4)).fault = some ⟨4, .reason (.rowTooLong 1 1)⟩ := by
    decide +kernel
  have hform : Form.of? (normalized line) = some .row := by decide +kernel
  obtain ⟨digits, cells, hline, -, -, hcut⟩ :=
    ((carryOut_failed (Reached.lines _) hfault).2 hform).2 1 1 rfl
  exact ⟨d, line, _, 1, 1, Reached.lines _, hfault, hform, rfl, digits, cells, hline, hcut⟩

end Document

end Labyrinth
