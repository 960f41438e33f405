import Labyrinth.Document.Statement
import Labyrinth.Proofs.Outcomes

/-!
# What a line states

A line has a form, and read in that form it is a statement or refused. Both depend
on the line alone, so it can be said once and without any draft what a line states,
`Statement.ofLine?`. The form need not be remembered next to the statement: each
form is read as its own statements.
-/

namespace Labyrinth

namespace Statement

/-- The form a statement is read in. -/
def form : Statement → Form
  | .setting _ => .setting
  | .row .. => .row
  | .path .. => .path
  | .range .. => .range
  | .chain .. => .chain

open Outcome in
theorem exists_range_of_readRangeFields {numbers : List Text} {color : Except Reason Color}
    {s : Statement} (h : readRangeFields numbers color = .ok s) :
    ∃ id first last c, s = .range id first last c ∧ color = .ok c := by
  unfold readRangeFields at h
  simp only at h
  split at h
  · cases h
  · obtain ⟨c, hcolor, h⟩ := bind_eq_ok.1 h
    split at h
    · cases h
    · cases h
      exact ⟨_, _, _, c, rfl, hcolor⟩
  · cases h

/-- A range is drawn in the colour it names, or in light gray. -/
theorem exists_range_of_readRange {line : Text} {s : Statement} (h : readRange line = .ok s) :
    ∃ id first last c, s = .range id first last c ∧
      (c = .lightGray ∨ ∃ text, Color.parse text = .ok c) := by
  unfold readRange at h
  split at h
  · cases h
  · split at h
    · obtain ⟨_, _, _, c, rfl, hcolor⟩ := exists_range_of_readRangeFields h
      exact ⟨_, _, _, c, rfl, .inl (Except.ok.inj hcolor).symm⟩
    · obtain ⟨_, _, _, c, rfl, hcolor⟩ := exists_range_of_readRangeFields h
      exact ⟨_, _, _, c, rfl, .inr ⟨_, Outcome.mapError_eq_ok.1 hcolor⟩⟩
    · cases h

open Outcome in
theorem exists_chain_of_readChain {line : Text} {s : Statement} (h : readChain line = .ok s) :
    ∃ c points, s = .chain c points ∧ ∃ text, Color.parse text = .ok c := by
  unfold readChain at h
  split at h
  · cases h
  · obtain ⟨c, hcolor, h⟩ := bind_eq_ok.1 h
    obtain ⟨points, -, h⟩ := bind_eq_ok.1 h
    split at h
    · cases h
    · cases h
      exact ⟨c, points, rfl, _, mapError_eq_ok.1 hcolor⟩

open Outcome in
theorem form_of_read {line : Text} {f : Form} {s : Statement} (h : read line f = .ok s) :
    s.form = f := by
  cases f with
  | setting =>
      obtain ⟨_, -, rfl⟩ := map_eq_ok.1 h
      rfl
  | row =>
      rw [read, readRow] at h
      split at h
      · cases h
      · obtain ⟨_, -, rfl⟩ := map_eq_ok.1 h
        rfl
  | path =>
      rw [read, readPath] at h
      split at h
      · cases h
      · obtain ⟨_, -, rfl⟩ := map_eq_ok.1 h
        rfl
  | range =>
      obtain ⟨_, _, _, _, rfl, -⟩ := exists_range_of_readRange h
      rfl
  | chain =>
      obtain ⟨_, _, rfl, -⟩ := exists_chain_of_readChain h
      rfl

/-- What a line states, if it has a form and can be read in it. -/
def ofLine? (line : Text) : Option Statement :=
  (Form.of? line).bind fun form => (read line form).toOption

theorem ofLine?_of_read {line : Text} {f : Form} {s : Statement} (hform : Form.of? line = some f)
    (hread : read line f = .ok s) : ofLine? line = some s := by
  rw [ofLine?, hform, Option.bind_some, hread]
  rfl

theorem ofLine?_eq_some_iff {line : Text} {s : Statement} :
    ofLine? line = some s ↔ Form.of? line = some s.form ∧ read line s.form = .ok s := by
  constructor
  · intro h
    obtain ⟨form, hform, h⟩ := Option.bind_eq_some_iff.1 h
    cases hread : read line form with
    | error e =>
        rw [hread] at h
        cases h
    | ok t =>
        rw [hread] at h
        cases h
        rw [form_of_read hread]
        exact ⟨hform, hread⟩
  · intro h
    exact ofLine?_of_read h.1 h.2

theorem ofLine?_of_setting {line : Text} {s : Setting} (h : Setting.read line = .ok s) :
    ofLine? line = some (.setting s) := by
  have hform : Form.of? line = some .setting := by
    unfold Setting.read at h
    split at h
    · cases h
    · next hinner =>
        obtain ⟨_, hafter, -⟩ := Option.bind_eq_some_iff.1 hinner
        rw [Form.of?, hafter]
        rfl
  refine ofLine?_of_read hform ?_
  rw [read, h]
  rfl

end Statement

end Labyrinth
