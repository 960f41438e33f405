import Mathlib.Algebra.Ring.Nat
import Labyrinth.Proofs.Reached

/-!
# Every refusal has a reason

A fault is a reason that can be reported, or a breakdown, which cannot. Two
breakdowns are written down in the compiler: a coordinate that names no cell, and
a repeat count that no word can hold. The first cannot occur because points are
checked before they are written, and the second because the limit on repeat
counts, which is the longer side of the grid, is itself a word.
-/

namespace Labyrinth

/-! ## Repeat counts -/

namespace Move.Clause

variable {clause : Text} {bound : Int}

theorem readCount_ne_tooManyCopies (hbound : bound ≤ Word.largest) (code : Char) (count : Text) :
    readCount clause (some bound) code count ≠ .error .tooManyCopies := by
  intro h
  unfold readCount at h
  split at h
  · split at h
    · cases h
    · cases h
    · next n _ _ =>
        simp only at h
        split at h
        · cases h
        · next hle =>
            have hword : Word.holds n = true := Word.holds_natCast.2 (by omega)
            rw [readCount.copies, if_pos hword] at h
            cases h
  · cases h

theorem expandFrom_ne_tooManyCopies (hbound : bound ≤ Word.largest) (position : Nat)
    (body : Text) : expandFrom clause (some bound) position body ≠ .error .tooManyCopies := by
  intro h
  induction hn : body.length using Nat.strongRecOn generalizing position body with
  | ind n ih =>
      unfold expandFrom at h
      split at h
      · cases h
      · split at h
        · cases h
        · split at h
          · split at h
            · cases h
            · next hcut =>
                have hlen := congrArg List.length (Text.eq_append_of_cut? hcut)
                simp only [List.length_append, List.length_cons] at hlen hn
                rcases Outcome.bind_eq_error.1 h with h | ⟨_, -, h⟩
                · exact readCount_ne_tooManyCopies hbound _ _ h
                · rcases Outcome.bind_eq_error.1 h with h | ⟨_, -, h⟩
                  · exact ih _ (by omega) _ _ h rfl
                  · cases h
          · cases h
          · split at h
            · rcases Outcome.bind_eq_error.1 h with h | ⟨_, -, h⟩
              · exact ih _ (by rw [← hn]; exact Nat.lt_succ_self _) _ _ h rfl
              · cases h
            · cases h

theorem expand_ne_tooManyCopies (hbound : bound ≤ Word.largest) :
    expand clause (some bound) ≠ .error .tooManyCopies := by
  intro h
  unfold expand at h
  split at h
  · cases h
  · exact expandFrom_ne_tooManyCopies hbound _ _ h

end Move.Clause

namespace Move.Walk

theorem checkFrom_ne_clause (moves : Text) (position : Nat) (rest : Text) (e : ClauseFault) :
    checkFrom moves position rest ≠ .error (.clause e) := by
  intro h
  induction rest generalizing position with
  | nil => cases h
  | cons first rest ih =>
      cases rest with
      | nil => cases h
      | cons second rest =>
          unfold checkFrom at h
          split at h
          · cases h
          · split at h
            · cases h
            · exact ih _ h

theorem parse_ne_tooManyCopies {clause : Text} {bound : Int} (hbound : bound ≤ Word.largest) :
    parse clause (some bound) ≠ .error (.clause .tooManyCopies) := by
  intro h
  unfold parse at h
  split at h
  · next e he =>
      cases h
      exact Clause.expand_ne_tooManyCopies hbound he
  · split at h
    · next he =>
        cases h
        exact checkFrom_ne_clause _ _ _ _ he
    · cases h

end Move.Walk

/-! ## Lines -/

namespace Line

theorem direction_ne_misplaced (origin target : Coordinate) (e : Misplaced) :
    direction origin target ≠ .error (.misplaced e) := by
  intro h
  unfold direction at h
  split at h <;> cases h

theorem endShape_ne_misplaced (last neighbour : Coordinate) (e : Misplaced) :
    endShape last neighbour ≠ .error (.misplaced e) := by
  intro h
  exact direction_ne_misplaced _ _ _ (Outcome.map_eq_error.1 h)

theorem innerShape_ne_misplaced (previous current next : Coordinate) (e : Misplaced) :
    innerShape previous current next ≠ .error (.misplaced e) := by
  intro h
  rcases Outcome.bind_eq_error.1 h with h | ⟨_, -, h⟩
  · exact direction_ne_misplaced _ _ _ h
  · rcases Outcome.bind_eq_error.1 h with h | ⟨_, -, h⟩
    · exact direction_ne_misplaced _ _ _ h
    · unfold bend at h
      split at h <;> cases h

theorem shapesAfter_ne_misplaced (previous : Coordinate) (rest : List Coordinate)
    (e : Misplaced) : shapesAfter previous rest ≠ .error (.misplaced e) := by
  intro h
  induction rest generalizing previous with
  | nil => cases h
  | cons current rest ih =>
      cases rest with
      | nil =>
          unfold shapesAfter at h
          exact endShape_ne_misplaced _ _ _ (Outcome.map_eq_error.1 h)
      | cons next rest =>
          rcases Outcome.bind_eq_error.1 h with h | ⟨_, -, h⟩
          · exact innerShape_ne_misplaced _ _ _ _ h
          · rcases Outcome.bind_eq_error.1 h with h | ⟨_, -, h⟩
            · exact ih _ h
            · cases h

/-- A whole line asks for no place that it does not have. -/
theorem shapes_ne_misplaced (points : List Coordinate) (e : Misplaced) :
    shapes points ≠ .error (.misplaced e) := by
  intro h
  match points with
  | [] => cases h
  | [_] => cases h
  | first :: second :: rest =>
      rcases Outcome.bind_eq_error.1 h with h | ⟨_, -, h⟩
      · exact endShape_ne_misplaced _ _ _ h
      · rcases Outcome.bind_eq_error.1 h with h | ⟨_, -, h⟩
        · exact shapesAfter_ne_misplaced _ _ _ h
        · cases h

end Line

/-! ## Statements -/

namespace Fault

/-- Whether a fault can be reported. -/
def IsReason (f : Fault) : Prop :=
  ∃ r, f = .reason r

theorem isReason_ofWalk {e : WalkFault} (h : e ≠ .clause .tooManyCopies) :
    (ofWalk e).IsReason := by
  unfold ofWalk
  split
  · exact absurd rfl h
  · exact ⟨_, rfl⟩

theorem isReason_ofLine {e : LineFault} (h : ∀ m, e ≠ .misplaced m) : (ofLine e).IsReason := by
  unfold ofLine
  split
  · exact absurd rfl (h _)
  · exact ⟨_, rfl⟩

end Fault

namespace Draft

/-- Both sides of the grid are words. -/
def Countable (d : Draft) : Prop :=
  d.grid.height < 2 ^ 63 ∧ d.grid.width < 2 ^ 63

theorem countable_empty : ({} : Draft).Countable :=
  ⟨Nat.two_pow_pos 63, Nat.two_pow_pos 63⟩

theorem countable_of_carried {d d' : Draft} {number : Nat} {line : Text} {f : Option Fault}
    (hframed : d.description.Framed) (h : d.Carried number line d' f) (hd : d.Countable)
    (hsize : ∀ height width, Setting.read line = .ok (.size height width) →
      height < 2 ^ 63 ∧ width < 2 ^ 63) : d'.Countable := by
  rcases sides_of_carried hframed h with ⟨hheight, hwidth⟩ | ⟨height, width, hread, rfl⟩
  · unfold Countable
    rw [hheight, hwidth]
    exact hd
  · obtain ⟨hh, hw⟩ := hsize height width hread
    obtain ⟨hheight, hwidth⟩ := Description.sides_resize d.description height width
    rw [← hheight] at hh
    exact ⟨hh, Nat.lt_of_le_of_lt hwidth hw⟩

theorem repeatLimit_le {d : Draft} (hd : d.Countable) : d.repeatLimit ≤ Word.largest := by
  obtain ⟨hh, hw⟩ := hd
  unfold repeatLimit Word.largest
  omega

open Outcome in
theorem isReason_of_resolvePath {d : Draft} {limit : Int} (hlimit : limit ≤ Word.largest)
    {id : Nat} {body : Text} {f : Fault} (h : d.resolvePath (some limit) id body = .error f) :
    f.IsReason := by
  unfold resolvePath at h
  split at h
  · exact ⟨_, (Except.error.inj h).symm⟩
  · rcases bind_eq_error.1 h with h | ⟨⟨origin, clause⟩, -, h⟩
    · obtain ⟨r, -, rfl⟩ := mapError_eq_error.1 h
      exact ⟨r, rfl⟩
    rcases bind_eq_error.1 h with h | ⟨start, -, h⟩
    · obtain ⟨r, -, rfl⟩ := mapError_eq_error.1 h
      exact ⟨r, rfl⟩
    rcases bind_eq_error.1 h with h | ⟨moves, -, h⟩
    · obtain ⟨e, he, rfl⟩ := mapError_eq_error.1 h
      refine Fault.isReason_ofWalk fun heq => ?_
      rw [heq] at he
      exact Move.Walk.parse_ne_tooManyCopies hlimit he
    rcases bind_eq_error.1 h with h | ⟨points, -, h⟩
    · obtain ⟨e, -, rfl⟩ := mapError_eq_error.1 h
      exact ⟨_, rfl⟩
    split at h
    · exact ⟨_, (Except.error.inj h).symm⟩
    · cases h

theorem isReason_of_resolve {d : Draft} (hd : d.Countable) {s : Statement} {f : Fault}
    (h : d.resolve s = .error f) : f.IsReason := by
  cases s with
  | setting s => cases h
  | row index cells =>
      rw [resolve] at h
      split at h
      · cases h
      · exact ⟨_, (Except.error.inj h).symm⟩
  | path id body => exact isReason_of_resolvePath (repeatLimit_le hd) h
  | range id first last color =>
      obtain ⟨r, -, rfl⟩ := Outcome.mapError_eq_error.1 h
      exact ⟨r, rfl⟩
  | chain color points =>
      rw [resolve] at h
      split at h
      · exact ⟨_, (Except.error.inj h).symm⟩
      · cases h

theorem isReason_of_understand {d : Draft} (hd : d.Countable) {line : Text} {f : Fault}
    (h : d.understand line = .error f) : f.IsReason := by
  cases refused_of_understand h with
  | unresolved _ hresolved => exact isReason_of_resolve hd hresolved
  | _ => exact ⟨_, rfl⟩

theorem isReason_of_carried {d d' : Draft} {number : Nat} {line : Text} {f : Fault}
    (hd : d.Countable) (h : d.Carried number line d' (some f)) : f.IsReason := by
  cases h with
  | refused h => exact isReason_of_understand hd h
  | longRow _ _ => exact ⟨_, rfl⟩
  | undrawn h =>
      refine Fault.isReason_ofLine fun m heq => ?_
      rw [heq] at h
      exact Line.shapes_ne_misplaced _ _ h

end Draft

end Labyrinth
