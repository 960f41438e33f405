import Labyrinth.Coordinate
import Labyrinth.Move.Walk
import Labyrinth.Proofs.Outcomes
import Labyrinth.Visit.Line
import Mathlib.Data.List.Chain

/-!
# Walks and their lines

A walk is written as a text of move codes, and a text that spells moves can be walked from
anywhere: its points are those of a left scan of the steps. So the library knows what
the first points of a walk are, what is left when some are dropped, and which point
stands where.

A walk in which no move undoes the one before has a line: two neighbours tell the move
between them, and the piece in a cell between two moves is missing only if the second
undoes the first.
-/

namespace Labyrinth

/-! ## Moves that do not turn back -/

namespace Move

theorem ofText_code (m : Move) : ofText [m.code] = .ok m := by
  simp only [ofText, ofCode?_code]

theorem lowercased_code (m : Move) : Text.lowercased [m.code] = [m.code] := by
  cases m <;> rfl

theorem oppositeCode_code (m : Move) : oppositeCode [m.code] = .ok m.opposite.code := by
  rw [oppositeCode, lowercased_code, ofText_code]
  rfl

/-- No move undoes the one before it. -/
def GoesOn (moves : List Move) : Prop :=
  moves.IsChain fun m n => n ≠ m.opposite

namespace Walk

theorem checkFrom_spell_cons_cons (text : Text) (position : Nat) (m n : Move) (moves : List Move) :
    checkFrom text position (spell (m :: n :: moves)) =
      if n = m.opposite then .error (.reversal position m.code n.code text)
      else checkFrom text (position + 1) (spell (n :: moves)) := by
  have hback : [m.opposite.code] = Text.lowercased [n.code] ↔ n = m.opposite := by
    rw [lowercased_code, List.singleton_inj]
    exact ⟨fun h => (code_injective h).symm, fun h => by rw [h]⟩
  simp only [spell, List.map_cons]
  rw [checkFrom, oppositeCode_code]
  simp only [hback]

/-- The check of a spelled walk succeeds exactly if no move undoes the one before it. -/
theorem checkFrom_spell_iff {text : Text} {position : Nat} {moves : List Move} :
    checkFrom text position (spell moves) = .ok () ↔ GoesOn moves := by
  induction moves generalizing position with
  | nil => exact ⟨fun _ => .nil, fun _ => rfl⟩
  | cons m moves ih =>
      cases moves with
      | nil => exact ⟨fun _ => .singleton m, fun _ => rfl⟩
      | cons n moves =>
          rw [checkFrom_spell_cons_cons, GoesOn, List.isChain_cons_cons, ← GoesOn, ← ih]
          split
          · next heq =>
              constructor
              · intro h
                cases h
              · exact fun h => absurd heq h.1
          · next hne => exact ⟨fun h => ⟨hne, h⟩, And.right⟩

/-- A text of move codes in which no move undoes the one before it. -/
def Sound (text : Text) : Prop :=
  ∃ moves, text = spell moves ∧ GoesOn moves

theorem parse_eq_ok_iff {clause text : Text} {limit : Option Int} :
    parse clause limit = .ok text ↔ ∃ moves, Clause.expand clause limit = .ok moves ∧
      GoesOn moves ∧ text = spell moves := by
  unfold parse
  constructor
  · intro h
    split at h
    · cases h
    · next moves hmoves =>
        split at h
        · cases h
        · next hcheck =>
            obtain rfl := Except.ok.inj h
            exact ⟨moves, hmoves, checkFrom_spell_iff.1 hcheck, rfl⟩
  · rintro ⟨moves, hmoves, hgoes, rfl⟩
    have hcheck : check (spell moves) = .ok () := checkFrom_spell_iff.2 hgoes
    simp only [hmoves, hcheck]

theorem sound_of_parse {clause text : Text} {limit : Option Int}
    (h : parse clause limit = .ok text) : Sound text := by
  obtain ⟨moves, -, hgoes, rfl⟩ := parse_eq_ok_iff.1 h
  exact ⟨moves, rfl, hgoes⟩

end Walk

end Move

/-! ## The points of a walk -/

namespace Coordinate

theorem step_step_opposite (c : Coordinate) (m : Move) : (c.step m).step m.opposite = c := by
  obtain ⟨row, col⟩ := c
  cases m <;> simp only [step, Move.opposite, Move.delta, mk.injEq] <;> omega

theorem step_left_injective {c : Coordinate} {m n : Move} (h : c.step m = c.step n) : m = n := by
  have hm : c.direction? (c.step m) = some m := direction?_eq_some_iff.2 rfl
  rw [h, direction?_eq_some_iff.2 rfl] at hm
  exact (Option.some.inj hm).symm

theorem step_eq_step_iff {c : Coordinate} {m n : Move} : c.step m = c.step n ↔ m = n :=
  ⟨step_left_injective, fun h => by rw [h]⟩

theorem step_step_eq_iff {c : Coordinate} {m n : Move} :
    (c.step m).step n = c ↔ n = m.opposite := by
  rw [← step_eq_step_iff, step_step_opposite]

/-- The points of a walk, the start first. -/
def points (c : Coordinate) (moves : List Move) : List Coordinate :=
  moves.scanl step c

theorem points_nil (c : Coordinate) : c.points [] = [c] :=
  List.scanl_nil

theorem points_cons (c : Coordinate) (m : Move) (moves : List Move) :
    c.points (m :: moves) = c :: (c.step m).points moves :=
  List.scanl_cons

theorem exists_points_eq_cons (c : Coordinate) (moves : List Move) :
    ∃ rest, c.points moves = c :: rest := by
  cases moves with
  | nil => exact ⟨[], points_nil c⟩
  | cons m moves => exact ⟨_, points_cons c m moves⟩

theorem trajectory_spell (c : Coordinate) (moves : List Move) :
    c.trajectory (Move.spell moves) = .ok (c.points moves) := by
  induction moves generalizing c with
  | nil => rw [points_nil]; rfl
  | cons m moves ih =>
      have hnext := ih (c.step m)
      simp only [Move.spell, List.map_cons] at hnext ⊢
      rw [trajectory, Move.ofText_code, points_cons]
      simp only [hnext]

theorem exists_eq_cons_of_trajectory {c : Coordinate} {s : Text} {points : List Coordinate}
    (h : c.trajectory s = .ok points) : ∃ rest, points = c :: rest := by
  cases s with
  | nil => exact ⟨[], (Except.ok.inj h).symm⟩
  | cons x s =>
      unfold trajectory at h
      split at h
      · cases h
      · split at h
        · cases h
        · next rest _ => exact ⟨rest, (Except.ok.inj h).symm⟩

theorem destination_spell (c : Coordinate) (moves : List Move) :
    c.destination (Move.spell moves) = moves.foldl step c := by
  induction moves generalizing c with
  | nil => rfl
  | cons m moves ih =>
      have hnext := ih (c.step m)
      simp only [Move.spell, List.map_cons] at hnext ⊢
      rw [destination, Move.ofCode?_code]
      exact hnext

theorem length_points (c : Coordinate) (moves : List Move) :
    (c.points moves).length = moves.length + 1 :=
  List.length_scanl

/-- Point `k` is where the first `k` moves lead. -/
theorem getElem?_points (c : Coordinate) {moves : List Move} {k : Nat} (h : k ≤ moves.length) :
    (c.points moves)[k]? = some (c.destination ((Move.spell moves).take k)) := by
  rw [points, List.getElem?_scanl, if_pos h, Move.spell, ← List.map_take, ← Move.spell,
    destination_spell]

theorem take_points (c : Coordinate) (moves : List Move) (k : Nat) :
    (c.points moves).take (k + 1) = c.points (moves.take k) :=
  List.take_scanl ..

/-- Without its first `k` points a walk is one that starts at point `k`. -/
theorem drop_points (c : Coordinate) {moves : List Move} {k : Nat} (h : k ≤ moves.length) :
    (c.points moves).drop k = ((moves.take k).foldl step c).points (moves.drop k) := by
  induction moves generalizing c k with
  | nil =>
      obtain rfl := Nat.le_zero.1 h
      rfl
  | cons m moves ih =>
      cases k with
      | zero => rfl
      | succ k =>
          rw [points_cons]
          exact ih (c.step m) (Nat.le_of_succ_le_succ h)

end Coordinate

/-! ## The line of a walk -/

namespace Line

theorem direction_eq_ok_iff {origin target : Coordinate} {m : Move} :
    direction origin target = .ok m ↔ origin.step m = target := by
  rw [← Coordinate.direction?_eq_some_iff, direction]
  cases origin.direction? target with
  | none =>
      constructor
      · intro h
        cases h
      · intro h
        cases h
  | some n => rw [Except.ok.injEq, Option.some.injEq]

theorem direction_step (c : Coordinate) (m : Move) : direction c (c.step m) = .ok m :=
  direction_eq_ok_iff.2 rfl

theorem direction_back (c : Coordinate) (m : Move) :
    direction (c.step m) c = .ok m.opposite :=
  direction_eq_ok_iff.2 (c.step_step_opposite m)

theorem innerShape_step (p : Coordinate) (m n : Move) :
    innerShape p (p.step m) ((p.step m).step n) = bend m n := by
  rw [innerShape, direction_step, direction_step]
  rfl

theorem bend_eq_ok_iff {m n : Move} {s : Shape} :
    bend m n = .ok s ↔ Shape.bend? m n = some s := by
  unfold bend
  cases Shape.bend? m n with
  | none =>
      constructor
      · intro h
        cases h
      · intro h
        cases h
  | some t => rw [Except.ok.injEq, Option.some.injEq]

theorem bend_opposite (m : Move) : bend m m.opposite = .error (.reversal m m.opposite) := by
  rw [bend, Shape.bend?_eq_none_iff.2 rfl]

theorem arms_halfLine (m : Move) : (Shape.halfLine m).arms = .ofMoves [m] := by
  cases m <;> rfl

/-- The last piece of the line of a walk only leads back. -/
theorem shapesAfter_points_nil (c : Coordinate) (m : Move) :
    shapesAfter c ((c.step m).points []) = .ok [Shape.halfLine m.opposite] := by
  rw [Coordinate.points_nil, shapesAfter, endShape, direction_back]
  rfl

theorem shapesAfter_points_cons (c : Coordinate) (m n : Move) (moves : List Move) :
    shapesAfter c ((c.step m).points (n :: moves)) = (do
      let s ← bend m n
      let more ← shapesAfter (c.step m) (((c.step m).step n).points moves)
      return s :: more) := by
  obtain ⟨rest, hpoints⟩ := ((c.step m).step n).exists_points_eq_cons moves
  rw [Coordinate.points_cons, hpoints, shapesAfter, innerShape_step]

theorem shapes_points_cons (c : Coordinate) (m : Move) (moves : List Move) :
    Line.shapes (c.points (m :: moves)) = (do
      let more ← shapesAfter c ((c.step m).points moves)
      return Shape.halfLine m :: more) := by
  obtain ⟨rest, hpoints⟩ := (c.step m).exists_points_eq_cons moves
  rw [Coordinate.points_cons, hpoints, shapes, endShape, direction_step]
  rfl

/-- Between two moves of which the second does not undo the first there is a piece of a line. -/
theorem exists_bend {m n : Move} (h : n ≠ m.opposite) : ∃ s, bend m n = .ok s := by
  obtain ⟨s, hs⟩ := Option.ne_none_iff_exists'.1 (mt Shape.bend?_eq_none_iff.1 h)
  exact ⟨s, bend_eq_ok_iff.2 hs⟩

theorem exists_shapesAfter (c : Coordinate) {m : Move} {moves : List Move}
    (h : Move.GoesOn (m :: moves)) :
    ∃ shapes, shapesAfter c ((c.step m).points moves) = .ok shapes := by
  induction moves generalizing c m with
  | nil => exact ⟨_, shapesAfter_points_nil c m⟩
  | cons n moves ih =>
      obtain ⟨hne, hrest⟩ := List.isChain_cons_cons.1 h
      obtain ⟨s, hs⟩ := exists_bend hne
      obtain ⟨more, hmore⟩ := ih (c.step m) hrest
      rw [shapesAfter_points_cons, hs, hmore]
      exact ⟨_, rfl⟩

/-- A walk with a move has a line if no move undoes the one before. -/
theorem exists_shapes (c : Coordinate) {moves : List Move} (hne : moves ≠ [])
    (h : Move.GoesOn moves) : ∃ shapes, Line.shapes (c.points moves) = .ok shapes := by
  obtain ⟨m, moves, rfl⟩ := List.exists_cons_of_ne_nil hne
  obtain ⟨more, hmore⟩ := exists_shapesAfter c h
  rw [shapes_points_cons, hmore]
  exact ⟨_, rfl⟩

end Line

end Labyrinth
