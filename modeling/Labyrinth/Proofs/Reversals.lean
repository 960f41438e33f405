import Labyrinth.Proofs.Pieces

/-!
# Two rules against turning back

A walk is checked while it is still a text: no move may be undone by the next. A trajectory is
checked when its line is worked out: between a move and its opposite there is no piece. One rule
compares letters, the other coordinates, and they are the same rule. The piece at point `k + 1` of
a walk lies between its moves `k` and `k + 1`, so the pair of moves that stops the check of the
text is the pair that stops the line, one place further on.
-/

namespace Labyrinth

namespace Move

/-- Move `i` of a walk is `m`, and it is the first that the next one undoes. -/
structure TurnsBack (moves : List Move) (i : Nat) (m : Move) : Prop where
  here : moves[i]? = some m
  back : moves[i + 1]? = some m.opposite
  before : GoesOn (moves.take (i + 1))

theorem exists_turnsBack {moves : List Move} (h : ¬ GoesOn moves) :
    ∃ i m, TurnsBack moves i m := by
  induction moves with
  | nil => exact absurd .nil h
  | cons m moves ih =>
      cases moves with
      | nil => exact absurd (.singleton m) h
      | cons n moves =>
          by_cases hn : n = m.opposite
          · exact ⟨0, m, rfl, by rw [hn]; rfl, .singleton m⟩
          · have hrest : ¬ GoesOn (n :: moves) := fun hrest =>
              h (List.isChain_cons_cons.2 ⟨hn, hrest⟩)
            obtain ⟨i, k, hhere, hback, hbefore⟩ := ih hrest
            exact ⟨i + 1, k, hhere, hback, List.isChain_cons_cons.2 ⟨hn, hbefore⟩⟩

theorem exists_spell {text : Text} (h : ∀ x ∈ text, x ∈ ['l', 'u', 'r', 'd']) :
    ∃ moves, text = spell moves := by
  induction text with
  | nil => exact ⟨[], rfl⟩
  | cons x text ih =>
      obtain ⟨moves, rfl⟩ := ih fun y hy => h y (List.mem_cons_of_mem x hy)
      have hx := h x List.mem_cons_self
      simp only [List.mem_cons, List.not_mem_nil, or_false] at hx
      rcases hx with rfl | rfl | rfl | rfl
      · exact ⟨.left :: moves, rfl⟩
      · exact ⟨.up :: moves, rfl⟩
      · exact ⟨.right :: moves, rfl⟩
      · exact ⟨.down :: moves, rfl⟩

theorem Walk.checkFrom_of_turnsBack {text : Text} {position : Nat} {moves : List Move} {i : Nat}
    {m : Move} (h : TurnsBack moves i m) :
    checkFrom text position (spell moves) =
      .error (.reversal (position + i) m.code m.opposite.code text) := by
  induction i generalizing moves position with
  | zero =>
      obtain ⟨hhere, hback, -⟩ := h
      match moves with
      | a :: b :: moves =>
          cases hhere
          cases hback
          rw [checkFrom_spell_cons_cons, if_pos rfl]
          rfl
  | succ i ih =>
      obtain ⟨hhere, hback, hbefore⟩ := h
      match moves with
      | a :: b :: moves =>
          obtain ⟨hne, hbefore⟩ := List.isChain_cons_cons.1 hbefore
          rw [checkFrom_spell_cons_cons, if_neg hne, ih ⟨hhere, hback, hbefore⟩,
            Nat.add_assoc, Nat.add_comm 1 i]

end Move

/-! ## The pieces along a walk -/

theorem Coordinate.exists_points_at (c : Coordinate) {moves : List Move} {k : Nat} {m : Move}
    (h : moves[k]? = some m) :
    ∃ p, (c.points moves)[k]? = some p ∧ (c.points moves)[k + 1]? = some (p.step m) := by
  induction moves generalizing c k with
  | nil => cases h
  | cons n moves ih =>
      rw [points_cons]
      cases k with
      | zero =>
          cases h
          obtain ⟨rest, hpoints⟩ := (c.step m).exists_points_eq_cons moves
          exact ⟨c, rfl, by rw [hpoints]; rfl⟩
      | succ k => exact ih (c.step n) h

namespace Line

theorem shapeAt_points_first (c : Coordinate) (m : Move) (moves : List Move) :
    shapeAt (c.points (m :: moves)) 0 = .ok (.halfLine m) := by
  have hm : (m :: moves)[0]? = some m := rfl
  obtain ⟨p, hp, hnext⟩ := c.exists_points_at hm
  rw [shapeAt_first hp hnext, endShape, direction_step]
  rfl

/-- The piece after a move lies between that move and the next. -/
theorem shapeAt_points_inner (c : Coordinate) {moves : List Move} {k : Nat} {m n : Move}
    (hm : moves[k]? = some m) (hn : moves[k + 1]? = some n) :
    shapeAt (c.points moves) (k + 1 : Nat) = bend m n := by
  obtain ⟨p, hp, hcurrent⟩ := c.exists_points_at hm
  obtain ⟨q, hq, hnext⟩ := c.exists_points_at hn
  rw [hcurrent] at hq
  cases hq
  rw [shapeAt_inner hp hcurrent hnext, innerShape_step]

/-- Up to the point where a walk turns back it has its pieces. -/
theorem exists_shapeAt_of_turnsBack (c : Coordinate) {moves : List Move} {i : Nat} {m : Move}
    (h : Move.TurnsBack moves i m) {j : Nat} (hj : j ≤ i) :
    ∃ s, shapeAt (c.points moves) j = .ok s := by
  have hi := (List.getElem?_eq_some_iff.1 h.back).1
  cases j with
  | zero =>
      match moves with
      | n :: moves => exact ⟨_, shapeAt_points_first c n moves⟩
  | succ k =>
      have hk : k + 1 < (moves.take (i + 1)).length := by
        rw [List.length_take]
        omega
      have hne := List.isChain_iff_getElem.1 h.before k hk
      rw [List.getElem_take, List.getElem_take] at hne
      obtain ⟨s, hs⟩ := exists_bend hne
      exact ⟨s, (shapeAt_points_inner c (List.getElem?_eq_getElem _)
        (List.getElem?_eq_getElem _)).trans hs⟩

theorem shapeAt_of_turnsBack (c : Coordinate) {moves : List Move} {i : Nat} {m : Move}
    (h : Move.TurnsBack moves i m) :
    shapeAt (c.points moves) (i + 1 : Nat) = .error (.reversal m m.opposite) := by
  rw [shapeAt_points_inner c h.here h.back, bend_opposite]

/-- A walk that turns back has no line, and is refused for the place where it turns. -/
theorem shapes_of_turnsBack (c : Coordinate) {moves : List Move} {i : Nat} {m : Move}
    (h : Move.TurnsBack moves i m) :
    Line.shapes (c.points moves) = .error (.reversal m m.opposite) := by
  have hi := (List.getElem?_eq_some_iff.1 h.back).1
  refine shapes_eq_error_iff.2 ⟨i + 1, ?_, shapeAt_of_turnsBack c h, fun j hj =>
    exists_shapeAt_of_turnsBack c h (Nat.le_of_lt_succ hj)⟩
  rw [Coordinate.length_points]
  omega

theorem exists_shapes_points_iff (c : Coordinate) {moves : List Move} (hne : moves ≠ []) :
    (∃ shapes, Line.shapes (c.points moves) = .ok shapes) ↔ Move.GoesOn moves := by
  refine ⟨fun ⟨shapes, h⟩ => ?_, exists_shapes c hne⟩
  by_contra hback
  obtain ⟨i, m, hturns⟩ := Move.exists_turnsBack hback
  rw [shapes_of_turnsBack c hturns] at h
  cases h

end Line

/-! ## The two rules -/

namespace Move.Walk

/-- A text of move codes passes the check exactly if its trajectory has a line, wherever it starts.
If not, both are refused for turning back and for the same pair of moves: the check for the first
place `i` whose move the next one undoes, and the line at point `i + 1`, the first without a
piece. -/
theorem check_agrees_with_line {text : Text} (hne : text ≠ [])
    (hcodes : ∀ x ∈ text, x ∈ ['l', 'u', 'r', 'd']) (c : Coordinate) :
    ∃ points, c.trajectory text = .ok points ∧
      (check text = .ok () ↔ ∃ shapes, Line.shapes points = .ok shapes) ∧
      (check text ≠ .ok () → ∃ i m,
        check text = .error (.reversal i m.code m.opposite.code text) ∧
        Line.shapes points = .error (.reversal m m.opposite) ∧
        (text[i]? = some m.code ∧ text[i + 1]? = some m.opposite.code ∧
          check (text.take (i + 1)) = .ok ()) ∧
        Line.shapeAt points (i + 1 : Nat) = .error (.reversal m m.opposite) ∧
          ∀ j ≤ i, ∃ s, Line.shapeAt points (j : Nat) = .ok s) := by
  obtain ⟨moves, rfl⟩ := exists_spell hcodes
  have hmoves : moves ≠ [] := fun h => hne (by rw [h]; rfl)
  have hcheck : check (spell moves) = .ok () ↔ GoesOn moves := checkFrom_spell_iff
  refine ⟨c.points moves, c.trajectory_spell moves, ?_, fun hfault => ?_⟩
  · rw [hcheck, Line.exists_shapes_points_iff c hmoves]
  · obtain ⟨i, m, hturns⟩ := exists_turnsBack (mt hcheck.2 hfault)
    refine ⟨i, m, ?_, Line.shapes_of_turnsBack c hturns, ⟨?_, ?_, ?_⟩,
      Line.shapeAt_of_turnsBack c hturns, fun j => Line.exists_shapeAt_of_turnsBack c hturns⟩
    · rw [check, checkFrom_of_turnsBack hturns, Nat.zero_add]
    · rw [spell, List.getElem?_map, hturns.here]
      rfl
    · rw [spell, List.getElem?_map, hturns.back]
      rfl
    · rw [spell, ← List.map_take]
      exact checkFrom_spell_iff.2 hturns.before

/-- The third move of a walk undoes the second. -/
theorem check_agrees_with_line_right_left :
    ∃ points, Coordinate.trajectory ⟨5, -1⟩ ['r', 'r', 'l', 'u'] = .ok points ∧
      check ['r', 'r', 'l', 'u'] = .error (.reversal 1 'r' 'l' ['r', 'r', 'l', 'u']) ∧
      Line.shapes points = .error (.reversal .right .left) ∧
      Line.shapeAt points 2 = .error (.reversal .right .left) ∧
      ∀ j ≤ 1, ∃ s, Line.shapeAt points (j : Nat) = .ok s := by
  have hcodes : ∀ x ∈ ['r', 'r', 'l', 'u'], x ∈ ['l', 'u', 'r', 'd'] := by simp
  have hcheck :
      check ['r', 'r', 'l', 'u'] = .error (.reversal 1 'r' 'l' ['r', 'r', 'l', 'u']) := by
    decide +kernel
  obtain ⟨points, hpoints, -, hfault⟩ :=
    check_agrees_with_line (List.cons_ne_nil _ _) hcodes ⟨5, -1⟩
  obtain ⟨i, m, hreversal, hshapes, -, hplace, hbefore⟩ :=
    hfault (by rw [hcheck]; exact fun h => nomatch h)
  rw [hcheck] at hreversal
  obtain ⟨rfl, hm, -⟩ := WalkFault.reversal.inj (Except.error.inj hreversal)
  obtain rfl : Move.right = m := code_injective hm
  exact ⟨points, hpoints, hcheck, hshapes, hplace, hbefore⟩

end Move.Walk

end Labyrinth
