import Labyrinth.Proofs.Representation
import Labyrinth.Proofs.Spellings

/-!
# Ranges are chains

A range of a path and the chain of the points that it passes are two ways to state the same
visits. Both are checked before anything is drawn, and each is checked for something of its own:
the numbers of a range must fit the path, the points of a chain must be neighbours. The
points of a range are neighbours because they are those of a walk, and they are in the grid
because the range was checked for that too, so the chain is accepted where the range was. It is
then understood as the very same action.
-/

namespace Labyrinth

namespace Coordinate

theorem step_isAdjacent (c : Coordinate) (m : Move) : (c.step m).isAdjacent c = true := by
  have h := c.isAdjacent_step m
  simp only [isAdjacent, beq_iff_eq] at h ⊢
  omega

/-- The points of a walk are neighbours, each of the one before it. -/
theorem isChain_points (c : Coordinate) (moves : List Move) :
    (c.points moves).IsChain fun a b => b.isAdjacent a = true := by
  induction moves generalizing c with
  | nil =>
      rw [points_nil]
      exact .singleton c
  | cons m moves ih =>
      have hrest := ih (c.step m)
      obtain ⟨rest, hpoints⟩ := (c.step m).exists_points_eq_cons moves
      rw [points_cons]
      rw [hpoints] at hrest ⊢
      exact List.isChain_cons_cons.2 ⟨c.step_isAdjacent m, hrest⟩

end Coordinate

namespace Draft

variable {d : Draft}

/-- Neighbouring points in the grid make a chain. -/
theorem checkChain_of_isChain {points : List Coordinate}
    (hin : ∀ c ∈ points, d.grid.contains c = true)
    (hchain : points.IsChain fun a b => b.isAdjacent a = true) :
    d.checkChain none points = .ok () := by
  have hrest : ∀ (previous : Coordinate) (points : List Coordinate),
      (∀ c ∈ points, d.grid.contains c = true) →
      (previous :: points).IsChain (fun a b => b.isAdjacent a = true) →
      d.checkChain (some previous) points = .ok () := by
    intro previous points
    induction points generalizing previous with
    | nil => exact fun _ _ => rfl
    | cons c points ih =>
        intro hin hchain
        obtain ⟨hadjacent, hchain⟩ := List.isChain_cons_cons.1 hchain
        have hc := hin c List.mem_cons_self
        rw [checkChain, hc, if_neg (by decide), if_pos hadjacent]
        exact ih c (fun x hx => hin x (List.mem_cons_of_mem c hx)) hchain
  cases points with
  | nil => rfl
  | cons c points =>
      rw [checkChain, hin c List.mem_cons_self]
      exact hrest c points (fun x hx => hin x (List.mem_cons_of_mem c hx)) hchain

end Draft

namespace Document

/-- The points that a range of a trajectory passes, from the one before its first move on. -/
def listed (points : List Coordinate) (first last : Int) : List Coordinate :=
  (points.take (last + 1).toNat).drop (max (first - 1) 0).toNat

theorem listed_points (c : Coordinate) (moves : List Move) (first last : Int) :
    listed (c.points moves) first last = c.stretch moves first last := by
  rw [listed, Coordinate.stretch, show (max (first - 1) 0).toNat = (first - 1).toNat by omega]

/-- A line that states a range and is understood names a path that the range fits. -/
theorem SpellsRange.exists_spans {line : Text} {id first last : Int} {tint : Option Text}
    (hline : SpellsRange line id first last tint) {d : Draft} (hd : Reached d) {action : Action}
    (h : d.understand (normalized line) = .ok action) :
    ∃ p moves color, d.Spans id first last p moves ∧ Statement.Tints tint color ∧ 0 ≤ first ∧
      action = .visit ⟨color, p.origin.stretch moves first last⟩ := by
  obtain ⟨s, hstated, hresolved⟩ := Draft.understand_eq_ok h
  obtain ⟨color, rfl, htint, hfirst, hle⟩ := hline.exists_tint hstated
  obtain ⟨p, moves, hspans, rfl⟩ := Draft.exists_spans (represented_of_reached hd).walks hle
    (Outcome.mapError_eq_ok.1 hresolved)
  exact ⟨p, moves, color, hspans, htint, hfirst, rfl⟩

/-- A range is a chain. In a document that compiles, a line that states a range of a path in some
colour can be replaced by the line that states, in this colour, the chain of the points that the
range passes, and the document comes to the same. -/
theorem compile_range_as_chain {text : Text} {d : Draft} {before after : List Text}
    {line tint : Text} {id first last : Int} (h : compile text = .done d)
    (hlines : Text.lines text = before ++ line :: after)
    (hline : SpellsRange line id first last (some tint)) :
    ∃ points, d.paths.trajectory id = .ok points ∧
      (∀ line' text', normalized line' = Statement.chainText tint (listed points first last) →
        Text.lines text' = before ++ line' :: after → compile text' = .done d) ∧
      ∃ line' text', normalized line' = Statement.chainText tint (listed points first last) ∧
        Text.lines text' = before ++ line' :: after := by
  rw [compile, hlines] at h
  obtain ⟨hpassed, e, m, hdone, -⟩ := (compileLines_append_cons hline.not_header).1 h
  have hreached := reached_of_passed hpassed
  obtain ⟨action, hunderstood⟩ := exists_understood_of_carryOut hline.ne_nil hdone
  obtain ⟨p, moves, color, hspans, htint, -, rfl⟩ := hline.exists_spans hreached hunderstood
  obtain ⟨-, hcolor⟩ : ',' ∉ tint ∧ Color.parse tint = .ok color := by
    cases htint with
    | named hsingle hread => exact ⟨hsingle, hread⟩
  have hnormal := hline.isNormal_of_mem_tint
  refine ⟨p.origin.points moves, ?_, ?_, ?_⟩
  · have hfinal : d.paths.get id = .ok p :=
      Leaves.get_of_get (List.prefix_append ..) .through (.of_done h) hspans.got
    exact Registry.trajectory_of_get hfinal hspans.trajectory_eq
  · intro line' text' hline' hlines'
    rw [listed_points] at hline'
    have hlegible : ∀ c ∈ p.origin.stretch moves first last, c.Legible := by
      obtain ⟨hheight, hwidth⟩ := sides_lt_of_reached hreached
      exact fun c hc => Coordinate.legible_of_contains hheight hwidth (hspans.inside c hc)
    have hstated' : Statement.ofLine? (normalized line') =
        some (.chain color (p.origin.stretch moves first last)) := by
      rw [hline']
      exact Statement.ofLine?_chainText hcolor hnormal hlegible hspans.two_le_length
    have hunderstood' : (afterLines before).understand (normalized line') =
        .ok (.visit ⟨color, p.origin.stretch moves first last⟩) := by
      have hchain : (afterLines before).checkChain none (p.origin.stretch moves first last) =
          .ok () :=
        Draft.checkChain_of_isChain hspans.inside (((p.origin.isChain_points moves).take _).drop _)
      rw [Draft.understand_of_stated hstated' hspans.height_ne_zero, Draft.resolve, hchain]
    rw [compile, hlines']
    apply (compileLines_replaced hline.not_header (checkHeader_ne_ok hline' (by decide)) ?_).2 h
    rw [carryOut_of_understand hunderstood', carryOut_of_understand hunderstood]
  · have hchain := Statement.isNormal_of_mem_chainText hnormal
      (listed (p.origin.points moves) first last)
    obtain ⟨text', htext'⟩ := exists_text_replaced hlines (List.forall_mem_singleton.2 hchain)
    exact ⟨_, text', normalized_of_isNormal hchain, htext'⟩

/-- A range from move 0 on, which comes back to where it started. -/
theorem compile_range_as_chain_around_a_square :
    ∃ d, compile "[version:1.0]\n[size:2,3]\nP1: c(0,0) r d l u r;\nV: P(1, 0, 04, RGB(1:2:03));".toList =
        .done d ∧
      compile ("[version:1.0]\n[size:2,3]\nP1: c(0,0) r d l u r;\n" ++
        "vc: rgb(1:2:03), c(0,0) > c(0,1) > c(1,1) > c(1,0) > c(0,0);").toList = .done d ∧
      d.description.visitedCells = 4 := by
  let text :=
    "[version:1.0]\n[size:2,3]\nP1: c(0,0) r d l u r;\nV: P(1, 0, 04, RGB(1:2:03));".toList
  let before := ["[version:1.0]", "[size:2,3]", "P1: c(0,0) r d l u r;"].map String.toList
  have h : compile text = .done (compile text).state :=
    Attempt.eq_done_iff.2 ⟨rfl, by decide +kernel⟩
  have hlines : Text.lines text = before ++ "V: P(1, 0, 04, RGB(1:2:03));".toList :: [] := by
    decide +kernel
  have hline : SpellsRange "V: P(1, 0, 04, RGB(1:2:03));".toList 1 0 4 (some "rgb(1:2:03)".toList) := by
    refine .spelled (a := "1".toList) (b := "0".toList) (c := "04".toList) ?_ ?_ ?_ ?_
    · decide +kernel
    · exact ⟨by decide, by decide⟩
    · exact ⟨by decide, by decide⟩
    · exact ⟨by decide, by decide⟩
  obtain ⟨points, hpoints, hreplaced, -⟩ := compile_range_as_chain h hlines hline
  obtain rfl : points = [⟨0, 0⟩, ⟨0, 1⟩, ⟨1, 1⟩, ⟨1, 0⟩, ⟨0, 0⟩, ⟨0, 1⟩] := by
    have htrajectory : (compile text).state.paths.trajectory 1 =
        .ok [⟨0, 0⟩, ⟨0, 1⟩, ⟨1, 1⟩, ⟨1, 0⟩, ⟨0, 0⟩, ⟨0, 1⟩] := by decide +kernel
    rw [htrajectory] at hpoints
    exact (Except.ok.inj hpoints).symm
  exact ⟨_, h, hreplaced
    "vc: rgb(1:2:03), c(0,0) > c(0,1) > c(1,1) > c(1,0) > c(0,0);".toList _ (by decide +kernel)
    (by decide +kernel), by decide +kernel⟩

end Document

end Labyrinth
