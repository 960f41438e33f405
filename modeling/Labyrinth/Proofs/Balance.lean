import Labyrinth.Proofs.Pieces
import Labyrinth.Proofs.Reached

/-!
# Visited lines are continuous

A visit says by its arms where the line through a cell goes on. If a line goes on
into the neighbour, there must be a visit in the neighbour that comes back, and
since several lines may share a cell and a colour, what has to agree are numbers:
the visits of a colour at a cell that reach one side of it are as many as the
visits of that colour beyond that side that reach back.

One line is balanced in this sense because every arm in it belongs to a pair of
consecutive points, and each pair gives one arm to either point. `Line.towards`
counts the arm that one point owes to the next; the induction carries the arm that
the point before the rest of the line still owes. Drafts are balanced because a
statement adds whole lines or none, and a new size clears all visits at once.
-/

namespace Labyrinth

/-! ## One line -/

namespace Line

/-- How many pieces of a line at `c` reach the side in the direction of `m`. -/
def reaching (line : List (Coordinate × Shape)) (c : Coordinate) (m : Move) : Nat :=
  line.countP fun e => e.1 = c && e.2.arms.has m

/-- Whether the step from `origin` to `target` leaves `c` in the direction of `m`, as a number. -/
def towards (origin target c : Coordinate) (m : Move) : Nat :=
  if origin = c ∧ c.step m = target then 1 else 0

/-- The two ends of a step see it in opposite directions. -/
theorem towards_comm (origin target c : Coordinate) (m : Move) :
    towards origin target c m = towards target origin (c.step m) m.opposite := by
  unfold towards
  congr 1
  rw [Coordinate.step_step_opposite]
  exact propext ⟨fun ⟨h, h'⟩ => ⟨h'.symm, h.symm⟩, fun ⟨h, h'⟩ => ⟨h'.symm, h.symm⟩⟩

theorem reaching_cons (p : Coordinate) (s : Shape) (line : List (Coordinate × Shape))
    (c : Coordinate) (m : Move) :
    reaching ((p, s) :: line) c m =
      (if p = c ∧ s.arms.has m = true then 1 else 0) + reaching line c m := by
  unfold reaching
  rw [List.countP_cons, Nat.add_comm]
  simp only [Bool.and_eq_true, decide_eq_true_eq]

/-- The piece at an end has one arm, which the neighbour is owed. -/
theorem reaching_endShape {p neighbour : Coordinate} {s : Shape}
    (h : endShape p neighbour = .ok s) (c : Coordinate) (m : Move) :
    (if p = c ∧ s.arms.has m = true then 1 else 0) = towards p neighbour c m := by
  obtain ⟨-, hjoins⟩ := endShape_eq_ok_iff.1 h
  unfold towards
  congr 1
  refine propext (and_congr_right fun hp => ?_)
  rw [hjoins m, List.mem_singleton, hp]

/-- The piece between two neighbours has two arms, one for either. -/
theorem reaching_innerShape {previous p next : Coordinate} {s : Shape}
    (h : innerShape previous p next = .ok s) (c : Coordinate) (m : Move) :
    (if p = c ∧ s.arms.has m = true then 1 else 0) =
      towards p previous c m + towards p next c m := by
  obtain ⟨-, -, hne, hjoins⟩ := innerShape_eq_ok_iff.1 h
  unfold towards
  by_cases hp : p = c
  · subst hp
    -- The neighbours differ, so at most one of them is on the side that is counted.
    by_cases hm : p.step m = previous
    · simp [hjoins m, hm, hne]
    · simp [hjoins m, hm]
  · simp [hp]

/-- The rest of a line lacks exactly the arm that the point before it owes. -/
theorem reaching_shapesAfter {previous current : Coordinate} {rest : List Coordinate}
    {shapes : List Shape} (h : shapesAfter previous (current :: rest) = .ok shapes)
    (c : Coordinate) (m : Move) :
    towards previous current c m + reaching ((current :: rest).zip shapes) c m =
      towards previous current (c.step m) m.opposite +
        reaching ((current :: rest).zip shapes) (c.step m) m.opposite := by
  induction rest generalizing previous current shapes with
  | nil =>
      obtain ⟨s, hs, rfl⟩ := Outcome.map_eq_ok.1 h
      have hthere := towards_comm previous current c m
      have hback := towards_comm current previous c m
      rw [List.zip_cons_cons, reaching_cons, reaching_cons, reaching_endShape hs,
        reaching_endShape hs]
      simp only [List.zip_nil_left, reaching, List.countP_nil]
      omega
  | cons next rest ih =>
      obtain ⟨s, hs, h⟩ := Outcome.bind_eq_ok.1 h
      obtain ⟨more, hmore, h⟩ := Outcome.bind_eq_ok.1 h
      obtain rfl : s :: more = shapes := Except.ok.inj h
      have hrest := ih hmore
      have hthere := towards_comm previous current c m
      have hback := towards_comm current previous c m
      -- One arm pays what `previous` owes, and the other is what `current` owes in its turn.
      rw [List.zip_cons_cons, reaching_cons, reaching_cons, reaching_innerShape hs,
        reaching_innerShape hs]
      omega

/-- In a line, every arm is met by an arm. -/
theorem reaching_shapes {points : List Coordinate} {shapes : List Shape}
    (h : Line.shapes points = .ok shapes) (c : Coordinate) (m : Move) :
    reaching (points.zip shapes) c m = reaching (points.zip shapes) (c.step m) m.opposite := by
  match points with
  | [] => rfl
  | [_] => cases h
  | first :: second :: rest =>
      obtain ⟨s, hs, h⟩ := Outcome.bind_eq_ok.1 h
      obtain ⟨more, hmore, h⟩ := Outcome.bind_eq_ok.1 h
      obtain rfl : s :: more = shapes := Except.ok.inj h
      rw [List.zip_cons_cons, reaching_cons, reaching_cons, reaching_endShape hs,
        reaching_endShape hs]
      exact reaching_shapesAfter hmore c m

end Line

/-! ## All lines of a draft -/

namespace Description

/-- How many visits of a colour at `c` reach the side in the direction of `m`. A coordinate
outside the grid has none. -/
def passages (d : Description) (c : Coordinate) (m : Move) (color : Color) : Nat :=
  if d.grid.contains c then
    match d.visitsAt c with
    | .error _ => 0
    | .ok visits => visits.countP fun v => v.color = color && v.shape.arms.has m
  else 0

theorem passages_eq {d : Description} (hd : d.Framed) (c : Coordinate) (m : Move)
    (color : Color) :
    d.passages c m color =
      if d.grid.contains c then
        ((d.visits.cell? c.row.toNat c.col.toNat).getD #[]).countP
          fun v => v.color = color && v.shape.arms.has m
      else 0 := by
  unfold passages visitsAt
  split
  · next hc =>
      have hc := hd.visits.contains_congr hd.hasSides hc
      obtain ⟨visits, hvisits⟩ := Table.get_of_contains hd.visits.rectangular hc
      rw [hvisits, (Table.get_eq_ok_iff hd.visits.rectangular hc).1 hvisits]
      rfl
  · rfl

/-- The new visits of a line are those of its pieces. -/
theorem countP_lined {visits : Table (Array Visit)} {line : List (Coordinate × Shape)}
    (hline : ∀ e ∈ line, visits.contains e.1 = true) {height width : Nat}
    (hvisits : visits.HasSides height width) (drawn color : Color) {c : Coordinate}
    (hc : visits.contains c = true) (m : Move) :
    (((lined visits drawn line).cell? c.row.toNat c.col.toNat).getD #[]).countP
        (fun v => v.color = color && v.shape.arms.has m) =
      ((visits.cell? c.row.toNat c.col.toNat).getD #[]).countP
          (fun v => v.color = color && v.shape.arms.has m) +
        if drawn = color then Line.reaching line c m else 0 := by
  induction line generalizing visits with
  | nil => simp [lined, Line.reaching]
  | cons e line ih =>
      obtain ⟨p, s⟩ := e
      have hnext := hvisits.modifyCell p.row.toNat p.col.toNat fun vs => vs.push ⟨s, drawn⟩
      have hp := hline (p, s) List.mem_cons_self
      rw [lined, List.foldl_cons, ← lined, ih (fun e he => hnext.contains_congr hvisits
        (hline e (List.mem_cons_of_mem _ he))) hnext (hnext.contains_congr hvisits hc),
        Table.cell?_modifyCell, Line.reaching_cons]
      obtain ⟨hrow, -, hcol, -⟩ := Table.contains_iff.1 hc
      simp only [Table.toNat_eq_iff_of_contains hp hrow hcol]
      -- Only a piece at `c` adds a visit there, and the visit counts by its colour and arms.
      by_cases hpc : p = c
      · have hsome : ∃ vs, visits.cell? c.row.toNat c.col.toNat = some vs := by
          obtain ⟨vs, hvs⟩ := Table.get_of_contains hvisits.rectangular hc
          exact ⟨vs, (Table.get_eq_ok_iff hvisits.rectangular hc).1 hvs⟩
        obtain ⟨vs, hvs⟩ := hsome
        rw [hvs]
        by_cases hcolor : drawn = color
        · by_cases harm : s.arms.has m = true
          · simp [hpc, hcolor, harm]
            omega
          · simp [hpc, hcolor, harm]
        · simp [hpc, hcolor]
      · simp only [hpc, if_false, false_and, Nat.zero_add]

theorem reaching_eq_zero {line : List (Coordinate × Shape)} {c : Coordinate} {m : Move}
    (h : ∀ e ∈ line, e.1 ≠ c) : Line.reaching line c m = 0 := by
  refine List.countP_eq_zero.2 fun e he hand => h e he ?_
  rw [Bool.and_eq_true, decide_eq_true_eq] at hand
  exact hand.1

/-- Drawing a line adds the passages of the line. -/
theorem passages_lined {d : Description} (hd : d.Framed) {line : List (Coordinate × Shape)}
    (hline : ∀ e ∈ line, d.grid.contains e.1 = true) (drawn : Color) (c : Coordinate) (m : Move)
    (color : Color) :
    passages { d with visits := lined d.visits drawn line } c m color =
      d.passages c m color + if drawn = color then Line.reaching line c m else 0 := by
  have hafter : Framed { d with visits := lined d.visits drawn line } :=
    ⟨hd.grid, hasSides_lined hd.visits ..⟩
  rw [passages_eq hd, passages_eq hafter]
  by_cases hc : d.grid.contains c = true
  · simp only [hc, if_true]
    exact countP_lined (fun e he => hd.visits.contains_congr hd.hasSides (hline e he)) hd.visits
      drawn color (hd.visits.contains_congr hd.hasSides hc) m
  · have hzero : Line.reaching line c m = 0 :=
      reaching_eq_zero fun e he heq => hc (heq ▸ hline e he)
    simp only [hc, hzero, ite_self]
    rfl

theorem passages_congr {d e : Description} (hgrid : ∀ c, e.grid.contains c = d.grid.contains c)
    (hvisits : e.visits = d.visits) : e.passages = d.passages := by
  funext c m color
  simp only [passages, visitsAt, hgrid, hvisits]

theorem passages_resize (d : Description) (height width : Nat) (c : Coordinate) (m : Move)
    (color : Color) : (d.resize height width).passages c m color = 0 := by
  rw [passages_eq (framed_resize d height width)]
  have hcell : ((d.resize height width).visits.cell? c.row.toNat c.col.toNat).getD #[] = #[] := by
    cases hfound : (d.resize height width).visits.cell? c.row.toNat c.col.toNat with
    | none => rfl
    | some found => exact Table.eq_of_cell?_filled hfound
  rw [hcell, Array.countP_empty, ite_self]

/-- Every arm of every visit is met by an arm of the same colour. -/
def Balanced (d : Description) : Prop :=
  ∀ c m color, d.passages c m color = d.passages (c.step m) m.opposite color

theorem balanced_congr {d e : Description} (h : e.passages = d.passages) (hd : d.Balanced) :
    e.Balanced := by
  intro c m color
  rw [h]
  exact hd c m color

theorem balanced_resize (d : Description) (height width : Nat) :
    (d.resize height width).Balanced := by
  intro c m color
  rw [passages_resize, passages_resize]

theorem balanced_empty : ({} : Description).Balanced := by
  intro c m color
  have hzero : ∀ c m, ({} : Description).passages c m color = 0 := by
    intro c m
    exact passages_resize {} 0 0 c m color
  rw [hzero, hzero]

theorem balanced_lined {d : Description} (hd : d.Framed) (hbalanced : d.Balanced) {s : Segment}
    {shapes : List Shape} (hshapes : Line.shapes s.points = .ok shapes)
    (hin : ∀ c ∈ s.points, d.grid.contains c = true) :
    Balanced { d with visits := lined d.visits s.color (s.points.zip shapes) } := by
  intro c m color
  have hline : ∀ e ∈ s.points.zip shapes, d.grid.contains e.1 = true :=
    fun e he => hin e.1 (List.of_mem_zip he).1
  rw [passages_lined hd hline, passages_lined hd hline, hbalanced c m color,
    Line.reaching_shapes hshapes]

end Description

/-! ## All drafts -/

namespace Draft

theorem balanced_applySetting {d : Draft} (hd : d.description.Balanced) (number : Nat)
    (s : Setting) : (d.applySetting number s).description.Balanced := by
  rcases applySetting_cases d number s with ⟨height, width, rfl⟩ | ⟨m, c, rfl⟩ | ⟨change, h⟩
  · exact Description.balanced_resize _ height width
  · cases m <;> exact hd
  · rw [h]
    exact hd

/-- Writing the grid does not touch the visits. -/
theorem balanced_withGrid {d : Draft} (hd : d.description.Balanced) {g : Grid}
    (hg : g.HasSides d.grid.height d.grid.width) : (d.withGrid g).description.Balanced := by
  have hcontains : ∀ c, (d.withGrid g).description.grid.contains c = d.grid.contains c := by
    intro c
    rw [Table.contains, Table.contains, ← hg.height_eq, ← hg.width_eq]
    rfl
  exact Description.balanced_congr (Description.passages_congr hcontains rfl) hd

theorem balanced_of_carried {d d' : Draft} {number : Nat} {line : Text} {f : Option Fault}
    (hframed : d.description.Framed) (h : d.Carried number line d' f)
    (hd : d.description.Balanced) : d'.description.Balanced := by
  cases h with
  | refused _ => exact hd
  | setting _ => exact balanced_applySetting hd number _
  | row _ _ => exact balanced_withGrid hd (Grid.hasSides_withRow hframed.hasSides ..)
  | longRow _ _ => exact balanced_withGrid hd (Grid.hasSides_withRow hframed.hasSides ..)
  | path _ _ => exact balanced_withGrid hd (Grid.hasSides_opened hframed.hasSides _)
  | undrawn _ => exact hd
  | drawn _ _ hshapes hin => exact Description.balanced_lined hframed hd hshapes hin

end Draft

namespace Description

/-- In a balanced description, every arm of every visit is met by one of the same colour. -/
theorem Balanced.exists_opposite {d : Description} (hd : d.Balanced) {c : Coordinate} {m : Move}
    {visits : Array Visit} {v : Visit} (hc : d.grid.contains c = true)
    (hvisits : d.visitsAt c = .ok visits) (hv : v ∈ visits) (harm : v.shape.arms.has m = true) :
    d.grid.contains (c.step m) = true ∧ ∃ others, d.visitsAt (c.step m) = .ok others ∧
      ∃ w ∈ others, w.color = v.color ∧ w.shape.arms.has m.opposite = true := by
  have hpos : 0 < d.passages c m v.color := by
    rw [passages, if_pos hc, hvisits]
    refine Array.countP_pos_iff.2 ⟨v, hv, ?_⟩
    rw [harm, Bool.and_true, decide_eq_true_eq]
  rw [hd, passages] at hpos
  split at hpos
  · next hin =>
      refine ⟨hin, ?_⟩
      split at hpos
      · omega
      · next others hothers =>
          obtain ⟨w, hw, hand⟩ := Array.countP_pos_iff.1 hpos
          rw [Bool.and_eq_true, decide_eq_true_eq] at hand
          exact ⟨others, hothers, w, hw, hand⟩
  · omega

end Description

namespace Document

theorem balanced_of_reached {d : Draft} (h : Reached d) : d.description.Balanced :=
  (h.invariant (P := fun d => d.description.Balanced)
    Description.balanced_empty Draft.balanced_of_carried
    (fun hframed hd => Draft.balanced_withGrid hd (Grid.hasSides_opened hframed.hasSides _))).1

/-- In every draft that is reached, every arm of every visit is met by an arm of the same colour
in the next cell, which is inside the grid and has been visited. -/
theorem passages_balanced {d : Draft} (h : Reached d) :
    (∀ c m color, d.description.passages c m color =
      d.description.passages (c.step m) m.opposite color) ∧
    ∀ c m visits v, d.grid.contains c = true → d.description.visitsAt c = .ok visits →
      v ∈ visits → v.shape.arms.has m = true → d.grid.contains (c.step m) = true ∧
        ∃ others, d.description.visitsAt (c.step m) = .ok others ∧
          ∃ w ∈ others, w.color = v.color ∧ w.shape.arms.has m.opposite = true := by
  have hbalanced := balanced_of_reached h
  exact ⟨hbalanced, fun c m visits v hc hvisits hv harm =>
    hbalanced.exists_opposite hc hvisits hv harm⟩

theorem passages_balanced_at_crossing :
    ∃ d, Reached d ∧ d.description.passages ⟨1, 1⟩ .down .black = 1 ∧
      d.description.passages ⟨2, 1⟩ .up .black = 1 := by
  have hreached := Reached.ended (["[version:1.0]", "[size:3,3]",
    "vc:rgb(0:0:0),c(1,0)>c(1,1)>c(1,2)>c(0,2)>c(0,1)>c(1,1)>c(2,1);"].map String.toList)
  refine ⟨_, hreached, by decide +kernel, ?_⟩
  exact ((passages_balanced hreached).1 ⟨1, 1⟩ .down .black).symm.trans (by decide +kernel)

end Document

end Labyrinth
