import Labyrinth.Proofs.Pieces
import Labyrinth.Proofs.Writes

/-!
# Segments that fail

A segment is annotated in two rounds. First the shapes along its whole line are worked out, and a
fault there leaves the description as it was. Then a visit is added at one point after the other,
each to the cell that the point names, where a negative number counts from the end. The second
round stops at the first point that names no cell, and what it has added by then stays.

So a segment that fails has changed nothing exactly if it has no line or if its very first point
names no cell. Nothing else can go wrong, which is why the compiler, having checked that all points
are inside the grid, annotates a segment wholly or not at all.
-/

namespace Labyrinth

/-! ## Places in a table -/

theorem position?_lt {size i : Nat} {index : Int} (h : position? size index = some i) :
    i < size := by
  unfold position? at h
  generalize (if index < 0 then index + size else index) = place at h
  dsimp only at h
  split at h
  · next hplace =>
      obtain rfl := Option.some.inj h
      exact (Int.toNat_lt hplace.1).2 hplace.2
  · cases h

namespace Table

variable {α : Type}

/-- Where a coordinate leads is a matter of the lengths of the rows, not of what is in the cells. -/
theorem locate_modifyCell (t : Table α) (row col : Nat) (change : α → α) (c : Coordinate)
    (absent : Misplaced) : (t.modifyCell row col change).locate c absent = t.locate c absent := by
  have hsize : ∀ i, ((t.modifyCell row col change).rows.getD i #[]).size =
      (t.rows.getD i #[]).size := by
    intro i
    simp only [modifyCell, Array.getD_eq_getD_getElem?, Array.getElem?_modify]
    split <;> cases t.rows[i]? <;> simp
  have hrows : (t.modifyCell row col change).rows.size = t.rows.size := Array.size_modify ..
  unfold locate
  rw [hrows]
  split
  · rfl
  · rw [hsize]

theorem isSome_cell?_of_locate {t : Table α} {c : Coordinate} {absent : Misplaced} {row col : Nat}
    (h : t.locate c absent = .ok (row, col)) : (t.cell? row col).isSome = true := by
  unfold locate at h
  split at h
  · cases h
  · split at h
    · cases h
    · next hcol =>
        cases h
        rw [cell?, isSome_getElem?]
        exact position?_lt hcol

end Table

/-- The visits after the cells in some places have received one more each, in this order. -/
def pushed (visits : Table (Array Visit)) (color : Color) (line : List ((Nat × Nat) × Shape)) :
    Table (Array Visit) :=
  line.foldl (fun t e => t.modifyCell e.1.1 e.1.2 fun vs => vs.push ⟨e.2, color⟩) visits

/-- A cell receives one visit for each time that its place comes up. -/
theorem cell?_pushed (visits : Table (Array Visit)) (color : Color)
    (line : List ((Nat × Nat) × Shape)) (row col : Nat) :
    (pushed visits color line).cell? row col = (visits.cell? row col).map fun vs =>
      vs ++ ((line.filter fun e => e.1 = (row, col)).map fun e => ⟨e.2, color⟩).toArray := by
  induction line generalizing visits with
  | nil => simp [pushed]
  | cons e line ih =>
      obtain ⟨⟨i, j⟩, s⟩ := e
      rw [pushed, List.foldl_cons, ← pushed, ih, Table.cell?_modifyCell]
      by_cases hplace : i = row ∧ j = col
      · obtain ⟨rfl, rfl⟩ := hplace
        cases visits.cell? i j <;> simp
      · have hne : (i, j) ≠ (row, col) := fun heq => hplace (Prod.mk.inj heq)
        rw [if_neg hplace, List.filter_cons_of_neg (by simpa using hne)]

/-! ## Adding a line point by point -/

namespace Description

/-- A line is added to its end, or up to the first of its points that names no cell. -/
theorem addLine_cases (d : Description) (color : Color) {points : List Coordinate}
    {shapes : List Shape} (hlength : shapes.length = points.length) :
    (∃ places, points.mapM (fun c => d.visits.locate c .unreadable) = .ok places ∧
      d.addLine color (points.zip shapes) =
        .done { d with visits := pushed d.visits color (places.zip shapes) }) ∨
      ∃ before c after places m, points = before ++ c :: after ∧
        before.mapM (fun c => d.visits.locate c .unreadable) = .ok places ∧
        d.visits.locate c .unreadable = .error m ∧
        d.addLine color (points.zip shapes) =
          .failed { d with visits := pushed d.visits color (places.zip shapes) } m := by
  induction points generalizing d shapes with
  | nil => exact .inl ⟨[], rfl, rfl⟩
  | cons c points ih =>
      obtain ⟨s, shapes, rfl⟩ := List.exists_cons_of_length_eq_add_one hlength
      rw [List.zip_cons_cons, addLine, Attempt.each]
      cases hc : d.visits.locate c .unreadable with
      | error m =>
          refine .inr ⟨[], c, points, [], m, rfl, rfl, hc, ?_⟩
          simp only [addVisit, hc]
          rfl
      | ok place =>
          let d' : Description := { d with
            visits := d.visits.modifyCell place.1 place.2 fun vs => vs.push ⟨s, color⟩ }
          have hlocate : ∀ p, d'.visits.locate p .unreadable = d.visits.locate p .unreadable :=
            fun p => Table.locate_modifyCell ..
          have hadded : d.addVisit c ⟨s, color⟩ = .done d' := by
            simp only [addVisit, hc]
            rfl
          simp only [hadded]
          have hrest := ih d' (Nat.succ.inj hlength)
          simp only [hlocate] at hrest
          rcases hrest with ⟨places, hplaces, hdone⟩ |
            ⟨before, p, after, places, m, rfl, hplaces, hp, hfailed⟩
          · refine .inl ⟨place :: places, ?_, hdone⟩
            rw [List.mapM_cons, hc, hplaces]
            rfl
          · refine .inr ⟨c :: before, p, after, place :: places, m, rfl, ?_, hp, hfailed⟩
            rw [List.mapM_cons, hc, hplaces]
            rfl

/-- How annotating a segment can fail, and what it leaves behind: the description as it was if the
segment has no line, and the visits of the points before the first one that names no cell. -/
inductive Fails (d : Description) (s : Segment) : LineFault → Description → Prop
  | undrawn {e : LineFault} (unshaped : Line.shapes s.points = .error e) : Fails d s e d
  | misplaced {shapes : List Shape} {before after : List Coordinate} {c : Coordinate}
      {places : List (Nat × Nat)} {m : Misplaced} (shaped : Line.shapes s.points = .ok shapes)
      (split : s.points = before ++ c :: after)
      (named : before.mapM (fun p => d.visits.locate p .unreadable) = .ok places)
      (absent : d.visits.locate c .unreadable = .error m) :
      Fails d s (.misplaced m) { d with visits := pushed d.visits s.color (places.zip shapes) }

theorem fails_of_annotate {d : Description} {s : Segment} {e : LineFault}
    (h : (d.annotate s).fault = some e) : d.Fails s e (d.annotate s).state := by
  unfold annotate at h ⊢
  cases hshapes : Line.shapes s.points with
  | error e' =>
      rw [hshapes] at h
      cases h
      exact .undrawn hshapes
  | ok shapes =>
      rw [hshapes] at h
      dsimp only at h ⊢
      have hlength := (Line.shapes_eq_ok_iff_shapeAt.1 hshapes).1
      rcases d.addLine_cases s.color hlength with
        ⟨places, -, hdone⟩ | ⟨before, c, after, places, m, hsplit, hnamed, habsent, hfailed⟩
      · rw [hdone] at h
        cases h
      · rw [hfailed] at h ⊢
        cases h
        exact .misplaced hshapes hsplit hnamed habsent

/-- A visit more is a change. -/
theorem pushed_cons_ne {visits : Table (Array Visit)} {row col : Nat} {color : Color} {s : Shape}
    (h : (visits.cell? row col).isSome = true) (line : List ((Nat × Nat) × Shape)) :
    pushed visits color (((row, col), s) :: line) ≠ visits := by
  intro heq
  obtain ⟨vs, hvs⟩ := Option.isSome_iff_exists.1 h
  have hcell := cell?_pushed visits color (((row, col), s) :: line) row col
  rw [heq, hvs, Option.map_some, Option.some.injEq] at hcell
  have hsize := congrArg Array.size hcell
  simp at hsize

/-- A segment that fails leaves the visits of its points before the first one that names no cell. It
leaves the description as it was exactly if it has no line or if that point is its first. -/
theorem annotate_failed {d : Description} {s : Segment} {e : LineFault}
    (h : (d.annotate s).fault = some e) :
    d.Fails s e (d.annotate s).state ∧
      ((d.annotate s).state = d ↔ Line.shapes s.points = .error e ∨
        ∃ c rest m, s.points = c :: rest ∧ d.visits.locate c .unreadable = .error m) := by
  have hfails := fails_of_annotate h
  refine ⟨hfails, ?_⟩
  generalize (d.annotate s).state = after at hfails ⊢
  cases hfails with
  | undrawn hunshaped => exact ⟨fun _ => .inl hunshaped, fun _ => rfl⟩
  | @misplaced shapes before later c places m hshaped hsplit hnamed habsent =>
      cases before with
      | nil =>
          cases hnamed
          exact ⟨fun _ => .inr ⟨c, later, m, hsplit, habsent⟩, fun _ => rfl⟩
      | cons p before =>
          rw [List.mapM_cons] at hnamed
          obtain ⟨⟨row, col⟩, hp, hnamed⟩ := Outcome.bind_eq_ok.1 hnamed
          obtain ⟨places', -, hnamed⟩ := Outcome.bind_eq_ok.1 hnamed
          cases hnamed
          have hlength := (Line.shapes_eq_ok_iff_shapeAt.1 hshaped).1
          rw [hsplit] at hlength
          obtain ⟨shape, shapes, rfl⟩ := List.exists_cons_of_length_eq_add_one hlength
          constructor
          · intro heq
            have hvisits := congrArg Description.visits heq
            exact absurd hvisits (pushed_cons_ne (Table.isSome_cell?_of_locate hp) _)
          · rintro (hunshaped | ⟨c', rest, m', hfirst, habsent'⟩)
            · rw [hshaped] at hunshaped
              cases hunshaped
            · -- the first point names a cell
              rw [hsplit] at hfirst
              cases hfirst
              rw [hp] at habsent'
              cases habsent'

/-- The way up a column and beyond its last cell is lost, but the three points before that are in
the two cells, the first of them under another number. -/
theorem annotate_failed_of_overrun :
    let d : Description := ({} : Description).resize 2 1
    let s : Segment := ⟨⟨255, 0, 0⟩, [⟨-1, 0⟩, ⟨0, 0⟩, ⟨1, 0⟩, ⟨2, 0⟩]⟩
    (d.annotate s).fault = some (.misplaced .unreadable) ∧
      d.Fails s (.misplaced .unreadable) (d.annotate s).state ∧ (d.annotate s).state ≠ d := by
  intro d s
  have hfault : (d.annotate s).fault = some (.misplaced .unreadable) := by decide
  obtain ⟨hfails, hunchanged⟩ := annotate_failed hfault
  refine ⟨hfault, hfails, fun h => ?_⟩
  rcases hunchanged.1 h with hunshaped | ⟨c, rest, m, hfirst, habsent⟩
  · exact absurd hunshaped (by decide)
  · cases hfirst
    exact absurd habsent (by cases m <;> decide)

/-- A line that leaves the grid after its first point fails, and that point keeps its visit. -/
theorem visitsAt_ne_of_annotate_failed :
    let d : Description := ({} : Description).resize 1 1
    let s : Segment := ⟨⟨255, 0, 0⟩, [⟨0, 0⟩, ⟨0, 1⟩]⟩
    (d.annotate s).fault = some (.misplaced .unreadable) ∧
      d.visitsAt ⟨0, 0⟩ = .ok #[] ∧
      (d.annotate s).state.visitsAt ⟨0, 0⟩ = .ok #[⟨.horizontalRight, ⟨255, 0, 0⟩⟩] := by
  decide

end Description

end Labyrinth
