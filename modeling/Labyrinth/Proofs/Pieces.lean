import Labyrinth.Proofs.Passages
import Labyrinth.Proofs.Walks

/-!
# The pieces of a line

A line is worked out from one end of its trajectory to the other, but what it is at one place
hangs on nothing but the point there and the points before and after it, its `neighbours`. There
is a piece if they are all next to the point and no two of them are alike, and then it is the
one shape whose arms lead to them and nowhere else.

So a trajectory has a line if it is `Drawable`: at least two points, each next to the one before
it, and never back where it was two points before. All that is asked for and all that comes
out looks the same from the other end, which is why the way back has the same line.
-/

namespace Labyrinth

/-! ## Pieces and the points they join -/

namespace Shape

variable {s t : Shape} {c : Coordinate} {around : List Coordinate}

/-- In the cell `c`, a shape leads to the points `around` it and nowhere else. -/
def Joins (s : Shape) (c : Coordinate) (around : List Coordinate) : Prop :=
  ∀ m, s.arms.has m = true ↔ c.step m ∈ around

theorem Joins.unique (hs : s.Joins c around) (ht : t.Joins c around) : s = t :=
  arms_injective (Sides.eq_of_has fun m => Bool.eq_iff_iff.2 ((hs m).trans (ht m).symm))

end Shape

namespace Line

variable {p c n : Coordinate} {s : Shape} {points : List Coordinate}

theorem exists_endShape (h : c.isAdjacent n = true) :
    ∃ s, endShape c n = .ok s ∧ s.Joins c [n] := by
  obtain ⟨m, rfl⟩ := Coordinate.isAdjacent_iff_step.1 h
  refine ⟨.halfLine m, by rw [endShape, direction_step]; rfl, fun k => ?_⟩
  rw [arms_halfLine, Sides.has_ofMoves, List.contains_iff_mem, List.mem_singleton,
    List.mem_singleton, Coordinate.step_eq_step_iff]

theorem endShape_eq_ok_iff :
    endShape c n = .ok s ↔ c.isAdjacent n = true ∧ s.Joins c [n] := by
  constructor
  · intro h
    obtain ⟨m, hm, -⟩ := Outcome.map_eq_ok.1 h
    have hadjacent := Coordinate.isAdjacent_iff_step.2 ⟨m, direction_eq_ok_iff.1 hm⟩
    obtain ⟨t, ht, hjoins⟩ := exists_endShape hadjacent
    rw [h] at ht
    cases ht
    exact ⟨hadjacent, hjoins⟩
  · rintro ⟨hadjacent, hjoins⟩
    obtain ⟨t, ht, hjoins'⟩ := exists_endShape hadjacent
    rw [ht, hjoins.unique hjoins']

theorem exists_innerShape (hp : c.isAdjacent p = true) (hn : c.isAdjacent n = true)
    (hne : p ≠ n) : ∃ s, innerShape p c n = .ok s ∧ s.Joins c [p, n] := by
  rw [Coordinate.isAdjacent_comm] at hp
  obtain ⟨m, rfl⟩ := Coordinate.isAdjacent_iff_step.1 hp
  obtain ⟨k, rfl⟩ := Coordinate.isAdjacent_iff_step.1 hn
  obtain ⟨s, hs⟩ := exists_bend fun h => hne (Coordinate.step_step_eq_iff.2 h).symm
  refine ⟨s, (innerShape_step p m k).trans hs, fun l => ?_⟩
  rw [Shape.arms_of_bend? (bend_eq_ok_iff.1 hs), Sides.has_ofMoves, List.contains_iff_mem,
    List.mem_pair, List.mem_pair, Coordinate.step_step_eq_iff, Coordinate.step_eq_step_iff]

theorem innerShape_back (h : c.isAdjacent p = true) :
    ∃ m : Move, innerShape p c p = .error (.reversal m m.opposite) := by
  rw [Coordinate.isAdjacent_comm] at h
  obtain ⟨m, rfl⟩ := Coordinate.isAdjacent_iff_step.1 h
  have hback := innerShape_step p m m.opposite
  rw [Coordinate.step_step_opposite, bend_opposite] at hback
  exact ⟨m, hback⟩

theorem innerShape_eq_ok_iff : innerShape p c n = .ok s ↔
    c.isAdjacent p = true ∧ c.isAdjacent n = true ∧ p ≠ n ∧ s.Joins c [p, n] := by
  constructor
  · intro h
    obtain ⟨m, hm, hrest⟩ := Outcome.bind_eq_ok.1 h
    obtain ⟨k, hk, -⟩ := Outcome.bind_eq_ok.1 hrest
    have hp : c.isAdjacent p = true := by
      rw [Coordinate.isAdjacent_comm]
      exact Coordinate.isAdjacent_iff_step.2 ⟨m, direction_eq_ok_iff.1 hm⟩
    have hn := Coordinate.isAdjacent_iff_step.2 ⟨k, direction_eq_ok_iff.1 hk⟩
    have hne : p ≠ n := by
      rintro rfl
      obtain ⟨_, hback⟩ := innerShape_back hp
      rw [hback] at h
      cases h
    obtain ⟨t, ht, hjoins⟩ := exists_innerShape hp hn hne
    rw [h] at ht
    cases ht
    exact ⟨hp, hn, hne, hjoins⟩
  · rintro ⟨hp, hn, hne, hjoins⟩
    obtain ⟨t, ht, hjoins'⟩ := exists_innerShape hp hn hne
    rw [ht, hjoins.unique hjoins']

/-! ## The piece at a place -/

theorem pointAt_of_getElem? {i : Nat} (h : points[i]? = some c) : pointAt points i = .ok c := by
  have hi := (List.getElem?_eq_some_iff.1 h).1
  rw [pointAt, Table.position?_of_nonneg (Int.natCast_nonneg i) (Int.ofNat_lt.2 hi),
    Option.bind_some, Int.toNat_natCast, h]

theorem shapeAt_first (hc : points[0]? = some c) (hn : points[1]? = some n) :
    shapeAt points 0 = endShape c n := by
  have hlength := (List.getElem?_eq_some_iff.1 hn).1
  have hcurrent : pointAt points 0 = .ok c := pointAt_of_getElem? hc
  have hnext : pointAt points 1 = .ok n := pointAt_of_getElem? hn
  rw [shapeAt, if_neg (by omega), hcurrent, hnext]
  rfl

theorem shapeAt_last {i : Nat} (hlength : points.length = i + 2) (hp : points[i]? = some p)
    (hc : points[i + 1]? = some c) : shapeAt points (i + 1 : Nat) = endShape c p := by
  have hprevious : pointAt points (points.length - 2) = .ok p := by
    rw [← pointAt_of_getElem? hp, hlength]
    congr 1
    omega
  have hzero : ((i + 1 : Nat) : Int) ≠ 0 := by omega
  have hlast : ((i + 1 : Nat) : Int) = points.length - 1 := by omega
  rw [shapeAt, if_neg (by omega), pointAt_of_getElem? hc, hprevious]
  simp only [if_neg hzero, if_pos hlast]
  rfl

theorem shapeAt_inner {i : Nat} (hp : points[i]? = some p) (hc : points[i + 1]? = some c)
    (hn : points[i + 2]? = some n) : shapeAt points (i + 1 : Nat) = innerShape p c n := by
  have hlength := (List.getElem?_eq_some_iff.1 hn).1
  have hprevious : pointAt points ((i + 1 : Nat) - 1) = .ok p := by
    rw [← pointAt_of_getElem? hp]
    congr 1
    omega
  have hnext : pointAt points ((i + 1 : Nat) + 1) = .ok n := pointAt_of_getElem? hn
  have hzero : ((i + 1 : Nat) : Int) ≠ 0 := by omega
  have hlast : ((i + 1 : Nat) : Int) ≠ points.length - 1 := by omega
  rw [shapeAt, if_neg (by omega), pointAt_of_getElem? hc, hprevious, hnext]
  simp only [if_neg hzero, if_neg hlast]
  rfl

/-! ## A line is read place by place -/

theorem shapesAfter_eq_mapM (front : List Coordinate) (p : Coordinate) {rest : List Coordinate}
    (hrest : rest ≠ []) :
    shapesAfter p rest =
      (List.range' (front.length + 1) rest.length).mapM fun i : Nat =>
        shapeAt (front ++ p :: rest) i := by
  induction rest generalizing front p with
  | nil => exact absurd rfl hrest
  | cons c rest ih =>
      have hp : (front ++ p :: c :: rest)[front.length]? = some p := by simp
      have hc : (front ++ p :: c :: rest)[front.length + 1]? = some c := by simp
      cases rest with
      | nil =>
          rw [shapesAfter, List.length_singleton, List.range'_one, List.mapM_cons, List.mapM_nil,
            shapeAt_last (by simp) hp hc]
          rfl
      | cons n rest =>
          have hn : (front ++ p :: c :: n :: rest)[front.length + 2]? = some n := by simp
          have hmore := ih (front ++ [p]) c (List.cons_ne_nil n rest)
          rw [List.append_assoc, List.singleton_append, List.length_append,
            List.length_singleton] at hmore
          rw [List.length_cons, List.range'_succ, List.mapM_cons, shapeAt_inner hp hc hn,
            shapesAfter, hmore]

/-- The pieces of a line are those at its places, and it is refused for the first place
that has none. -/
theorem shapes_eq_mapM (points : List Coordinate) :
    Line.shapes points = (List.range points.length).mapM fun i : Nat => shapeAt points i := by
  match points with
  | [] => rfl
  | [c] => rfl
  | c :: n :: rest =>
      have hmore := shapesAfter_eq_mapM [] c (List.cons_ne_nil n rest)
      have hfirst : shapeAt (c :: n :: rest) (0 : Nat) = endShape c n := shapeAt_first rfl rfl
      rw [List.length_cons, List.range_eq_range', List.range'_succ, List.mapM_cons, hfirst,
        Line.shapes, hmore]
      rfl

open Outcome in
theorem shapes_eq_ok_iff_shapeAt {shapes : List Shape} :
    Line.shapes points = .ok shapes ↔ shapes.length = points.length ∧
      ∀ (i : Nat) s, shapes[i]? = some s → shapeAt points i = .ok s := by
  rw [shapes_eq_mapM, mapM_eq_ok, List.length_range]
  refine and_congr_right fun hlength => ⟨fun h i s hs => ?_, fun h i x s hx hs => ?_⟩
  · have hi := (List.getElem?_eq_some_iff.1 hs).1
    rw [hlength] at hi
    exact h i i s (List.getElem?_range hi) hs
  · obtain ⟨_, rfl⟩ := List.getElem?_eq_some_iff.1 hx
    rw [List.getElem_range]
    exact h i s hs

open Outcome in
theorem shapes_eq_error_iff {e : LineFault} :
    Line.shapes points = .error e ↔ ∃ i < points.length, shapeAt points i = .error e ∧
      ∀ j < i, ∃ s, shapeAt points (j : Nat) = .ok s := by
  rw [shapes_eq_mapM, mapM_eq_error]
  constructor
  · rintro ⟨i, x, hx, herror, hbefore⟩
    obtain ⟨hi, rfl⟩ := List.getElem?_eq_some_iff.1 hx
    rw [List.getElem_range] at herror
    rw [List.length_range] at hi
    exact ⟨i, hi, herror, fun j hj => hbefore j hj j (List.getElem?_range (Nat.lt_trans hj hi))⟩
  · rintro ⟨i, hi, herror, hbefore⟩
    refine ⟨i, i, List.getElem?_range hi, herror, fun j hj x hx => ?_⟩
    obtain ⟨_, rfl⟩ := List.getElem?_eq_some_iff.1 hx
    rw [List.getElem_range]
    exact hbefore j hj

/-! ## Neighbours on a trajectory -/

/-- The points before and after the one at a place, as far as there are any. -/
def neighbours (points : List Coordinate) : Nat → List Coordinate
  | 0 => points[1]?.toList
  | i + 1 => points[i]?.toList ++ points[i + 2]?.toList

theorem mem_neighbours_iff {i : Nat} : n ∈ neighbours points i ↔
    (∃ j, j + 1 = i ∧ points[j]? = some n) ∨ points[i + 1]? = some n := by
  cases i with
  | zero => simp [neighbours]
  | succ i => simp [neighbours]

theorem shapeAt_cases {i : Nat} (hlong : 2 ≤ points.length) (hc : points[i]? = some c) :
    (∃ n, neighbours points i = [n] ∧ shapeAt points i = endShape c n) ∨
      ∃ p n, neighbours points i = [p, n] ∧ shapeAt points i = innerShape p c n := by
  have hi := (List.getElem?_eq_some_iff.1 hc).1
  cases i with
  | zero =>
      have hn : points[1]? = some points[1] := List.getElem?_eq_getElem hlong
      exact .inl ⟨points[1], by rw [neighbours, hn]; rfl, shapeAt_first hc hn⟩
  | succ i =>
      have hp : points[i]? = some points[i] := List.getElem?_eq_getElem (by omega)
      rcases Nat.lt_or_ge (i + 2) points.length with hlt | hge
      · have hn : points[i + 2]? = some points[i + 2] := List.getElem?_eq_getElem hlt
        exact .inr ⟨points[i], points[i + 2], by rw [neighbours, hp, hn]; rfl,
          shapeAt_inner hp hc hn⟩
      · have hn : points[i + 2]? = none := List.getElem?_eq_none hge
        exact .inl ⟨points[i], by rw [neighbours, hp, hn]; rfl, shapeAt_last (by omega) hp hc⟩

theorem exists_shapeAt {i : Nat} (hlong : 2 ≤ points.length) (hc : points[i]? = some c)
    (hadjacent : ∀ n ∈ neighbours points i, c.isAdjacent n = true)
    (hdistinct : (neighbours points i).Pairwise (· ≠ ·)) : ∃ s, shapeAt points i = .ok s := by
  rcases shapeAt_cases hlong hc with ⟨n, hns, heq⟩ | ⟨p, n, hns, heq⟩
  · rw [hns, List.forall_mem_singleton] at hadjacent
    obtain ⟨s, hs, -⟩ := exists_endShape hadjacent
    exact ⟨s, heq.trans hs⟩
  · rw [hns, List.forall_mem_cons, List.forall_mem_singleton] at hadjacent
    rw [hns, List.pairwise_pair] at hdistinct
    obtain ⟨s, hs, -⟩ := exists_innerShape hadjacent.1 hadjacent.2 hdistinct
    exact ⟨s, heq.trans hs⟩

theorem shapeAt_eq_ok_iff {i : Nat} (hlong : 2 ≤ points.length) (hc : points[i]? = some c) :
    shapeAt points i = .ok s ↔ (∀ n ∈ neighbours points i, c.isAdjacent n = true) ∧
      (neighbours points i).Pairwise (· ≠ ·) ∧ s.Joins c (neighbours points i) := by
  rcases shapeAt_cases hlong hc with ⟨n, hns, heq⟩ | ⟨p, n, hns, heq⟩
  · rw [heq, hns, endShape_eq_ok_iff, List.forall_mem_singleton,
      and_iff_right (List.pairwise_singleton _ n)]
  · rw [heq, hns, innerShape_eq_ok_iff, List.forall_mem_cons, List.forall_mem_singleton,
      List.pairwise_pair, and_assoc]

theorem reversal_of_shapeAt {i : Nat} {e : LineFault} (hlong : 2 ≤ points.length)
    (hc : points[i]? = some c) (hadjacent : ∀ n ∈ neighbours points i, c.isAdjacent n = true)
    (h : shapeAt points i = .error e) : ∃ m : Move, e = .reversal m m.opposite := by
  rcases shapeAt_cases hlong hc with ⟨n, hns, heq⟩ | ⟨p, n, hns, heq⟩
  · rw [hns, List.forall_mem_singleton] at hadjacent
    obtain ⟨s, hs, -⟩ := exists_endShape hadjacent
    rw [heq, hs] at h
    cases h
  · rw [hns, List.forall_mem_cons, List.forall_mem_singleton] at hadjacent
    rw [heq] at h
    by_cases hne : p = n
    · subst hne
      obtain ⟨m, hback⟩ := innerShape_back hadjacent.1
      rw [hback] at h
      exact ⟨m, (Except.error.inj h).symm⟩
    · obtain ⟨s, hs, -⟩ := exists_innerShape hadjacent.1 hadjacent.2 hne
      rw [hs] at h
      cases h

/-! ## Which trajectories have a line -/

/-- Two points or more, each next to the one before it. -/
structure Contiguous (points : List Coordinate) : Prop where
  long : 2 ≤ points.length
  adjacent : ∀ (i : Nat) p q, points[i]? = some p → points[i + 1]? = some q →
    p.isAdjacent q = true

/-- Contiguous, and never back where it was two points before. -/
structure Drawable (points : List Coordinate) : Prop extends Contiguous points where
  onward : ∀ (i : Nat) p r, points[i]? = some p → points[i + 2]? = some r → p ≠ r

theorem Contiguous.isAdjacent (h : Contiguous points) {i : Nat} (hc : points[i]? = some c) :
    ∀ n ∈ neighbours points i, c.isAdjacent n = true := by
  intro n hn
  rcases mem_neighbours_iff.1 hn with ⟨j, rfl, hj⟩ | hnext
  · rw [Coordinate.isAdjacent_comm]
    exact h.adjacent j n c hj hc
  · exact h.adjacent i c n hc hnext

theorem Drawable.distinct (h : Drawable points) (i : Nat) :
    (neighbours points i).Pairwise (· ≠ ·) := by
  cases i with
  | zero =>
      rw [neighbours]
      cases points[1]? with
      | none => exact .nil
      | some n => exact List.pairwise_singleton _ n
  | succ i =>
      rw [neighbours]
      cases hp : points[i]? with
      | none =>
          cases points[i + 2]? with
          | none => exact .nil
          | some n => exact List.pairwise_singleton _ n
      | some p =>
          cases hn : points[i + 2]? with
          | none => exact List.pairwise_singleton _ p
          | some n => exact List.pairwise_pair.2 (h.onward i p n hp hn)

theorem drawable_of_neighbours (hlong : 2 ≤ points.length)
    (h : ∀ (i : Nat) c, points[i]? = some c →
      (∀ n ∈ neighbours points i, c.isAdjacent n = true) ∧ (neighbours points i).Pairwise (· ≠ ·)) :
    Drawable points := by
  refine ⟨⟨hlong, fun i p q hp hq => ?_⟩, fun i p r hp hr => ?_⟩
  · exact (h i p hp).1 q (mem_neighbours_iff.2 (.inr hq))
  · have hlength := (List.getElem?_eq_some_iff.1 hr).1
    have hdistinct := (h (i + 1) _ (List.getElem?_eq_getElem (by omega))).2
    rw [neighbours, hp, hr] at hdistinct
    exact List.pairwise_pair.1 hdistinct

theorem two_le_length {shapes : List Shape} (hne : points ≠ [])
    (h : Line.shapes points = .ok shapes) : 2 ≤ points.length := by
  match points with
  | [] => exact absurd rfl hne
  | [_] => cases h
  | _ :: _ :: _ => exact Nat.le_add_left ..

/-- The line of a trajectory, if it has one: the shapes that join every point to its neighbours. -/
theorem shapes_eq_ok_iff (hne : points ≠ []) {shapes : List Shape} :
    Line.shapes points = .ok shapes ↔ Drawable points ∧ shapes.length = points.length ∧
      ∀ (i : Nat) c s, points[i]? = some c → shapes[i]? = some s →
        s.Joins c (neighbours points i) := by
  constructor
  · intro h
    have hlong := two_le_length hne h
    obtain ⟨hlength, hshapes⟩ := shapes_eq_ok_iff_shapeAt.1 h
    have hplace : ∀ (i : Nat) c, points[i]? = some c → ∃ s, shapes[i]? = some s ∧
        (∀ n ∈ neighbours points i, c.isAdjacent n = true) ∧
          (neighbours points i).Pairwise (· ≠ ·) ∧ s.Joins c (neighbours points i) := by
      intro i c hc
      have hi := (List.getElem?_eq_some_iff.1 hc).1
      rw [← hlength] at hi
      have hs := List.getElem?_eq_getElem hi
      exact ⟨_, hs, (shapeAt_eq_ok_iff hlong hc).1 (hshapes i _ hs)⟩
    refine ⟨drawable_of_neighbours hlong fun i c hc => ?_, hlength, fun i c s hc hs => ?_⟩
    · obtain ⟨s, -, hadjacent, hdistinct, -⟩ := hplace i c hc
      exact ⟨hadjacent, hdistinct⟩
    · obtain ⟨t, ht, -, -, hjoins⟩ := hplace i c hc
      rw [hs] at ht
      cases ht
      exact hjoins
  · rintro ⟨hdrawable, hlength, hjoins⟩
    refine shapes_eq_ok_iff_shapeAt.2 ⟨hlength, fun i s hs => ?_⟩
    have hi := (List.getElem?_eq_some_iff.1 hs).1
    rw [hlength] at hi
    have hc := List.getElem?_eq_getElem hi
    exact (shapeAt_eq_ok_iff hdrawable.long hc).2
      ⟨hdrawable.isAdjacent hc, hdrawable.distinct i, hjoins i _ s hc hs⟩

theorem Drawable.exists_shapes (h : Drawable points) :
    ∃ shapes, Line.shapes points = .ok shapes := by
  cases hshapes : Line.shapes points with
  | ok shapes => exact ⟨shapes, rfl⟩
  | error e =>
      obtain ⟨i, hi, herror, -⟩ := shapes_eq_error_iff.1 hshapes
      have hc := List.getElem?_eq_getElem hi
      obtain ⟨s, hs⟩ := exists_shapeAt h.long hc (h.isAdjacent hc) (h.distinct i)
      rw [hs] at herror
      cases herror

/-- A contiguous trajectory is only refused because it turns back. -/
theorem Contiguous.reversal (h : Contiguous points) {e : LineFault}
    (hshapes : Line.shapes points = .error e) : ∃ m : Move, e = .reversal m m.opposite := by
  obtain ⟨i, hi, herror, -⟩ := shapes_eq_error_iff.1 hshapes
  have hc := List.getElem?_eq_getElem hi
  exact reversal_of_shapeAt h.long hc (h.isAdjacent hc) herror

/-- A trajectory has a line exactly if it is contiguous and never turns back. Every piece of the
line then has the arms that lead to the points before and after it. A contiguous trajectory without
a line is refused because it turns back. -/
theorem shapes_follow_points (hne : points ≠ []) :
    ((∃ shapes, Line.shapes points = .ok shapes) ↔ Drawable points) ∧
      (∀ shapes, Line.shapes points = .ok shapes → shapes.length = points.length ∧
        ∀ (i : Nat) c s, points[i]? = some c → shapes[i]? = some s →
          ∀ m, s.arms.has m = true ↔ c.step m ∈ neighbours points i) ∧
      (Contiguous points → ¬ Drawable points →
        ∃ m : Move, Line.shapes points = .error (.reversal m m.opposite)) := by
  refine ⟨⟨fun ⟨_, h⟩ => ((shapes_eq_ok_iff hne).1 h).1, Drawable.exists_shapes⟩,
    fun shapes h => ((shapes_eq_ok_iff hne).1 h).2, fun hcontiguous hback => ?_⟩
  cases h : Line.shapes points with
  | ok shapes => exact absurd ((shapes_eq_ok_iff hne).1 h).1 hback
  | error e =>
      obtain ⟨m, rfl⟩ := hcontiguous.reversal h
      exact ⟨m, rfl⟩

/-- From the left, then down; and from the left, then back. -/
theorem shapes_follow_points_around_a_corner :
    Drawable [⟨0, -1⟩, ⟨0, 0⟩, ⟨1, 0⟩] ∧
      (∃ shapes s, Line.shapes [⟨0, -1⟩, ⟨0, 0⟩, ⟨1, 0⟩] = .ok shapes ∧ shapes[1]? = some s ∧
        ∀ m, s.arms.has m = true ↔ Coordinate.step ⟨0, 0⟩ m ∈ [⟨0, -1⟩, ⟨1, 0⟩]) ∧
      Contiguous [⟨0, -1⟩, ⟨0, 0⟩, ⟨0, -1⟩] ∧
      ∃ m : Move, Line.shapes [⟨0, -1⟩, ⟨0, 0⟩, ⟨0, -1⟩] = .error (.reversal m m.opposite) := by
  obtain ⟨hdrawable, hpieces, -⟩ :=
    @shapes_follow_points [⟨0, -1⟩, ⟨0, 0⟩, ⟨1, 0⟩] (List.cons_ne_nil _ _)
  have hcontiguous : Contiguous [⟨0, -1⟩, ⟨0, 0⟩, ⟨0, -1⟩] := by
    refine ⟨by decide, fun i p q hp hq => ?_⟩
    match i with
    | 0 =>
        cases hp
        cases hq
        decide
    | 1 =>
        cases hp
        cases hq
        decide
    | i + 2 => cases hq
  obtain ⟨-, -, hback⟩ :=
    @shapes_follow_points [⟨0, -1⟩, ⟨0, 0⟩, ⟨0, -1⟩] (List.cons_ne_nil _ _)
  exact ⟨hdrawable.1 ⟨_, rfl⟩, ⟨_, _, rfl, rfl, (hpieces _ rfl).2 1 _ _ rfl rfl⟩, hcontiguous,
    hback hcontiguous fun h => h.onward 0 _ _ rfl rfl rfl⟩

/-! ## The way back -/

theorem exists_of_getElem?_reverse {α : Type} {xs : List α} {i : Nat} {x : α}
    (h : xs.reverse[i]? = some x) : ∃ j, i + j + 1 = xs.length ∧ xs[j]? = some x := by
  have hi := (List.getElem?_eq_some_iff.1 h).1
  rw [List.length_reverse] at hi
  have hj : i + (xs.length - 1 - i) + 1 = xs.length := by omega
  exact ⟨_, hj, by rw [← List.getElem?_reverse' hj, h]⟩

theorem mem_neighbours_of_reverse {i j : Nat} (h : i + j + 1 = points.length)
    (hn : n ∈ neighbours points.reverse i) : n ∈ neighbours points j := by
  rw [mem_neighbours_iff] at hn ⊢
  rcases hn with ⟨k, rfl, hk⟩ | hnext
  · rw [List.getElem?_reverse' (show k + (j + 1) + 1 = points.length by omega)] at hk
    exact .inr hk
  · obtain ⟨k, hk, hprevious⟩ := exists_of_getElem?_reverse hnext
    exact .inl ⟨k, by omega, hprevious⟩

theorem mem_neighbours_reverse_iff {i j : Nat} (h : i + j + 1 = points.length) :
    n ∈ neighbours points.reverse i ↔ n ∈ neighbours points j := by
  refine ⟨mem_neighbours_of_reverse h, fun hn => ?_⟩
  rw [← points.reverse_reverse] at hn
  exact mem_neighbours_of_reverse (by rw [List.length_reverse]; omega) hn

theorem Drawable.reverse (h : Drawable points) : Drawable points.reverse := by
  refine ⟨⟨?_, fun i p q hp hq => ?_⟩, fun i p r hp hr => ?_⟩
  · rw [List.length_reverse]
    exact h.long
  · obtain ⟨j, hj, hq⟩ := exists_of_getElem?_reverse hq
    rw [List.getElem?_reverse' (show i + (j + 1) + 1 = points.length by omega)] at hp
    rw [Coordinate.isAdjacent_comm]
    exact h.adjacent j q p hq hp
  · obtain ⟨j, hj, hr⟩ := exists_of_getElem?_reverse hr
    rw [List.getElem?_reverse' (show i + (j + 2) + 1 = points.length by omega)] at hp
    exact (h.onward j r p hr hp).symm

theorem shapes_reverse {shapes : List Shape} (h : Line.shapes points = .ok shapes) :
    Line.shapes points.reverse = .ok shapes.reverse := by
  by_cases hne : points = []
  · subst hne
    cases h
    rfl
  · obtain ⟨hdrawable, hlength, hjoins⟩ := (shapes_eq_ok_iff hne).1 h
    refine (shapes_eq_ok_iff (mt List.reverse_eq_nil_iff.1 hne)).2
      ⟨hdrawable.reverse, by rw [List.length_reverse, List.length_reverse, hlength],
        fun i c s hc hs m => ?_⟩
    obtain ⟨j, hj, hc⟩ := exists_of_getElem?_reverse hc
    rw [List.getElem?_reverse' (hj.trans hlength.symm)] at hs
    rw [mem_neighbours_reverse_iff hj]
    exact hjoins j c s hc hs m

/-- The way back has the same line, with its pieces in the opposite order, or none if there is
none. -/
theorem toOption_shapes_reverse (points : List Coordinate) :
    (Line.shapes points.reverse).toOption = (Line.shapes points).toOption.map List.reverse := by
  cases h : Line.shapes points with
  | ok shapes =>
      rw [shapes_reverse h]
      rfl
  | error e =>
      cases hback : Line.shapes points.reverse with
      | error e' => rfl
      | ok shapes =>
          have hforth := shapes_reverse hback
          rw [List.reverse_reverse, h] at hforth
          cases hforth

end Line

end Labyrinth
