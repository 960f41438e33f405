import Labyrinth.Proofs.Annotations
import Labyrinth.Proofs.Chains
import Labyrinth.Proofs.Sizes
import Mathlib.Data.List.DropRight

/-!
# The history of visits

The visits of every cell can be read off the lines of a document without compiling it, as its
grid can. A size throws away all that was visited before. After the last size, every range and
every chain adds to a cell one visit for each time that its segment passes the cell, and no other
line adds any.

The segment of a chain is in the line. That of a range depends on the path, which may have been
registered long before, in a grid of another size, but once registered it stays what it is. So
here too the registry of the finished draft knows all that is needed.
-/

namespace Labyrinth

/-! ## What a segment leaves in a cell -/

namespace Segment

/-- The visits that a segment leaves in a cell: one each time it passes there, as it goes along. -/
def visitsTo (s : Segment) (c : Coordinate) : List Visit :=
  match Line.shapes s.points with
  | .ok shapes => ((s.points.zip shapes).filter fun e => e.1 = c).map fun e => ⟨e.2, s.color⟩
  | .error _ => []

/-- A segment that has a line, all of it in the grid. -/
structure Fits (s : Segment) (g : Grid) : Prop where
  shaped : ∃ shapes, Line.shapes s.points = .ok shapes
  inside : ∀ c ∈ s.points, g.contains c = true

theorem length_visitsTo {s : Segment} (h : ∃ shapes, Line.shapes s.points = .ok shapes)
    (c : Coordinate) : (s.visitsTo c).length = s.points.count c := by
  obtain ⟨shapes, hshapes⟩ := h
  have hlength := (Line.shapes_eq_ok_iff_shapeAt.1 hshapes).1
  have hfst : (s.points.zip shapes).map Prod.fst = s.points :=
    List.map_fst_zip (Nat.le_of_eq hlength.symm)
  have hcount : (s.points.zip shapes).countP (fun e => e.1 = c) = s.points.count c := by
    conv => rhs; rw [← hfst, List.count, List.countP_map]
    rfl
  simp only [visitsTo, hshapes]
  rw [List.length_map, ← List.countP_eq_length_filter, hcount]

end Segment

/-- Of a line inside the table, a cell receives what belongs to its coordinate. -/
theorem cell?_lined {visits : Table (Array Visit)} {line : List (Coordinate × Shape)}
    (h : ∀ e ∈ line, visits.contains e.1 = true) (color : Color) (row col : Nat) :
    (lined visits color line).cell? row col = (visits.cell? row col).map fun vs =>
      vs ++ ((line.filter fun e => e.1 = ⟨row, col⟩).map fun e => ⟨e.2, color⟩).toArray := by
  have hplaces : lined visits color line =
      pushed visits color (line.map fun e => ((e.1.row.toNat, e.1.col.toNat), e.2)) := by
    rw [lined, pushed, List.foldl_map]
  have hfilter : (line.filter fun e => decide ((e.1.row.toNat, e.1.col.toNat) = (row, col))) =
      line.filter fun e => decide (e.1 = ⟨row, col⟩) := by
    refine List.filter_congr fun e he => decide_eq_decide.2 ?_
    rw [Prod.mk.injEq]
    exact Table.toNat_eq_iff_of_contains (h e he) (Int.natCast_nonneg row)
      (Int.natCast_nonneg col) (d := ⟨row, col⟩)
  rw [hplaces, cell?_pushed, List.filter_map, List.map_map]
  unfold Function.comp
  rw [hfilter]

theorem cell?_lined_segment {visits : Table (Array Visit)} {s : Segment} {shapes : List Shape}
    (hshapes : Line.shapes s.points = .ok shapes)
    (h : ∀ c ∈ s.points, visits.contains c = true) (row col : Nat) :
    (lined visits s.color (s.points.zip shapes)).cell? row col =
      (visits.cell? row col).map fun vs => vs ++ (s.visitsTo ⟨row, col⟩).toArray := by
  rw [cell?_lined fun e he => h e.1 (List.of_mem_zip he).1]
  simp only [Segment.visitsTo, hshapes]

/-! ## The segment of a statement -/

namespace Statement

/-- The segment that a statement draws, if it draws one. Paths are looked up by their number. -/
def segment? (paths : Registry) : Statement → Option Segment
  | .range id first last color =>
    match paths.trajectory id with
    | .ok points => some ⟨color, Document.listed points first last⟩
    | .error _ => none
  | .chain color points => some ⟨color, points⟩
  | _ => none

theorem segment?_eq_none {s : Statement} (h : ¬ (s.form = .range ∨ s.form = .chain))
    (paths : Registry) : s.segment? paths = none := by
  cases s with
  | range _ _ _ _ => exact absurd (.inl rfl) h
  | chain _ _ => exact absurd (.inr rfl) h
  | _ => rfl

theorem segment?_mono {r r' : Registry} (hkept : r.paths <+: r'.paths) {s : Statement}
    {segment : Segment} (h : s.segment? r = some segment) : s.segment? r' = some segment := by
  cases s with
  | range id first last color =>
      rw [segment?] at h ⊢
      split at h
      · next points hpoints => rw [Registry.trajectory_mono hkept hpoints, ← h]
      · cases h
  | _ => exact h

end Statement

namespace Draft

open Outcome in
/-- A statement that draws is resolved to its segment, and only if all of that is in the grid. -/
theorem exists_segment_of_resolve {d : Draft} {s : Statement} {action : Action}
    (h : d.resolve s = .ok action) (hdrawing : s.form = .range ∨ s.form = .chain) :
    ∃ segment, s.segment? d.paths = some segment ∧ action = .visit segment ∧
      ∀ c ∈ segment.points, d.grid.contains c = true := by
  cases s with
  | range id first last color =>
      obtain ⟨points, rfl, hranges⟩ := resolveRange_eq_ok_iff.1 (mapError_eq_ok.1 h)
      obtain ⟨trajectory, htrajectory, hpoints⟩ := hranges.cut
      have hlisted : Document.listed trajectory first last = points := by
        rw [hpoints, Document.listed, show (max (first - 1) 0).toNat = (first - 1).toNat by omega]
      refine ⟨⟨color, points⟩, ?_, rfl, hranges.inside⟩
      simp only [Statement.segment?, htrajectory, hlisted]
  | chain color points =>
      rw [resolve] at h
      split at h
      · cases h
      · next hchain =>
          cases h
          exact ⟨_, rfl, rfl, checkChain_eq_ok hchain⟩
  | _ => rcases hdrawing with hdrawing | hdrawing <;> cases hdrawing

end Draft

/-! ## From line to line -/

namespace Document

/-- Whether a line states a range or a chain. -/
def Draws (line : Text) : Prop :=
  ∃ s, Statement.ofLine? (normalized line) = some s ∧ (s.form = .range ∨ s.form = .chain)

def segment? (paths : Registry) (line : Text) : Option Segment :=
  (Statement.ofLine? (normalized line)).bind (Statement.segment? paths)

/-- The visits that some lines leave in a cell, line by line and each as its segment goes along. -/
def history (paths : Registry) (lines : List Text) (c : Coordinate) : List Visit :=
  (lines.filterMap (segment? paths)).flatMap fun s => s.visitsTo c

theorem segment?_eq_none {line : Text} (h : ¬ Draws line) (paths : Registry) :
    segment? paths line = none := by
  rw [segment?]
  cases hstated : Statement.ofLine? (normalized line) with
  | none => rfl
  | some s => exact Statement.segment?_eq_none (fun hdrawing => h ⟨s, hstated, hdrawing⟩) paths

/-- A line that draws nothing and states no size leaves all visits as they are, also if it
fails. -/
theorem visits_carryOut {d : Draft} (hd : d.description.Framed) {line : Text}
    (hsize : ¬ StatesSize line) (hdraws : ¬ Draws line) (number : Nat) :
    (carryOut d (line, number)).state.description.visits = d.description.visits := by
  refine state_carryOut (P := fun e => e.description.visits = d.description.visits) hd rfl
    fun e f hcarried => ?_
  cases hcarried with
  | @setting s hread =>
      rcases d.applySetting_cases number s with ⟨height, width, rfl⟩ | ⟨m, c, rfl⟩ | ⟨change, heq⟩
      · exact absurd ⟨height, width, hread⟩ hsize
      · cases m <;> rfl
      · simp only [heq]
        rfl
  | drawn hstated hdrawing _ _ => exact absurd ⟨_, hstated, hdrawing⟩ hdraws
  | _ => rfl

/-- A line that draws and is carried out has drawn its segment. -/
theorem exists_segment_of_carryOut {d e : Draft} (hd : d.description.Framed) {line : Text}
    {number : Nat} (h : carryOut d (line, number) = .done e) (hdraws : Draws line) :
    ∃ s shapes, segment? d.paths line = some s ∧ Line.shapes s.points = .ok shapes ∧
      (∀ c ∈ s.points, d.grid.contains c = true) ∧
      e = d.withVisits (lined d.description.visits s.color (s.points.zip shapes)) := by
  obtain ⟨statement, hstated, hdrawing⟩ := hdraws
  have hwritten : normalized line ≠ [] := by
    intro hblank
    rw [hblank] at hstated
    cases hstated
  obtain ⟨action, hunderstood⟩ := exists_understood_of_carryOut hwritten h
  obtain ⟨statement', hstated', hresolved⟩ := Draft.understand_eq_ok hunderstood
  rw [hstated] at hstated'
  cases hstated'
  obtain ⟨s, hs, rfl, hin⟩ := Draft.exists_segment_of_resolve hresolved hdrawing
  rw [carryOut_of_understand hunderstood, Draft.perform_visit hd hin] at h
  split at h
  · cases h
  · next shapes hshapes =>
      cases h
      exact ⟨s, shapes, by rw [segment?, hstated, Option.bind_some, hs], hshapes, hin, rfl⟩

/-- The registry of the end knows the segment that a line has drawn. -/
theorem segment?_mono {r r' : Registry} (hkept : r.paths <+: r'.paths) {line : Text}
    {s : Segment} (h : segment? r line = some s) : segment? r' line = some s := by
  obtain ⟨statement, hstated, hs⟩ := Option.bind_eq_some_iff.1 h
  rw [segment?, hstated, Option.bind_some, Statement.segment?_mono hkept hs]

theorem cell?_visits_carryOut {d e : Draft} (hd : d.description.Framed) {line : Text}
    {number : Nat} (h : carryOut d (line, number) = .done e) (hsize : ¬ StatesSize line)
    {paths : Registry} (hpaths : d.paths.paths <+: paths.paths) (row col : Nat) :
    e.description.visits.cell? row col = (d.description.visits.cell? row col).map fun vs =>
      vs ++ (history paths [line] ⟨row, col⟩).toArray := by
  by_cases hdraws : Draws line
  · obtain ⟨s, shapes, hs, hshapes, hin, rfl⟩ := exists_segment_of_carryOut hd h hdraws
    have hvisits : ∀ c ∈ s.points, d.description.visits.contains c = true :=
      fun c hc => hd.visits.contains_congr hd.hasSides (hin c hc)
    rw [history, List.filterMap_cons_some (segment?_mono hpaths hs), List.filterMap_nil,
      List.flatMap_singleton]
    exact cell?_lined_segment hshapes hvisits row col
  · have hkept := visits_carryOut hd hsize hdraws number
    rw [h] at hkept
    have hkept : e.description.visits = d.description.visits := hkept
    rw [history, List.filterMap_cons_none (segment?_eq_none hdraws paths), hkept]
    simp

/-- Lines without a size add their visits to those that a cell has. -/
theorem cell?_visits_each {d e : Draft} {lines : List Text} {number : Nat}
    (hd : d.description.Framed) (h : Attempt.each carryOut d (lines.zipIdx number) = .done e)
    (hsizes : ∀ line ∈ lines, ¬ StatesSize line) (row col : Nat) :
    e.description.visits.cell? row col = (d.description.visits.cell? row col).map fun vs =>
      vs ++ (history e.paths lines ⟨row, col⟩).toArray := by
  induction lines generalizing d number with
  | nil =>
      cases h
      simp [history]
  | cons line lines ih =>
      have hpaths := paths_of_each hd h
      rw [List.zipIdx_cons, Attempt.each_cons_eq_done] at h
      obtain ⟨d', hline, hlines⟩ := h
      -- The registry of the end knows what the first line was drawn along.
      have hfirst := cell?_visits_carryOut hd hline (hsizes line List.mem_cons_self) hpaths row col
      have hrest := ih (framed_of_carryOut hd hline) hlines
        fun line hline => hsizes line (List.mem_cons_of_mem _ hline)
      have hsplit : history e.paths (line :: lines) ⟨row, col⟩ =
          history e.paths [line] ⟨row, col⟩ ++ history e.paths lines ⟨row, col⟩ := by
        rw [history, ← List.singleton_append, List.filterMap_append, List.flatMap_append]
        rfl
      rw [hrest, hfirst, Option.map_map, hsplit]
      congr 1
      funext vs
      simp [Array.append_assoc]

/-! ## The whole document -/

/-- The lines after the last one that states a size, or all of them if none does. -/
def sinceSize (lines : List Text) : List Text :=
  lines.rtakeWhile fun line => (size? line).isNone

theorem not_statesSize_of_mem_sinceSize {lines : List Text} {line : Text}
    (h : line ∈ sinceSize lines) : ¬ StatesSize line :=
  size?_eq_none_iff.1 (Option.isNone_iff_eq_none.1
    (List.mem_rtakeWhile_imp (p := fun line => (size? line).isNone) h))

theorem sinceSize_append_cons {before after : List Text} {line : Text} (hline : StatesSize line)
    (hafter : ∀ later ∈ after, ¬ StatesSize later) :
    sinceSize (before ++ line :: after) = after := by
  have hsize : ¬ (size? line).isNone = true := by
    rw [Option.isNone_iff_eq_none, size?_eq_none_iff, not_not]
    exact hline
  have hnone : ∀ later ∈ after.reverse, (size? later).isNone = true := fun later hlater =>
    Option.isNone_iff_eq_none.2 (size?_eq_none_iff.2 (hafter later (List.mem_reverse.1 hlater)))
  rw [sinceSize, List.rtakeWhile, List.reverse_append, List.reverse_cons, List.append_assoc,
    List.takeWhile_append_of_pos hnone, List.singleton_append,
    List.takeWhile_cons_of_neg (p := fun line => (size? line).isNone) hsize, List.append_nil,
    List.reverse_reverse]

theorem visits_carryOut_size {d e : Draft} {line : Text} {number height width : Nat}
    (hread : Setting.read (normalized line) = .ok (.size height width))
    (h : carryOut d (line, number) = .done e) :
    e.description.visits = .filled height width #[] := by
  rw [carryOut_of_setting hread] at h
  cases h
  rfl

/-- After the last size, a cell has the visits that the lines have left there. -/
theorem cell?_visits_of_each {rest : List Text} {e : Draft}
    (h : Attempt.each carryOut {} (numbered rest) = .done e) {row col : Nat}
    (hin : e.grid.contains ⟨row, col⟩ = true) :
    e.description.visits.cell? row col =
      some (history e.paths (sinceSize rest) ⟨row, col⟩).toArray := by
  have he := (reached_of_done h).framed
  by_cases hsizes : ∃ line ∈ rest, StatesSize line
  · obtain ⟨before, line, after, rfl, ⟨height, width, hread⟩, hafter⟩ := exists_last_size hsizes
    obtain ⟨b, e', hbefore, hline, hlines⟩ := each_numbered_split.1 h
    have he' := framed_of_carryOut (reached_of_done hbefore).framed hline
    have hcell := cell?_visits_each he' hlines hafter row col
    have hvisits := he.visits.contains_congr he.hasSides hin
    have hsome : (e.description.visits.cell? row col).isSome = true := by
      rw [Table.contains_iff] at hvisits
      dsimp only at hvisits
      exact (Table.HasSides.isSome_cell?_iff ⟨rfl, rfl, he.visits.rectangular⟩).2 (by omega)
    rw [hcell, Option.isSome_map] at hsome
    obtain ⟨vs, hvs⟩ := Option.isSome_iff_exists.1 hsome
    have hempty : vs = #[] := by
      rw [visits_carryOut_size hread hline] at hvs
      exact Table.eq_of_cell?_filled hvs
    rw [hcell, hvs, hempty, sinceSize_append_cons ⟨height, width, hread⟩ hafter, Option.map_some,
      Array.empty_append]
  · -- Without a size there is no cell.
    have hsides := hasSides_of_each Description.framed_empty h
      (fun line hline hstates => hsizes ⟨line, hline, hstates⟩) Description.framed_empty.hasSides
    have hheight : e.grid.height = 0 := hsides.height_eq
    rw [Table.contains_iff] at hin
    omega

/-- After the last size, every line that draws has drawn its segment. -/
theorem exists_segment_of_each {rest : List Text} {e : Draft}
    (h : Attempt.each carryOut {} (numbered rest) = .done e) {line : Text}
    (hline : line ∈ sinceSize rest) (hdraws : Draws line) :
    ∃ s, segment? e.paths line = some s ∧ s.Fits e.grid := by
  obtain ⟨first, hrest⟩ : sinceSize rest <:+ rest := List.rtakeWhile_suffix ..
  obtain ⟨front, after, hafter⟩ := List.append_of_mem hline
  have hsizes : ∀ later ∈ line :: after, ¬ StatesSize later := by
    intro later hlater
    have hmem : later ∈ sinceSize rest := hafter ▸ List.mem_append_right front hlater
    exact not_statesSize_of_mem_sinceSize hmem
  rw [hafter, ← List.append_assoc] at hrest
  rw [← hrest] at h
  obtain ⟨b, e', hbefore, hdone, hlater⟩ := each_numbered_split.1 h
  have hb := (reached_of_done hbefore).framed
  have htail : Attempt.each carryOut b
      ((line :: after).zipIdx ((first ++ front).length + 2)) = .done e := by
    rw [List.zipIdx_cons, Attempt.each_cons_eq_done]
    exact ⟨e', hdone, hlater⟩
  obtain ⟨s, shapes, hs, hshapes, hin, -⟩ := exists_segment_of_carryOut hb hdone hdraws
  have hsides := hasSides_of_each hb htail hsizes hb.hasSides
  exact ⟨s, segment?_mono (paths_of_each hb htail) hs, ⟨shapes, hshapes⟩,
    fun c hc => hsides.contains_congr hb.hasSides (hin c hc)⟩

/-- In a document that compiles, every cell has been visited exactly as the lines since the last
size say: a range or a chain has drawn its segment in the grid and has left a visit each time that
it passes the cell, and there are no others. A line that draws nothing and states no size never
changes a visit. -/
theorem visits_of_compile {text : Text} {d : Draft} (h : compile text = .done d) :
    (∀ c, d.grid.contains c = true → d.description.visitsAt c =
      .ok (history d.paths (sinceSize (Text.lines text).tail) c).toArray) ∧
    (∀ line ∈ sinceSize (Text.lines text).tail, Draws line →
      ∃ s, segment? d.paths line = some s ∧ s.Fits d.grid ∧
        ∀ c, (s.visitsTo c).length = s.points.count c) ∧
    ∀ b, Reached b → ∀ line number, ¬ StatesSize line → ¬ Draws line →
      (carryOut b (line, number)).state.description.visits = b.description.visits := by
  obtain ⟨header, rest, e, hlines, -, hrest, hend⟩ := compileLines_eq_done.1 h
  have he := (reached_of_done hrest).framed
  obtain ⟨g, hg, rfl⟩ := exists_withGrid_of_finish he hend
  rw [hlines, List.tail_cons]
  refine ⟨fun c hc => ?_, fun line hline hdraws => ?_, fun b hb line number hsize hdraws =>
    visits_carryOut hb.framed hsize hdraws number⟩
  · have hin : e.grid.contains c = true := he.hasSides.contains_congr hg hc
    have hvisits := he.visits.contains_congr he.hasSides hin
    obtain ⟨hrow, -, hcol, -⟩ := Table.contains_iff.1 hc
    have hnat : (⟨c.row.toNat, c.col.toNat⟩ : Coordinate) = c := by
      rw [Int.toNat_of_nonneg hrow, Int.toNat_of_nonneg hcol]
    have hcell := cell?_visits_of_each hrest (hnat ▸ hin)
    rw [hnat] at hcell
    exact (Table.get_eq_ok_iff he.visits.rectangular hvisits).2 hcell
  · obtain ⟨s, hs, hfits⟩ := exists_segment_of_each hrest hline hdraws
    exact ⟨s, hs, ⟨hfits.shaped, fun c hc => hg.contains_congr he.hasSides (hfits.inside c hc)⟩,
      s.length_visitsTo hfits.shaped⟩

/-- A chain comes back to where it started, and a range goes along a path that is older than the
last size. What was visited before that size is forgotten. -/
theorem visits_of_compile_around_a_square :
    ∃ (text : Text) (d : Draft), compile text = .done d ∧
      d.description.visitsAt ⟨0, 0⟩ = .ok #[⟨.horizontalRight, ⟨255, 0, 0⟩⟩,
        ⟨.verticalDown, ⟨255, 0, 0⟩⟩, ⟨.horizontalRight, .lightGray⟩] := by
  let text := ("[version:1.0]\n[size:2,2]\np1:c(0,0)rd;\nv:p(1,1,2);\n[size:2,3]\nr0:wpw;\n" ++
    "vc:rgb(255:0:0),c(0,0)>c(0,1)>c(1,1)>c(1,0)>c(0,0);\n[unit:3]\nV: P(1, 0, 1);").toList
  obtain ⟨hfault, hin, hhistory⟩ : (compile text).fault = none ∧
      (compile text).state.grid.contains ⟨0, 0⟩ = true ∧
      history (compile text).state.paths (sinceSize (Text.lines text).tail) ⟨0, 0⟩ =
        [⟨.horizontalRight, ⟨255, 0, 0⟩⟩, ⟨.verticalDown, ⟨255, 0, 0⟩⟩,
          ⟨.horizontalRight, .lightGray⟩] := by
    decide +kernel
  have h : compile text = .done (compile text).state := Attempt.eq_done_iff.2 ⟨rfl, hfault⟩
  have hvisits := (visits_of_compile h).1 ⟨0, 0⟩ hin
  rw [hhistory] at hvisits
  exact ⟨text, _, h, hvisits⟩

end Document

end Labyrinth
