import Mathlib.Data.List.Induction
import Labyrinth.Proofs.Registered
import Labyrinth.Proofs.RowStatements

/-!
# What a document depicts

The grid of a document can be read off its lines without compiling it. Its sides
are those of the last size, which starts from walls, and after that every cell is
decided by the last line that touches it. A row touches the cells that its codes
stand for, a path the cells it passes; no other statement touches any. Last of all
entrance and exit are opened.

Where a path passes depends on the document before it, but only once: the registry of
the finished draft still knows the path as it was resolved. This is why
`Statement.touched` can look every path up in the end.
-/

namespace Labyrinth

/-! ## What a line touches -/

/-- What a statement makes of a cell, if it touches it. Paths are looked up by their number. -/
def Statement.touched (paths : Registry) (row col : Nat) : Statement → Option CellKind
  | .row index cells => if row = index then cells[col]?.bind CellKind.ofCode? else none
  | .path id _ =>
    match paths.trajectory id with
    | .ok points => if (⟨row, col⟩ : Coordinate) ∈ points then some .path else none
    | .error _ => none
  | _ => none

theorem Statement.touched_path {paths : Registry} {id : Nat} {p : Path}
    {points : List Coordinate} (hget : paths.get id = .ok p) (hp : p.trajectory = .ok points)
    (row col : Nat) (body : Text) :
    touched paths row col (.path id body) =
      if (⟨row, col⟩ : Coordinate) ∈ points then some .path else none := by
  rw [touched, Registry.trajectory_of_get hget hp]

theorem Statement.touched_of_drawing {statement : Statement}
    (h : statement.form = .range ∨ statement.form = .chain) (paths : Registry) (row col : Nat) :
    touched paths row col statement = none := by
  cases statement with
  | range _ _ _ _ => rfl
  | chain _ _ => rfl
  | _ => rcases h with h | h <;> cases h

namespace Draft

/-- A line that was carried out, and is no size, writes the cells it touches and no others. -/
theorem cell?_of_carried {d e : Draft} {number : Nat} {line : Text} (hd : d.description.Framed)
    (h : d.Carried number line e none)
    (hsize : ∀ height width, Setting.read line ≠ .ok (.size height width)) {paths : Registry}
    (hpaths : e.paths.paths <+: paths.paths) (row col : Nat) :
    e.grid.cell? row col = (d.grid.cell? row col).map fun kind =>
      ((Statement.ofLine? line).bind (Statement.touched paths row col)).getD kind := by
  cases h with
  | setting hread =>
      rw [Statement.ofLine?_of_setting hread, grid_applySetting]
      · exact Option.map_id'.symm
      · intro height width heq
        exact hsize height width (heq ▸ hread)
  | row hstated _ =>
      rw [hstated]
      exact Grid.cell?_withRow_take hd.hasSides ..
  | @path id body p points hstated htraced =>
      have hget := Registry.get_mono hpaths (Registry.get_snoc htraced.free)
      rw [htraced.id_eq] at hget
      rw [hstated, Option.bind_some, Statement.touched_path hget htraced.walked]
      show (d.grid.opened points).cell? row col = _
      rw [Grid.cell?_opened htraced.inside]
      split
      · rfl
      · exact Option.map_id'.symm
  | drawn hstated hdrawing _ _ =>
      rw [hstated, Option.bind_some, Statement.touched_of_drawing hdrawing]
      exact Option.map_id'.symm

end Draft

namespace Document

/-- What a line makes of a cell, if it touches it. -/
def touched (paths : Registry) (row col : Nat) (line : Text) : Option CellKind :=
  (Statement.ofLine? (normalized line)).bind (Statement.touched paths row col)

/-- What the last of some lines to touch a cell makes of it, if any does. -/
def lastTouched (paths : Registry) (row col : Nat) (lines : List Text) : Option CellKind :=
  lines.reverse.findSome? (touched paths row col)

theorem lastTouched_cons (paths : Registry) (row col : Nat) (line : Text) (lines : List Text) :
    lastTouched paths row col (line :: lines) =
      (lastTouched paths row col lines).or (touched paths row col line) := by
  rw [lastTouched, List.reverse_cons, List.findSome?_append, List.findSome?_singleton]
  rfl

def StatesSize (line : Text) : Prop :=
  ∃ height width, Setting.read (normalized line) = .ok (.size height width)

/-! ## From line to line -/

/-- A line without a size keeps the sides of the grid. -/
theorem hasSides_carryOut {d : Draft} {line : Text} {height width : Nat}
    (hd : d.description.Framed) (hsize : ¬ StatesSize line) (hsides : d.grid.HasSides height width)
    (number : Nat) : (carryOut d (line, number)).state.grid.HasSides height width := by
  refine state_carryOut (P := fun e => e.grid.HasSides height width) hd hsides fun e _ hcarried => ?_
  rcases Draft.sides_of_carried hd hcarried with ⟨hheight, hwidth⟩ | ⟨_, _, hread, -⟩
  · have hframed := Draft.framed_of_carried hcarried hd
    exact ⟨hheight.trans hsides.height_eq, hwidth.trans hsides.width_eq, hframed.grid⟩
  · exact absurd ⟨_, _, hread⟩ hsize

theorem hasSides_of_each {d e : Draft} {lines : List Text} {number height width : Nat}
    (hd : d.description.Framed) (h : Attempt.each carryOut d (lines.zipIdx number) = .done e)
    (hsizes : ∀ line ∈ lines, ¬ StatesSize line) (hsides : d.grid.HasSides height width) :
    e.grid.HasSides height width := by
  refine (Attempt.of_each_eq_done
    (P := fun e : Draft => e.description.Framed ∧ e.grid.HasSides height width)
    (fun entry hentry hline hb => ⟨framed_of_carryOut hb.1 hline, ?_⟩) h ⟨hd, hsides⟩).2
  have hkept := hasSides_carryOut hb.1 (hsizes entry.1 (List.fst_mem_of_mem_zipIdx hentry)) hb.2
    entry.2
  rw [hline] at hkept
  exact hkept

theorem cell?_carryOut {d e : Draft} {line : Text} {number : Nat} (hd : d.description.Framed)
    (h : carryOut d (line, number) = .done e) (hsize : ¬ StatesSize line) {paths : Registry}
    (hpaths : e.paths.paths <+: paths.paths) (row col : Nat) :
    e.grid.cell? row col =
      (d.grid.cell? row col).map fun kind => (touched paths row col line).getD kind := by
  rcases carryOut_eq_done hd h with ⟨hblank, rfl⟩ | hcarried
  · have hnone : touched paths row col line = none := by
      rw [touched, hblank]
      rfl
    rw [hnone]
    exact Option.map_id'.symm
  · exact Draft.cell?_of_carried hd hcarried (fun height width hread => hsize ⟨_, _, hread⟩) hpaths
      row col

/-- After lines without a size, a cell is what the last line to touch it has made of it. -/
theorem cell?_each {d e : Draft} {lines : List Text} {number : Nat} (hd : d.description.Framed)
    (h : Attempt.each carryOut d (lines.zipIdx number) = .done e)
    (hsizes : ∀ line ∈ lines, ¬ StatesSize line) (row col : Nat) :
    e.grid.cell? row col =
      (d.grid.cell? row col).map fun kind => (lastTouched e.paths row col lines).getD kind := by
  induction lines generalizing d number with
  | nil =>
      cases h
      exact Option.map_id'.symm
  | cons line lines ih =>
      rw [List.zipIdx_cons, Attempt.each_cons_eq_done] at h
      obtain ⟨d', hline, hlines⟩ := h
      have hd' := framed_of_carryOut hd hline
      -- The registry of the end knows what the first line has registered.
      have hfirst := cell?_carryOut hd hline (hsizes line List.mem_cons_self)
        (paths_of_each hd' hlines) row col
      have hrest := ih hd' hlines fun line hline => hsizes line (List.mem_cons_of_mem _ hline)
      rw [hrest, hfirst, Option.map_map, lastTouched_cons]
      congr 1
      funext kind
      exact Option.getD_or.symm

/-! ## The whole document -/

theorem exists_last_size {lines : List Text} (h : ∃ line ∈ lines, StatesSize line) :
    ∃ before line after, lines = before ++ line :: after ∧ StatesSize line ∧
      ∀ later ∈ after, ¬ StatesSize later := by
  induction lines using List.reverseRecOn with
  | nil =>
      obtain ⟨line, hline, -⟩ := h
      exact absurd hline List.not_mem_nil
  | append_singleton lines last ih =>
      by_cases hlast : StatesSize last
      · exact ⟨lines, last, [], rfl, hlast, fun later hlater => absurd hlater List.not_mem_nil⟩
      · obtain ⟨line, hline, hsize⟩ := h
        have hmem : line ∈ lines := by
          rcases List.mem_append.1 hline with hline | hline
          · exact hline
          · rw [List.mem_singleton.1 hline] at hsize
            exact absurd hsize hlast
        obtain ⟨before, line, after, rfl, hsize, hafter⟩ := ih ⟨line, hmem, hsize⟩
        refine ⟨before, line, after ++ [last], by simp, hsize, fun later hlater => ?_⟩
        rcases List.mem_append.1 hlater with hlater | hlater
        · exact hafter later hlater
        · rw [List.mem_singleton.1 hlater]
          exact hlast

theorem carryOut_of_setting {line : Text} {s : Setting}
    (h : Setting.read (normalized line) = .ok s) (d : Draft) (number : Nat) :
    carryOut d (line, number) = .done (d.applySetting number s) := by
  have hwritten : normalized line ≠ [] := by
    intro hblank
    rw [hblank] at h
    cases h
  rw [carryOut_of_statement hwritten, Draft.execute, Draft.understand_of_setting d h]
  rfl

/-- A size starts from walls. -/
theorem carryOut_size {d e : Draft} {line : Text} {number height width : Nat}
    (hread : Setting.read (normalized line) = .ok (.size height width))
    (h : carryOut d (line, number) = .done e) :
    e.grid.HasSides height width ∧
      ∀ row col, row < height → col < width → e.grid.cell? row col = some .wall := by
  rw [carryOut_of_setting hread] at h
  cases h
  have hpos : 0 < (height : Int) := Int.ofNat_lt.2 (Setting.sides_of_read hread).1
  refine ⟨Table.hasSides_filled hpos _, fun row col hrow hcol => ?_⟩
  show (Table.filled height width CellKind.wall).cell? row col = some .wall
  rw [Table.cell?_eq_bind, Table.toLists_filled, Int.toNat_natCast, Int.toNat_natCast,
    List.getElem?_replicate_of_lt hrow, Option.bind_some, List.getElem?_replicate_of_lt hcol]

/-- After its last size, a document that goes on without a fault has a grid of these sides, and
every cell is what the last line to touch it has made of it. -/
theorem cells_after_size {before after : List Text} {line : Text} {d : Draft}
    {height width : Nat} (hread : Setting.read (normalized line) = .ok (.size height width))
    (hafter : ∀ later ∈ after, ¬ StatesSize later)
    (h : Attempt.each carryOut {} (numbered (before ++ line :: after)) = .done d) :
    d.grid.HasSides height width ∧ ∀ row col, row < height → col < width →
      d.grid.cell? row col = some ((lastTouched d.paths row col after).getD .wall) := by
  obtain ⟨b, e, hbefore, hline, hlines⟩ := each_numbered_split.1 h
  have he := framed_of_carryOut (reached_of_done hbefore).framed hline
  obtain ⟨hsides, hwalls⟩ := carryOut_size hread hline
  refine ⟨hasSides_of_each he hlines hafter hsides, fun row col hrow hcol => ?_⟩
  rw [cell?_each he hlines hafter row col, hwalls row col hrow hcol]
  rfl

/-- What a draft shows of the lines behind the header, if `after` is what follows the last size
among them. -/
structure Depicts (d : Draft) (lines after : List Text) (height width : Nat) : Prop where
  size : ∃ before line, lines = before ++ line :: after ∧
    Setting.read (normalized line) = .ok (.size height width)
  last : ∀ line ∈ after, ¬ StatesSize line
  sides : d.grid.HasSides height width
  inside : ∀ m c, d.description.marker m = some c → d.grid.contains c = true
  cells : ∀ row col, row < height → col < width → d.grid.cell? row col = some (
    if d.description.entrance = some ⟨row, col⟩ ∨ d.description.exit = some ⟨row, col⟩ then .path
    else (lastTouched d.paths row col after).getD .wall)
  /-- The path of a statement is the one that the draft before it resolved. -/
  paths : ∀ earlier line later id body, lines = earlier ++ line :: later →
    Statement.ofLine? (normalized line) = some (.path id body) →
      ∃ b p points, Attempt.each carryOut {} (numbered earlier) = .done b ∧
        b.Traces id body p points ∧ d.paths.get id = .ok p

/-- A document that compiles, and states a size, has the sides of the last size, its markers
inside, and every cell as the last line to touch it has made it. -/
theorem depicts_of_compile {text : Text} {d : Draft} (h : compile text = .done d)
    (hsize : ∃ line ∈ (Text.lines text).tail, StatesSize line) :
    ∃ height width after, Depicts d (Text.lines text).tail after height width := by
  obtain ⟨header, rest, e, hlines, -, hrest, hend⟩ := compileLines_eq_done.1 h
  rw [hlines, List.tail_cons] at hsize ⊢
  obtain ⟨before, line, after, rfl, ⟨height, width, hread⟩, hafter⟩ := exists_last_size hsize
  have he := (reached_of_done hrest).framed
  obtain ⟨hsides, hcells⟩ := cells_after_size hread hafter hrest
  have hheight : 0 < d.grid.height := by
    rw [height_of_finish he hend, hsides.height_eq]
    exact (Setting.sides_of_read hread).1
  obtain ⟨hin, rfl⟩ := finish_eq_done he hend hheight
  have hopened : (e.grid.opened (openings e)).HasSides height width :=
    Grid.hasSides_opened hsides _
  refine ⟨height, width, after, ⟨before, line, rfl, hread⟩, hafter, hopened, ?_, ?_, ?_⟩
  · intro m c hm
    rw [Draft.marker_withGrid] at hm
    exact hopened.contains_congr hsides (hin m c hm)
  · intro row col hrow hcol
    rw [Draft.grid_withGrid, cell?_openings hin, hcells row col hrow hcol, Option.map_some]
    exact (apply_ite some ..).symm
  · intro earlier line' later id body heq hpath
    rw [heq] at hrest
    have htraces := traces_of_each hrest hpath
    exact htraces

/-- Sized twice, with a path along another one and a row over both. -/
theorem depicts_of_compile_three_by_four :
    ∃ (text : Text) (d : Draft), compile text = .done d ∧
      (∃ line ∈ (Text.lines text).tail, StatesSize line) ∧
      ∃ after, Depicts d (Text.lines text).tail after 3 4 := by
  let text := ("[version:1.0]\n[size:2,2]\nr0:pp;\n[size:3,4]\n[entrance:c(0,1)]\np1:e d(2);\n" ++
    "p2:p(1,1)r(2);\nR1: w?wpxx;").toList
  have hfault : (compile text).fault = none := by decide +kernel
  have hcompile : compile text = .done (compile text).state := Attempt.eq_done_iff.2 ⟨rfl, hfault⟩
  have hmem : "[size:3,4]".toList ∈ (Text.lines text).tail := by decide +kernel
  have hread : Setting.read (normalized "[size:3,4]".toList) = .ok (.size 3 4) := by
    decide +kernel
  have hsize : ∃ line ∈ (Text.lines text).tail, StatesSize line := ⟨_, hmem, 3, 4, hread⟩
  have hheight : (compile text).state.grid.height = 3 := by decide +kernel
  have hwidth : (compile text).state.grid.width = 4 := by decide +kernel
  obtain ⟨height, width, after, hdepicts⟩ := depicts_of_compile hcompile hsize
  rw [hdepicts.sides.height_eq] at hheight
  rw [hdepicts.sides.width_eq] at hwidth
  rw [hheight, hwidth] at hdepicts
  exact ⟨text, _, hcompile, hsize, after, hdepicts⟩

end Document

end Labyrinth
