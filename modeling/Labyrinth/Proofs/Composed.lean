import Labyrinth.Proofs.Reached
import Labyrinth.Proofs.RowStatements

/-!
# A maze goes through its description

A maze that is written behind a block of settings is read back cell by cell. The
lines of the block come first and do what they did without the maze. Then each row
statement overwrites its row from end to end, whatever the block had drawn there.
At the end entrance and exit are opened, and nothing else differs from what the
block says alone.
-/

namespace Labyrinth

/-! ## Rows over a grid -/

namespace Grid

/-- The characters of the cells of a row, with their columns. -/
def rowEntries (row : List Bool) : List (Char × Nat) :=
  (row.map fun isOpen => (Maze.kind isOpen).code).zipIdx

/-- The grid with rows of a maze written over it from row `start` on. -/
def withRows (g : Grid) (start : Nat) : List (List Bool) → Grid
  | [] => g
  | row :: rows => (g.withRow start (rowEntries row)).withRows (start + 1) rows

theorem hasSides_withRows {g : Grid} {height width : Nat} (hg : g.HasSides height width)
    (start : Nat) (rows : List (List Bool)) : (g.withRows start rows).HasSides height width := by
  induction rows generalizing g start with
  | nil => exact hg
  | cons row rows ih => exact ih (hasSides_withRow hg ..) _

theorem cell?_withRow_rowEntries (g : Grid) (index : Nat) (row : List Bool) (i j : Nat) :
    (g.withRow index (rowEntries row)).cell? i j =
      if i = index then
        match row[j]? with
        | none => g.cell? i j
        | some isOpen => (g.cell? i j).map fun _ => Maze.kind isOpen
      else g.cell? i j := by
  rw [rowEntries, cell?_withRow]
  simp only [Nat.zero_le, and_true, Nat.sub_zero, List.getElem?_map]
  cases row[j]? with
  | none => rfl
  | some isOpen => cases isOpen <;> rfl

/-- A cell of the rows is decided by the maze, any other is as it was. -/
theorem cell?_withRows (g : Grid) (start : Nat) (rows : List (List Bool)) (i j : Nat) :
    (g.withRows start rows).cell? i j =
      if start ≤ i then
        match rows[i - start]?.bind (·[j]?) with
        | none => g.cell? i j
        | some isOpen => (g.cell? i j).map fun _ => Maze.kind isOpen
      else g.cell? i j := by
  induction rows generalizing g start with
  | nil =>
      rw [List.getElem?_nil, Option.bind_none, ite_self]
      rfl
  | cons row rows ih =>
      rw [withRows, ih, cell?_withRow_rowEntries]
      rcases Nat.lt_trichotomy i start with hi | rfl | hi
      · rw [if_neg (by omega), if_neg (by omega), if_neg (by omega)]
      · rw [if_neg (by omega), if_pos rfl, if_pos (Nat.le_refl _), Nat.sub_self,
          List.getElem?_cons_zero, Option.bind_some]
      · have hnext : i - start = i - (start + 1) + 1 := by omega
        rw [if_pos (by omega), if_neg (by omega), if_pos (by omega), hnext,
          List.getElem?_cons_succ]

end Grid

/-! ## The lines -/

namespace Maze

/-- The row statements of a maze, from row `start` on. -/
def rowLines (rows : List (List Bool)) (start : Nat) : List Text :=
  (rows.zipIdx start).map fun (row, index) => rowStatement row index

theorem lines_statements (m : Maze) : Text.lines m.statements = rowLines m.toLists 0 := by
  suffices ∀ rows start, Text.lines ((List.zipIdx rows start).flatMap fun (row, index) =>
      rowStatement row index ++ ['\n']) = rowLines rows start from this _ _
  intro rows
  induction rows with
  | nil => exact fun _ => rfl
  | cons row rows ih =>
      intro start
      simp only [rowLines, List.zipIdx_cons, List.flatMap_cons, List.map_cons, List.append_assoc,
        List.singleton_append]
      rw [Text.lines_line_append fun c hc => (isPlain_of_mem_rowStatement hc).2.2.1, ih]
      rfl

/-- Settings and maze keep their lines, whatever the settings end with. -/
theorem lines_compose (settings : Text) (m : Maze) :
    ∃ blanks, (∀ line ∈ blanks, line = []) ∧
      Text.lines (m.compose settings) = Text.lines settings ++ blanks ++ rowLines m.toLists 0 := by
  unfold compose
  split
  · next h =>
      rw [List.getLast?_eq_none_iff.1 h]
      exact ⟨[], by simp, lines_statements m⟩
  · next h =>
      obtain ⟨s, rfl⟩ := List.getLast?_eq_some_iff.1 h
      refine ⟨[], by simp, ?_⟩
      rw [List.append_assoc, List.singleton_append, Text.lines_append_lineFeed, lines_statements,
        List.append_nil]
  · rw [List.append_assoc, List.singleton_append, Text.lines_append_lineFeed, lines_statements]
    rcases Text.lines_snoc_lineFeed settings with h | h
    · exact ⟨[], by simp, by rw [h, List.append_nil]⟩
    · exact ⟨[[]], by simp, by rw [h]⟩

end Maze

namespace Document

theorem each_blank (d : Draft) {blanks : List Text} (h : ∀ line ∈ blanks, line = []) (n : Nat) :
    Attempt.each carryOut d (blanks.zipIdx n) = .done d := by
  induction blanks generalizing n with
  | nil => rfl
  | cons line blanks ih =>
      obtain rfl := h line List.mem_cons_self
      rw [List.zipIdx_cons, Attempt.each, carryOut_of_blank rfl]
      exact ih (fun line hline => h line (List.mem_cons_of_mem _ hline)) _

/-- No document states a size that is too long to be written. -/
theorem sides_lt_of_reached {d : Draft} (h : Reached d) :
    d.grid.height < 10 ^ Numeral.digitLimit ∧ d.grid.width < 10 ^ Numeral.digitLimit := by
  have hpos : 0 < 10 ^ Numeral.digitLimit := Nat.pow_pos (by decide)
  refine (h.invariant (P := fun d => d.grid.height < 10 ^ Numeral.digitLimit ∧
      d.grid.width < 10 ^ Numeral.digitLimit) ⟨hpos, hpos⟩
    (fun {e _ _ _ _} hframed hcarried hd => ?_) fun {e} hframed hd => ?_).1
  · rcases Draft.sides_of_carried hframed hcarried with
      ⟨hheight, hwidth⟩ | ⟨height, width, hread, rfl⟩
    · rw [hheight, hwidth]
      exact hd
    · obtain ⟨hheight, hwidth⟩ := Description.sides_resize e.description height width
      obtain ⟨-, -, hheight', hwidth'⟩ := Setting.sides_of_read hread
      exact ⟨lt_of_eq_of_lt hheight hheight', lt_of_le_of_lt hwidth hwidth'⟩
  · have hsides := Grid.hasSides_opened hframed.hasSides (openings e)
    exact ⟨lt_of_eq_of_lt hsides.height_eq hd.1, lt_of_eq_of_lt hsides.width_eq hd.2⟩

theorem carryOut_rowStatement {d : Draft} (hframed : d.description.Framed)
    (hlimit : d.grid.height < 10 ^ Numeral.digitLimit) {row : List Bool} {index : Nat}
    (hindex : index < d.grid.height) (hwidth : row.length = d.grid.width) (number : Nat) :
    carryOut d (Maze.rowStatement row index, number) =
      .done (d.withGrid (d.grid.withRow index (Grid.rowEntries row))) := by
  have hdigits := Numeral.isDigits_ofNat index
  have hnumber := Numeral.natural_ofNat (Numeral.length_ofNat_le (Nat.lt_trans hindex hlimit))
  have hunderstood : d.understand (Maze.rowStatement row index) =
      .ok (.row index (row.map fun isOpen => (Maze.kind isOpen).code)) := by
    rw [Maze.rowStatement_eq]
    exact Draft.understand_of_row (Statement.ofLine?_rowText hdigits hnumber _) hindex
  have hperformed : d.perform number (.row index (row.map fun isOpen => (Maze.kind isOpen).code)) =
      .done (d.withGrid (d.grid.withRow index (Grid.rowEntries row))) := by
    -- The row is as wide as the grid, so no character stands beyond the last column.
    have hfits : (row.map fun isOpen => (Maze.kind isOpen).code).length ≤ d.grid.width := by
      rw [List.length_map]
      exact Nat.le_of_eq hwidth
    rw [Draft.perform_row hframed hindex, List.take_of_length_le hfits,
      List.drop_of_length_le hfits]
    rfl
  have hwritten : normalized (Maze.rowStatement row index) ≠ [] := by
    rw [Maze.normalized_rowStatement, Maze.rowStatement]
    simp
  rw [carryOut_of_statement hwritten]
  simp only [Maze.normalized_rowStatement, Draft.execute, hunderstood, hperformed]
  rfl

theorem each_rowLines {d : Draft} {height width : Nat} (hframed : d.description.Framed)
    (hsides : d.grid.HasSides height width) (hlimit : height < 10 ^ Numeral.digitLimit)
    {rows : List (List Bool)} {start : Nat} (hrows : start + rows.length ≤ height)
    (hwidth : ∀ row ∈ rows, row.length = width) (number : Nat) :
    Attempt.each carryOut d ((Maze.rowLines rows start).zipIdx number) =
      .done (d.withGrid (d.grid.withRows start rows)) := by
  induction rows generalizing d start number with
  | nil => rfl
  | cons row rows ih =>
      rw [List.length_cons] at hrows
      have hwritten := Grid.hasSides_withRow hsides start (Grid.rowEntries row)
      have hrow := carryOut_rowStatement hframed (by rw [hsides.height_eq]; exact hlimit)
        (by rw [hsides.height_eq]; omega : start < d.grid.height)
        (by rw [hsides.width_eq]; exact hwidth row List.mem_cons_self) number
      have hchanged : Description.Framed
          (d.withGrid (d.grid.withRow start (Grid.rowEntries row))).description :=
        hframed.grid_changed (Grid.hasSides_withRow hframed.hasSides ..)
      have hnext := ih hchanged hwritten (by omega : start + 1 + rows.length ≤ height)
        (fun row hrow => hwidth row (List.mem_cons_of_mem _ hrow)) (number + 1)
      rw [Maze.rowLines, List.zipIdx_cons, List.map_cons, List.zipIdx_cons, Attempt.each, hrow]
      exact hnext

/-! ## The whole document -/

/-- Whether the end is a good one depends on no cell of the grid. -/
theorem finish_withGrid {d : Draft} (hframed : d.description.Framed) (hsize : 0 < d.grid.height)
    (hin : ∀ m c, d.description.marker m = some c → d.grid.contains c = true) {g : Grid}
    (hg : g.HasSides d.grid.height d.grid.width) :
    finish (d.withGrid g) = .done (d.withGrid (g.opened (openings d))) := by
  have hchanged : (d.withGrid g).description.Framed := hframed.grid_changed hg
  rcases finish_cases hchanged with ⟨hzero, -⟩ | ⟨-, -, hend⟩ | ⟨-, m, c, hm, hc, -⟩
  · have hheight : g.height = 0 := hzero
    rw [hg.height_eq] at hheight
    omega
  · have hopenings : openings (d.withGrid g) = openings d := by
      unfold openings
      rw [Draft.marker_withGrid]
    rw [hopenings] at hend
    exact hend
  · rw [Draft.marker_withGrid] at hm
    have hcontains := hg.contains_congr hframed.hasSides (hin m c hm)
    rw [Draft.grid_withGrid, hcontains] at hc
    cases hc

/-- The lines of a maze, behind lines that were carried out, write the maze over the grid. -/
theorem each_compose {rest blanks : List Text} {d : Draft} {m : Maze}
    (hrest : Attempt.each carryOut {} (numbered rest) = .done d)
    (hblanks : ∀ line ∈ blanks, line = []) (hm : m.HasSides d.grid.height d.grid.width) :
    Attempt.each carryOut {} (numbered (rest ++ blanks ++ Maze.rowLines m.toLists 0)) =
      .done (d.withGrid (d.grid.withRows 0 m.toLists)) := by
  have hreached := reached_of_done hrest
  have hlength : 0 + m.toLists.length = d.grid.height := by
    rw [Nat.zero_add, ← Table.height_eq_length, hm.height_eq]
  have hrows := each_rowLines hreached.framed hreached.framed.hasSides
    (sides_lt_of_reached hreached).1 (Nat.le_of_eq hlength)
    (fun row hrow => by rw [hm.rectangular row hrow, hm.width_eq]; rfl)
    (2 + (rest ++ blanks).length)
  rw [numbered, List.zipIdx_append, List.zipIdx_append, Attempt.each_append,
    Attempt.andThen_eq_done]
  refine ⟨d, ?_, hrows⟩
  rw [Attempt.each_append, Attempt.andThen_eq_done]
  exact ⟨d, hrest, each_blank d hblanks _⟩

/-- A grid written over by a maze shows the maze, except that the opened cells are open. -/
theorem cell?_composed {g : Grid} {m : Maze} {points : List Coordinate} {height width : Nat}
    (hg : g.HasSides height width) (hm : m.HasSides height width)
    (hin : ∀ c ∈ points, g.contains c = true) {row col : Nat} (hrow : row < height)
    (hcol : col < width) :
    ((g.withRows 0 m.toLists).opened points).cell? row col =
      some (if m.isOpen row col = true ∨ (⟨row, col⟩ : Coordinate) ∈ points then .path
        else .wall) := by
  have hwritten := Grid.hasSides_withRows hg 0 m.toLists
  obtain ⟨isOpen, hcell⟩ := Option.isSome_iff_exists.1 (hm.isSome_cell?_iff.2 ⟨hrow, hcol⟩)
  obtain ⟨kind, hkind⟩ := Option.isSome_iff_exists.1 (hg.isSome_cell?_iff.2 ⟨hrow, hcol⟩)
  have hrows : (g.withRows 0 m.toLists).cell? row col = some (Maze.kind isOpen) := by
    rw [Grid.cell?_withRows, if_pos (Nat.zero_le _), Nat.sub_zero, ← Table.cell?_eq_bind, hcell,
      hkind]
    rfl
  rw [Grid.cell?_opened fun c hc => hwritten.contains_congr hg (hin c hc), hrows, Maze.isOpen,
    hcell]
  by_cases hc : (⟨row, col⟩ : Coordinate) ∈ points
  · rw [if_pos hc, if_pos (Or.inr hc)]
    rfl
  · rw [if_neg hc]
    cases isOpen <;> simp [hc, Maze.kind]

/-- The rows of a maze behind lines that compile: the result is that of the lines alone, except
that its cells are those of the maze with entrance and exit opened. -/
theorem compileLines_append_rowLines {lines blanks : List Text} {m : Maze} {d : Draft}
    (hlines : compileLines lines = .done d) (hsize : 0 < d.grid.height)
    (hm : m.HasSides d.grid.height d.grid.width) (hblanks : ∀ line ∈ blanks, line = []) :
    ∃ e, compileLines (lines ++ blanks ++ Maze.rowLines m.toLists 0) = .done e ∧
      e = { d with description := { d.description with grid := e.grid } } ∧
      e.grid.HasSides d.grid.height d.grid.width ∧
      ∀ row col, row < d.grid.height → col < d.grid.width →
        e.grid.cell? row col = some (
          if m.isOpen row col = true ∨ d.description.entrance = some ⟨row, col⟩ ∨
              d.description.exit = some ⟨row, col⟩ then .path
          else .wall) := by
  obtain ⟨header, rest, before, rfl, hheader, hrest, hend⟩ := compileLines_eq_done.1 hlines
  have hframed := (reached_of_done hrest).framed
  obtain ⟨hin, rfl⟩ := finish_eq_done hframed hend hsize
  have hgrid : before.grid.HasSides before.grid.height before.grid.width := hframed.hasSides
  have hopened : (before.grid.opened (openings before)).HasSides before.grid.height
      before.grid.width := Grid.hasSides_opened hgrid _
  rw [Draft.grid_withGrid, hopened.height_eq] at hsize
  rw [Draft.grid_withGrid, hopened.height_eq, hopened.width_eq] at hm ⊢
  have hwritten := Grid.hasSides_withRows hgrid 0 m.toLists
  refine ⟨before.withGrid ((before.grid.withRows 0 m.toLists).opened (openings before)), ?_, rfl,
    Grid.hasSides_opened hwritten _, fun row col hrow hcol => ?_⟩
  · -- The lines of the block come first and do what they did alone.
    exact compileLines_eq_done.2 ⟨header, rest ++ blanks ++ Maze.rowLines m.toLists 0, _, rfl,
      hheader, each_compose hrest hblanks hm, finish_withGrid hframed hsize hin hwritten⟩
  · have hopenings : ∀ c ∈ openings before, before.grid.contains c = true := by
      intro c hc
      rcases mem_openings.1 hc with hc | hc
      · exact hin .entrance c hc
      · exact hin .exit c hc
    rw [Draft.grid_withGrid, cell?_composed hgrid hm hopenings hrow hcol]
    simp only [mem_openings]
    rfl

/-- A maze written behind settings that compile is compiled with them: the result is that of the
settings alone, except that its cells are those of the maze with entrance and exit opened. -/
theorem compile_compose {config : Text} {m : Maze} {d : Draft} (hconfig : compile config = .done d)
    (hsize : 0 < d.grid.height) (hm : m.HasSides d.grid.height d.grid.width) :
    ∃ e, compile (m.compose config) = .done e ∧
      e = { d with description := { d.description with grid := e.grid } } ∧
      e.grid.HasSides d.grid.height d.grid.width ∧
      ∀ row col, row < d.grid.height → col < d.grid.width →
        e.grid.cell? row col = some (
          if m.isOpen row col = true ∨ d.description.entrance = some ⟨row, col⟩ ∨
              d.description.exit = some ⟨row, col⟩ then .path
          else .wall) := by
  obtain ⟨blanks, hblanks, hcompose⟩ := Maze.lines_compose config m
  rw [compile, hcompose]
  exact compileLines_append_rowLines hconfig hsize hm hblanks

theorem compile_compose_two_by_three :
    ∃ (config : Text) (m : Maze) (d e : Draft), compile config = .done d ∧
      m.HasSides d.grid.height d.grid.width ∧ compile (m.compose config) = .done e ∧
      e.grid.cell? 0 0 = some .path ∧ e.grid.cell? 0 1 = some .path ∧
      e.grid.cell? 0 2 = some .wall := by
  let config := "[version:1.0]\n[size:2,3]\nr0:www;\n[entrance:c(0,0)]".toList
  let m : Maze := .ofLists [[false, true, false], [true, true, false]]
  have hconfig : compile config = .done (compile config).state := by decide +kernel
  have hheight : (compile config).state.grid.height = 2 := by decide +kernel
  have hwidth : (compile config).state.grid.width = 3 := by decide +kernel
  have hm : m.HasSides (compile config).state.grid.height (compile config).state.grid.width := by
    rw [hheight, hwidth]
    exact Table.hasSides_of_toLists (by decide) (by decide) (by decide)
  obtain ⟨e, he, -, -, hcells⟩ := compile_compose hconfig (by rw [hheight]; decide) hm
  rw [hheight, hwidth] at hcells
  exact ⟨config, m, _, e, hconfig, hm, he,
    (hcells 0 0 (by decide) (by decide)).trans (by decide +kernel),
    (hcells 0 1 (by decide) (by decide)).trans (by decide +kernel),
    (hcells 0 2 (by decide) (by decide)).trans (by decide +kernel)⟩

end Document

end Labyrinth
