import Labyrinth.Proofs.Composed
import Labyrinth.Proofs.Layout

/-!
# A maze and its description look the same

A maze can be drawn as it is, one placeholder a cell, or it can be written behind settings,
compiled and drawn as a description. The second way is the long one, and there is more to see in
what it draws. But if the settings set no marker, show no numbers and visit nothing, all that it
adds in cells one character wide is the frame.
-/

namespace Labyrinth

/-! ## Frames around a text -/

namespace Text

/-- A text with a frame around it, as wide as its lines should be. -/
def inFrame (width : Nat) (s : Text) : Text :=
  joined ['\n'] (('┌' :: List.replicate width '─' ++ ['┐']) ::
    (((fields '\n' s).map fun line => '│' :: line ++ ['│']) ++
      ['└' :: List.replicate width '─' ++ ['┘']]))

/-- What is left of a text without its first and its last line, and of the lines between without
their first and their last character. -/
def withoutFrame (s : Text) : Text :=
  joined ['\n'] ((fields '\n' s).tail.dropLast.map fun line => line.tail.dropLast)

theorem not_mem_of_mem_fields {separator : Char} {s field : Text}
    (h : field ∈ fields separator s) : separator ∉ field := by
  induction s generalizing field with
  | nil =>
      rw [fields, List.mem_singleton] at h
      rw [h]
      exact List.not_mem_nil
  | cons c s ih =>
      unfold fields at h
      split at h
      · rcases List.mem_cons.1 h with rfl | h
        · exact List.not_mem_nil
        · exact ih h
      · next hc =>
          cases hfields : fields separator s with
          | nil => exact absurd hfields (fields_ne_nil separator s)
          | cons first rest =>
              rw [hfields] at h ih
              rcases List.mem_cons.1 h with rfl | h
              · simp [Ne.symm hc, ih List.mem_cons_self]
              · exact ih (List.mem_cons_of_mem _ h)

theorem joined_fields (separator : Char) (s : Text) :
    joined [separator] (fields separator s) = s := by
  induction s with
  | nil => rfl
  | cons c s ih =>
      unfold fields
      cases hfields : fields separator s with
      | nil => exact absurd hfields (fields_ne_nil separator s)
      | cons first rest =>
          rw [hfields] at ih
          split
          · next hc => rw [joined, ih, hc]; rfl
          · cases rest with
            | nil => exact congrArg (c :: ·) ih
            | cons next rest => exact congrArg (c :: ·) ih

theorem withoutFrame_inFrame (width : Nat) (s : Text) : withoutFrame (inFrame width s) = s := by
  have hedge : ∀ left right : Char, left ≠ '\n' → right ≠ '\n' →
      '\n' ∉ left :: List.replicate width '─' ++ [right] := by
    intro left right hleft hright
    simp [hleft.symm, hright.symm, List.mem_replicate]
  have hrow : ∀ line ∈ (fields '\n' s).map fun line => '│' :: line ++ ['│'], '\n' ∉ line := by
    intro line hline
    obtain ⟨field, hfield, rfl⟩ := List.mem_map.1 hline
    simp [not_mem_of_mem_fields hfield]
  have hlines : ∀ line ∈ ('┌' :: List.replicate width '─' ++ ['┐']) ::
      (((fields '\n' s).map fun line => '│' :: line ++ ['│']) ++
        ['└' :: List.replicate width '─' ++ ['┘']]), '\n' ∉ line := by
    rw [List.forall_mem_cons, List.forall_mem_append, List.forall_mem_singleton]
    exact ⟨hedge _ _ (by decide) (by decide), hrow, hedge _ _ (by decide) (by decide)⟩
  have hinner : (fun line => line.tail.dropLast) ∘ (fun line : Text => '│' :: line ++ ['│']) = id := by
    funext line
    simp
  rw [withoutFrame, inFrame, fields_joined (List.cons_ne_nil _ _) hlines, List.tail_cons,
    List.dropLast_concat, List.map_map, hinner, List.map_id, joined_fields]

end Text

/-! ## Drawing one placeholder a cell -/

/-- What stands for a cell that nothing else is drawn in. -/
def Settings.placeholder (s : Settings) : CellKind → Text
  | .wall => s.wallChar
  | .path => s.pathChar

namespace Description

variable {d : Description} {painter : Painter}

theorem visitsIn_of_visitedCells (h : d.visitedCells = 0) (row col : Nat) :
    d.visitsIn row col = #[] := by
  unfold visitsIn
  cases hcell : d.visits.cell? row col with
  | none => rfl
  | some visits =>
      rw [Table.cell?_eq_bind] at hcell
      obtain ⟨cells, hrow, hcol⟩ := Option.bind_eq_some_iff.1 hcell
      have hmem : visits ∈ d.visits.toLists.flatten :=
        List.mem_flatten.2 ⟨cells, List.mem_of_getElem? hrow, List.mem_of_getElem? hcol⟩
      simpa using List.countP_eq_zero.1 h visits hmem

variable (hvisits : d.visitedCells = 0) (hposition : d.currentPosition = none)
include hvisits hposition

theorem drawCell_plain (colors : List Color) (row col : Nat) (kind : CellKind) :
    d.drawCell painter ⟨1, false⟩ colors row col kind = d.settings.placeholder kind := by
  unfold drawCell
  dsimp only
  rw [visitsIn_of_visitedCells hvisits, hposition, if_neg (by simp)]
  cases kind <;> simp [Text.times, Settings.placeholder]

theorem drawRow_plain (hindices : d.settings.showIndices = false) (colors : List Color) (row : Nat)
    (cells : List CellKind) :
    d.drawRow painter ⟨1, false⟩ colors row cells =
      '│' :: cells.flatMap d.settings.placeholder ++ ['│'] := by
  have hlabel : d.rowLabel row = [] := by simp [rowLabel, hindices]
  have hcells : cells.zipIdx.flatMap (fun e => d.drawCell painter ⟨1, false⟩ colors row e.2 e.1) =
      cells.flatMap d.settings.placeholder := by
    simp only [drawCell_plain hvisits hposition]
    rw [← List.flatMap_map, List.zipIdx_map_fst]
  rw [drawRow_eq, hlabel, hcells]
  rfl

theorem drawLines_plain (hindices : d.settings.showIndices = false) :
    d.drawLines painter ⟨1, false⟩ = ('┌' :: List.replicate d.width '─' ++ ['┐']) ::
      ((d.grid.toLists.map fun cells => '│' :: cells.flatMap d.settings.placeholder ++ ['│']) ++
        ['└' :: List.replicate d.width '─' ++ ['┘']]) := by
  have hframe : ∀ left right, d.drawFrame painter ⟨1, false⟩ left right =
      left :: List.replicate d.width '─' ++ [right] := by
    intro left right
    simp [drawFrame, labelWidth, hindices, Text.spaces, Text.times]
  have hrows : d.grid.toLists.zipIdx.map (fun e =>
      d.drawRow painter ⟨1, false⟩ d.visitColors e.2 e.1) =
        d.grid.toLists.map fun cells => '│' :: cells.flatMap d.settings.placeholder ++ ['│'] := by
    simp only [drawRow_plain hvisits hposition hindices]
    conv_rhs => rw [← List.zipIdx_map_fst 0 d.grid.toLists, List.map_map]
    rfl
  simp only [drawLines_eq, hindices, hframe, hrows]
  rfl

end Description

/-- A grid that shows the cells of a maze, row by row. -/
theorem Grid.toLists_of_maze {g : Grid} {m : Maze} {height width : Nat} (hpos : 0 < height)
    (hg : g.HasSides height width) (hm : m.HasSides height width)
    (hcells : ∀ row col, row < height → col < width →
      g.cell? row col = some (Maze.kind (m.isOpen row col))) :
    g.toLists = m.toLists.map fun row => row.map Maze.kind := by
  have hkinds : (Table.ofLists (m.toLists.map fun row => row.map Maze.kind)).HasSides
      height width := by
    refine Table.hasSides_of_toLists hpos ?_ ?_
    · rw [Table.toLists_ofLists, List.length_map, ← Table.height_eq_length, hm.height_eq]
    · rw [Table.toLists_ofLists, List.forall_mem_map]
      intro row hrow
      rw [List.length_map, hm.rectangular row hrow, hm.width_eq]
  have hsame : g = Table.ofLists (m.toLists.map fun row => row.map Maze.kind) := by
    apply hg.ext_cell hkinds
    intro row col
    have hkind : (Table.ofLists (m.toLists.map fun row => row.map Maze.kind)).cell? row col =
        (m.cell? row col).map Maze.kind := by
      rw [Table.cell?_eq_bind, Table.cell?_eq_bind, Table.toLists_ofLists, List.getElem?_map]
      cases m.toLists[row]? with
      | none => rfl
      | some cells => exact List.getElem?_map ..
    rw [hkind]
    by_cases hin : row < height ∧ col < width
    · obtain ⟨isOpen, hcell⟩ := Option.isSome_iff_exists.1 (hm.isSome_cell?_iff.2 hin)
      rw [hcells row col hin.1 hin.2, Maze.isOpen, hcell]
      cases isOpen <;> rfl
    · have hg' := hg.isSome_cell?_iff.not.2 hin
      have hm' := hm.isSome_cell?_iff.not.2 hin
      rw [Option.not_isSome_iff_eq_none] at hg' hm'
      rw [hg', hm', Option.map_none]
  rw [hsame, Table.toLists_ofLists]

theorem Maze.fields_draw {m : Maze} (hpos : 0 < m.height) {wall path : Text} (hwall : '\n' ∉ wall)
    (hpath : '\n' ∉ path) : Text.fields '\n' (m.draw wall path) =
      m.toLists.map fun row => row.flatMap fun isOpen => if isOpen then path else wall := by
  refine Text.fields_joined ?_ ?_
  · rw [Table.height_eq_length] at hpos
    exact List.ne_nil_of_length_pos (by rwa [List.length_map])
  · intro line hline hmem
    obtain ⟨row, -, rfl⟩ := List.mem_map.1 hline
    obtain ⟨isOpen, -, hmem⟩ := List.mem_flatMap.1 hmem
    cases isOpen with
    | true => exact hpath hmem
    | false => exact hwall hmem

theorem Text.IsMark.lineFeed_not_mem {t : Text} (h : t.IsMark) : '\n' ∉ t := by
  obtain ⟨c, rfl, hbreak⟩ := h
  intro hmem
  rw [← List.mem_singleton.1 hmem] at hbreak
  cases hbreak

/-- A description with the cells of a maze, and nothing in them but placeholders, is drawn as the
maze in a frame. -/
theorem Description.eq_inFrame_of_draw {d : Description} (hvisits : d.visitedCells = 0)
    (hposition : d.currentPosition = none) (hindices : d.settings.showIndices = false)
    (hmarked : d.settings.Marked) {m : Maze} (hpos : 0 < m.height) (hwidth : d.width = m.width)
    (hkinds : d.grid.toLists = m.toLists.map fun row => row.map Maze.kind) {painter : Painter}
    {out : Text} (h : d.draw painter ⟨1, false⟩ = .ok out) :
    out = Text.inFrame m.width (m.draw d.settings.wallChar d.settings.pathChar) := by
  have hrows : d.grid.toLists.map (fun cells => cells.flatMap d.settings.placeholder) =
      Text.fields '\n' (m.draw d.settings.wallChar d.settings.pathChar) := by
    rw [Maze.fields_draw hpos hmarked.wall.lineFeed_not_mem hmarked.path.lineFeed_not_mem, hkinds,
      List.map_map]
    refine List.map_congr_left fun row _ => ?_
    show (row.map Maze.kind).flatMap _ = _
    rw [List.flatMap_map]
    refine List.flatMap_congr fun isOpen _ => ?_
    cases isOpen <;> rfl
  have hlines : Text.fields '\n' out = d.drawLines painter ⟨1, false⟩ :=
    (lines_of_draw hmarked (painter.keepsLines_plain 1) h).2
  rw [← Text.joined_fields '\n' out, hlines, drawLines_plain hvisits hposition hindices,
    Text.inFrame, ← hrows, List.map_map, hwidth]
  rfl

namespace Document

/-- A maze that is written behind settings and compiled with them is drawn in cells of one
character as the maze itself is drawn, with a frame around it, if the settings set no marker, visit
nothing and show no numbers. There is such a drawing as long as a row is not too long to be
counted. -/
theorem draw_compose {config : Text} {m : Maze} {d : Draft} (hconfig : compile config = .done d)
    (hsize : 0 < d.grid.height) (hm : m.HasSides d.grid.height d.grid.width)
    (hindices : d.description.settings.showIndices = false)
    (hvisits : d.description.visitedCells = 0)
    (hmarkers : ∀ marker, d.description.marker marker = none) (painter : Painter) :
    ∃ e, compile (m.compose config) = .done e ∧
      ((∃ out, e.description.draw painter ⟨1, false⟩ = .ok out) ↔ m.width ≤ Word.largest) ∧
      ∀ out, e.description.draw painter ⟨1, false⟩ = .ok out →
        Text.withoutFrame out =
          m.draw e.description.settings.wallChar e.description.settings.pathChar ∧
        out = Text.inFrame m.width
          (m.draw e.description.settings.wallChar e.description.settings.pathChar) := by
  obtain ⟨blanks, hblanks, hcompose⟩ := Maze.lines_compose config m
  obtain ⟨e, he, heq, hsides, hcells⟩ :=
    compileLines_append_rowLines hconfig hsize hm hblanks
  rw [← hcompose] at he
  -- The rows change the grid only, so what the settings say of the rest still holds.
  have hvisits' : e.description.visitedCells = 0 := by
    rw [heq]
    exact hvisits
  have hposition : e.description.currentPosition = none := by
    rw [heq]
    exact hmarkers .currentPosition
  have hindices' : e.description.settings.showIndices = false := by
    rw [heq]
    exact hindices
  have hwidth : e.description.width = m.width := by
    rw [hm.width_eq]
    exact hsides.width_eq
  have hkinds : e.grid.toLists = m.toLists.map fun row => row.map Maze.kind := by
    refine Grid.toLists_of_maze hsize hsides hm fun row col hrow hcol => ?_
    have hentrance : d.description.entrance = none := hmarkers .entrance
    have hexit : d.description.exit = none := hmarkers .exit
    simp [hcells row col hrow hcol, hentrance, hexit, Maze.kind]
  refine ⟨e, he, ?_, fun out hout => ?_⟩
  · have hdraw := e.description.exists_draw_natCast_iff painter 1 false
    rw [hwidth, Nat.mul_one] at hdraw
    exact hdraw
  · have hframed := Description.eq_inFrame_of_draw hvisits' hposition hindices'
      (marked_of_reached (reached_of_compile he)) (by rw [hm.height_eq]; exact hsize) hwidth hkinds
      hout
    exact ⟨by rw [hframed, Text.withoutFrame_inFrame], hframed⟩

/-- The block has placeholders of its own and draws a row that the maze replaces. -/
theorem draw_compose_two_by_three :
    ∃ (config : Text) (m : Maze) (d e : Draft) (out : Text), compile config = .done d ∧
      d.grid.cell? 0 0 = some .path ∧ compile (m.compose config) = .done e ∧
      e.description.draw .terminal ⟨1, false⟩ = .ok out ∧ Text.withoutFrame out = "#.#\n..#".toList ∧
      out = "┌───┐\n│#.#│\n│..#│\n└───┘".toList := by
  let config := ("[version:1.0]\n[size:2,3]\n[show-indices:false]\n" ++
    "[placeholder-char:.#]\nr0:ppp;").toList
  let m : Maze := .ofLists [[false, true, false], [true, true, false]]
  let d := (compile config).state
  obtain ⟨hfault, hheight, hwidth, hindices, hvisits, hmarkers, hopen⟩ :
      (compile config).fault = none ∧ d.grid.height = 2 ∧ d.grid.width = 3 ∧
      d.description.settings.showIndices = false ∧ d.description.visitedCells = 0 ∧
      (∀ marker ∈ Marker.all, d.description.marker marker = none) ∧
      d.grid.cell? 0 0 = some .path := by
    decide +kernel
  have hchars : (compile (m.compose config)).state.description.settings.wallChar = ['#'] ∧
      (compile (m.compose config)).state.description.settings.pathChar = ['.'] := by
    decide +kernel
  have hconfig : compile config = .done d := Attempt.eq_done_iff.2 ⟨rfl, hfault⟩
  have hm : m.HasSides d.grid.height d.grid.width := by
    rw [hheight, hwidth]
    exact Table.hasSides_of_toLists (by decide) (by decide) (by decide)
  obtain ⟨e, he, hdraw, hdrawn⟩ := draw_compose hconfig (by rw [hheight]; decide) hm hindices hvisits
    (fun marker => hmarkers marker (by cases marker <;> decide)) .terminal
  obtain ⟨out, hout⟩ := hdraw.2 (by decide)
  obtain ⟨hinner, hframed⟩ := hdrawn out hout
  rw [he] at hchars
  simp only [Attempt.done] at hchars
  rw [hchars.1, hchars.2] at hinner hframed
  exact ⟨config, m, d, e, out, hconfig, hopen, he, hout, hinner.trans (by decide +kernel),
    hframed.trans (by decide +kernel)⟩

end Document

end Labyrinth
