import Labyrinth.Drawing.Terminal
import Labyrinth.Proofs.Ink
import Labyrinth.Proofs.RangeStatements

/-!
# The layout of a drawing

Everything in a drawing stands where its row and its column say. All cells are equally wide, and so
are the labels above the columns and those in front of the rows. So where a cell begins in its line
is a matter of counting, and this holds whatever is drawn in the cells before it.

Two things are needed for that. What a cell shows must be as wide as the cell, which it would not
be if a placeholder could be longer than one character. And the lines must be those that have been
put together, which they would not be if a placeholder could break a line. In a document that
compiles both are excluded.
-/

namespace Labyrinth

/-! ## Pieces of equal width -/

namespace Text

/-- The `count` characters of a text from a place on. -/
def window (start count : Nat) (s : Text) : Text :=
  (s.drop start).take count

theorem length_spaces (n : Nat) : (spaces n).length = n := by
  simp [spaces]

variable {α : Type} {f : α → Text} {xs : List α} {w : Nat}

theorem length_flatMap (h : ∀ x ∈ xs, (f x).length = w) :
    (xs.flatMap f).length = xs.length * w := by
  induction xs with
  | nil => simp
  | cons x xs ih =>
      have hxs := ih fun y hy => h y (List.mem_cons_of_mem x hy)
      rw [List.flatMap_cons, List.length_append, h x List.mem_cons_self, hxs, List.length_cons,
        Nat.succ_mul, Nat.add_comm]

/-- Pieces put together, taken apart at one of them. -/
theorem flatMap_split {i : Nat} {x : α} (hx : xs[i]? = some x) :
    xs.flatMap f = (xs.take i).flatMap f ++ (f x ++ (xs.drop (i + 1)).flatMap f) := by
  obtain ⟨hi, hget⟩ := List.getElem?_eq_some_iff.1 hx
  conv_lhs => rw [← List.take_append_drop i xs]
  rw [List.flatMap_append, List.drop_eq_getElem_cons hi, hget, List.flatMap_cons]

/-- Each of some pieces of equal width is found at its place. -/
theorem window_flatMap (h : ∀ x ∈ xs, (f x).length = w) {i : Nat} {x : α} (hx : xs[i]? = some x)
    (front rest : Text) :
    window (front.length + i * w) w (front ++ (xs.flatMap f ++ rest)) = f x := by
  have hi : i ≤ xs.length := Nat.le_of_lt (List.getElem?_eq_some_iff.1 hx).1
  have hbefore : ((xs.take i).flatMap f).length = i * w := by
    rw [length_flatMap fun y hy => h y (List.mem_of_mem_take hy), List.length_take_of_le hi]
  rw [window, List.drop_length_add_append, flatMap_split hx, List.append_assoc,
    List.drop_left' hbefore, List.append_assoc]
  exact List.take_left' (h x (List.mem_of_getElem? hx))

/-! ## Lines put together -/

theorem lines_line {s : Text} (hne : s ≠ []) (h : ∀ c ∈ s, isLineBreak c = false) :
    lines s = [s] := by
  induction s with
  | nil => exact absurd rfl hne
  | cons c s ih =>
      have hc := h c List.mem_cons_self
      have hs := fun d hd => h d (List.mem_cons_of_mem c hd)
      have hne : ¬ (c = '\r' ∧ s.head? = some '\n') := by
        rintro ⟨rfl, -⟩
        cases hc
      rw [lines_cons hne, hc]
      cases s with
      | nil => rfl
      | cons d s =>
          rw [ih (List.cons_ne_nil d s) hs]
          rfl

/-- Lines that have been put together are read back, unless the last one is empty. -/
theorem lines_joined {rows : List Text} (hrows : rows ≠ []) (hlast : rows.getLast hrows ≠ [])
    (h : ∀ row ∈ rows, ∀ c ∈ row, isLineBreak c = false) :
    lines (joined ['\n'] rows) = rows := by
  induction rows with
  | nil => exact absurd rfl hrows
  | cons row rows ih =>
      have hrow := h row List.mem_cons_self
      cases rows with
      | nil => exact lines_line hlast hrow
      | cons next rows =>
          rw [joined, List.append_assoc, List.singleton_append, lines_line_append hrow,
            ih (List.cons_ne_nil next rows) hlast fun r hr => h r (List.mem_cons_of_mem row hr)]

end Text

/-- A number has no more digits than a larger one. -/
theorem Numeral.length_ofNat_mono {m n : Nat} (h : m ≤ n) :
    (ofNat m).length ≤ (ofNat n).length := by
  have hpos : 0 < (ofNat n).length := List.length_pos_iff.2 Nat.toDigits_ne_nil
  have hn := (Nat.length_toDigits_le_iff (by decide) hpos).1 (Nat.le_refl (ofNat n).length)
  exact (Nat.length_toDigits_le_iff (by decide) hpos).2 (Nat.lt_of_le_of_lt h hn)

/-! ## The pieces of a drawing -/

/-- What is put into a style neither breaks its line nor vanishes. -/
structure Painter.KeepsLines (painter : Painter) (options : DrawingOptions) : Prop where
  unbroken : ∀ style s, (∀ c ∈ s, Text.isLineBreak c = false) →
    ∀ c ∈ Description.styled painter options style s, Text.isLineBreak c = false
  visible : ∀ style s, s ≠ [] → Description.styled painter options style s ≠ []

theorem Painter.keepsLines_plain (painter : Painter) (w : Int) : painter.KeepsLines ⟨w, false⟩ :=
  ⟨fun _ _ h => h, fun _ _ h => h⟩

namespace Description

variable {d : Description} {painter : Painter} {w : Nat}

theorem length_drawCell (painter : Painter) (hd : d.settings.Marked) (hw : 1 ≤ w)
    (colors : List Color) (row col : Nat) (kind : CellKind) :
    (d.drawCell painter ⟨w, false⟩ colors row col kind).length = w := by
  have htimes : ∀ {t : Text}, t.IsMark → (Text.times w t).length = w := by
    rintro _ ⟨c, rfl, -⟩
    simp [Text.times]
  simp only [drawCell, styled_plain]
  split
  · obtain ⟨c, hc, -⟩ := hd.position
    rw [Text.length_centred, hc, List.length_singleton, Int.toNat_natCast, Nat.max_eq_left hw]
  · split
    · next hline => rw [Sides.length_of_draw? hline, Int.toNat_natCast, Nat.max_eq_left hw]
    · cases kind with
      | wall => exact htimes hd.wall
      | path => exact htimes hd.path

/-- The number of a column, as far as it fits into the column. -/
def columnLabel (w : Int) (col : Nat) : Text :=
  Text.centred w (Text.ending w (Numeral.ofNat col))

theorem length_columnLabel (hw : 1 ≤ w) (col : Nat) : (columnLabel w col).length = w := by
  have hending : (Text.ending w (Numeral.ofNat col)).length ≤ w := by
    rw [Text.ending, if_pos (by omega), List.length_drop]
    omega
  rw [columnLabel, Text.length_centred, Int.toNat_natCast, Nat.max_eq_left hending]

theorem length_rowLabel {row : Nat} (hrow : row < d.height) :
    (d.rowLabel row).length = d.labelWidth := by
  have hdigits := Numeral.length_ofNat_mono (by omega : row ≤ d.height - 1)
  unfold rowLabel labelWidth
  split
  · rw [List.length_append, Text.length_alignedRight, List.length_singleton]
    omega
  · rfl

theorem length_drawFrame (left right : Char) :
    (d.drawFrame painter ⟨w, false⟩ left right).length = d.labelWidth + d.width * w + 2 := by
  have hstrokes : (Text.times (d.width * w : Int) ['─']).length = d.width * w := by
    have hcount : (d.width * w : Int).toNat = d.width * w := by
      rw [← Int.natCast_mul, Int.toNat_natCast]
    simp [Text.times, hcount]
  simp only [drawFrame, styled_plain, List.length_append, List.length_cons,
    List.length_nil, Text.length_spaces, hstrokes]
  omega

theorem drawRow_eq (d : Description) (painter : Painter) (options : DrawingOptions)
    (colors : List Color) (row : Nat) (cells : List CellKind) :
    d.drawRow painter options colors row cells =
      (d.rowLabel row ++ styled painter options .white ['│']) ++
        (cells.zipIdx.flatMap (fun e => d.drawCell painter options colors row e.2 e.1) ++
          styled painter options .white ['│']) :=
  List.append_assoc ..

theorem length_drawRow (hd : d.settings.Marked) (hw : 1 ≤ w) (colors : List Color) {row : Nat}
    (hrow : row < d.height) {cells : List CellKind} (hcells : cells.length = d.width) :
    (d.drawRow painter ⟨w, false⟩ colors row cells).length = d.labelWidth + d.width * w + 2 := by
  have hdrawn : (cells.zipIdx.flatMap
      fun e => d.drawCell painter ⟨w, false⟩ colors row e.2 e.1).length = d.width * w := by
    rw [Text.length_flatMap fun e _ => length_drawCell painter hd hw colors row e.2 e.1,
      List.length_zipIdx, hcells]
  simp only [drawRow_eq, styled_plain, List.length_append, hdrawn, length_rowLabel hrow,
    List.length_singleton]
  omega

/-- Where the cells of a column begin in their lines. -/
def columnStart (d : Description) (w col : Nat) : Nat :=
  d.labelWidth + 1 + col * w

/-- In its row, a cell is drawn where its column says. -/
theorem window_drawRow (hd : d.settings.Marked) (hw : 1 ≤ w) (colors : List Color) {row col : Nat}
    (hrow : row < d.height) {cells : List CellKind} {kind : CellKind}
    (hkind : cells[col]? = some kind) :
    Text.window (d.columnStart w col) w (d.drawRow painter ⟨w, false⟩ colors row cells) =
      d.drawCell painter ⟨w, false⟩ colors row col kind := by
  have hentry : cells.zipIdx[col]? = some (kind, col) := by
    rw [List.getElem?_zipIdx, hkind, Option.map_some, Nat.zero_add]
  have hfront : (d.rowLabel row ++ ['│']).length = d.labelWidth + 1 := by
    rw [List.length_append, length_rowLabel hrow, List.length_singleton]
  have hwindow := Text.window_flatMap (fun e _ => length_drawCell painter hd hw colors row e.2 e.1)
    hentry (d.rowLabel row ++ ['│']) ['│']
  rw [hfront] at hwindow
  rw [drawRow_eq, styled_plain]
  exact hwindow

theorem drawHeader_eq (d : Description) (w : Int) :
    d.drawHeader ⟨w, false⟩ = Text.spaces (d.labelWidth + 1 : Nat) ++
      ((List.range d.width).flatMap (columnLabel w) ++ []) := by
  rw [List.append_nil]
  rfl

theorem length_drawHeader (hw : 1 ≤ w) :
    (d.drawHeader ⟨w, false⟩).length = d.labelWidth + d.width * w + 1 := by
  have hlabels : ((List.range d.width).flatMap (columnLabel w)).length = d.width * w := by
    rw [Text.length_flatMap fun col _ => length_columnLabel hw col, List.length_range]
  simp only [drawHeader_eq, List.length_append, Text.length_spaces, hlabels, List.length_nil]
  omega

/-- In the line above the frame, the number of a column stands over it. -/
theorem window_drawHeader (hw : 1 ≤ w) {col : Nat} (hcol : col < d.width) :
    Text.window (d.columnStart w col) w (d.drawHeader ⟨w, false⟩) = columnLabel w col := by
  have hwindow := Text.window_flatMap (fun col _ => length_columnLabel hw col)
    (List.getElem?_range hcol) (Text.spaces (d.labelWidth + 1 : Nat)) []
  rw [Text.length_spaces] at hwindow
  rw [drawHeader_eq]
  exact hwindow

/-! ## The lines of a drawing -/

/-- How many lines there are above the frame. -/
def headerLines (d : Description) : Nat :=
  if d.settings.showIndices then 1 else 0

theorem length_drawLines (d : Description) (painter : Painter) (options : DrawingOptions) :
    (d.drawLines painter options).length = d.headerLines + d.height + 2 := by
  have hheight : d.grid.toLists.length = d.height := (Table.height_eq_length d.grid).symm
  simp only [drawLines, headerLines, List.length_append, List.length_map, List.length_zipIdx,
    hheight, List.length_singleton]
  split
  · simp only [List.length_singleton]
    omega
  · simp only [List.length_nil]
    omega

/-- The lines of the frame and the rows of cells between them. -/
theorem drawLines_eq (d : Description) (painter : Painter) (options : DrawingOptions) :
    d.drawLines painter options =
      (if d.settings.showIndices then [d.drawHeader options] else []) ++
        (d.drawFrame painter options '┌' '┐' ::
          (d.grid.toLists.zipIdx.map (fun e => d.drawRow painter options d.visitColors e.2 e.1) ++
            [d.drawFrame painter options '└' '┘'])) := by
  simp only [drawLines, List.append_assoc, List.cons_append, List.nil_append]

theorem length_headers (d : Description) (options : DrawingOptions) :
    (if d.settings.showIndices then [d.drawHeader options] else []).length = d.headerLines := by
  unfold headerLines
  split
  · rfl
  · rfl

theorem take_drawLines (d : Description) (painter : Painter) (options : DrawingOptions) :
    (d.drawLines painter options).take d.headerLines =
      if d.settings.showIndices then [d.drawHeader options] else [] := by
  rw [drawLines_eq, ← d.length_headers options, List.take_left]

theorem drop_drawLines (d : Description) (painter : Painter) (options : DrawingOptions) :
    (d.drawLines painter options).drop d.headerLines =
      d.drawFrame painter options '┌' '┐' ::
        (d.grid.toLists.zipIdx.map (fun e => d.drawRow painter options d.visitColors e.2 e.1) ++
          [d.drawFrame painter options '└' '┘']) := by
  rw [drawLines_eq, ← d.length_headers options, List.drop_left]

theorem getElem?_drawLines_row (options : DrawingOptions) {row : Nat} {cells : List CellKind}
    (h : d.grid.toLists[row]? = some cells) :
    (d.drawLines painter options)[d.headerLines + 1 + row]? =
      some (d.drawRow painter options d.visitColors row cells) := by
  have hrow : row < (d.grid.toLists.zipIdx.map
      fun e => d.drawRow painter options d.visitColors e.2 e.1).length := by
    rw [List.length_map, List.length_zipIdx]
    exact (List.getElem?_eq_some_iff.1 h).1
  rw [Nat.add_assoc, Nat.add_comm 1 row, ← List.getElem?_drop, drop_drawLines,
    List.getElem?_cons_succ, List.getElem?_append_left hrow, List.getElem?_map,
    List.getElem?_zipIdx, h, Nat.zero_add]
  rfl

/-- Lines of text in which a description is drawn in cells of a width, each in its place. The lines
of the frame and the rows are as long as each other. What belongs to a cell begins behind the label
of the row, the frame, and the cells before it, and so does the number of its column above
the frame. -/
structure Aligned (d : Description) (painter : Painter) (w : Nat) (lines : List Text) : Prop where
  count : lines.length = d.headerLines + d.height + 2
  header : ∀ line ∈ lines.take d.headerLines,
    line.length = d.labelWidth + d.width * w + 1 ∧ ∀ col < d.width,
      Text.window (d.columnStart w col) w line = columnLabel w col ∧
        (columnLabel w col).length = w
  framed : ∀ line ∈ lines.drop d.headerLines, line.length = d.labelWidth + d.width * w + 2
  cell : ∀ row col kind, d.grid.cell? row col = some kind →
    ∃ line, lines[d.headerLines + 1 + row]? = some line ∧
      Text.window (d.columnStart w col) w line =
        d.drawCell painter ⟨w, false⟩ d.visitColors row col kind ∧
      (d.drawCell painter ⟨w, false⟩ d.visitColors row col kind).length = w

theorem aligned_drawLines (hframed : d.Framed) (hd : d.settings.Marked) (hw : 1 ≤ w) :
    d.Aligned painter w (d.drawLines painter ⟨w, false⟩) where
  count := length_drawLines d ..
  header := by
    intro line hline
    rw [take_drawLines] at hline
    split at hline
    · rw [List.mem_singleton.1 hline]
      exact ⟨length_drawHeader hw, fun col hcol =>
        ⟨window_drawHeader hw hcol, length_columnLabel hw col⟩⟩
    · exact absurd hline List.not_mem_nil
  framed := by
    intro line hline
    rw [drop_drawLines, List.mem_cons, List.mem_append, List.mem_singleton, List.mem_map] at hline
    rcases hline with rfl | ⟨⟨cells, row⟩, hrow, rfl⟩ | rfl
    · exact length_drawFrame ..
    · have hheight := List.snd_lt_of_mem_zipIdx hrow
      rw [← Table.height_eq_length, Nat.add_zero] at hheight
      exact length_drawRow hd hw _ hheight (hframed.grid cells (List.fst_mem_of_mem_zipIdx hrow))
    · exact length_drawFrame ..
  cell := by
    intro row col kind hcell
    rw [Table.cell?_eq_bind] at hcell
    obtain ⟨cells, hrow, hkind⟩ := Option.bind_eq_some_iff.1 hcell
    have hheight : row < d.height := by
      rw [height, Table.height_eq_length]
      exact (List.getElem?_eq_some_iff.1 hrow).1
    exact ⟨_, getElem?_drawLines_row _ hrow, window_drawRow hd hw _ hheight hkind,
      length_drawCell painter hd hw ..⟩

/-- The lines of a drawing are those that it was put together from. -/
theorem lines_of_draw (hd : d.settings.Marked) {options : DrawingOptions}
    (hpainter : painter.KeepsLines options) {out : Text} (h : d.draw painter options = .ok out) :
    Text.lines out = d.drawLines painter options ∧
      Text.fields '\n' out = d.drawLines painter options := by
  have hbreak : ∀ line ∈ d.drawLines painter options, ∀ c ∈ line, Text.isLineBreak c = false :=
    fun line => forall_mem_drawLines (fun c hc => hc.not_lineBreak hd) hpainter.unbroken
  have hne : d.drawLines painter options ≠ [] := by simp [drawLines]
  have hlast : (d.drawLines painter options).getLast hne ≠ [] := by
    simp only [drawLines, List.getLast_append_singleton, drawFrame]
    exact List.append_ne_nil_of_right_ne_nil _ (hpainter.visible _ _ (by simp))
  obtain rfl : Text.joined ['\n'] (d.drawLines painter options) = out := by
    unfold draw at h
    split at h
    · cases h
    · exact Except.ok.inj h
  refine ⟨Text.lines_joined hne hlast hbreak, Text.fields_joined hne fun line hline hmem => ?_⟩
  cases hbreak line hline _ hmem

theorem drawingFault?_eq_none_iff (d : Description) (options : DrawingOptions) :
    d.drawingFault? options = none ↔
      (d.settings.showIndices = true → 0 < d.width → Word.holds options.cellWidth = true) ∧
        Word.holds (d.width * options.cellWidth) = true := by
  have hcell : (d.settings.showIndices && 0 < d.width && !Word.holds options.cellWidth) = false ↔
      (d.settings.showIndices = true → 0 < d.width → Word.holds options.cellWidth = true) := by
    simp
  rw [← hcell]
  unfold drawingFault?
  cases d.settings.showIndices && 0 < d.width && !Word.holds options.cellWidth with
  | true => simp
  | false => simp

/-- A description can be drawn exactly if the width of its rows can be counted with, and that of a
cell where column numbers are brought to it. -/
theorem exists_draw_iff (d : Description) (painter : Painter) (options : DrawingOptions) :
    (∃ out, d.draw painter options = .ok out) ↔
      (d.settings.showIndices = true → 0 < d.width → Word.holds options.cellWidth = true) ∧
        Word.holds (d.width * options.cellWidth) = true := by
  rw [← drawingFault?_eq_none_iff, draw]
  split
  · next e he => simp [he]
  · next he => simp [he]

/-- With cells of a width that is not negative, it is the width of the rows that counts: a cell is
no wider than its row. -/
theorem exists_draw_natCast_iff (d : Description) (painter : Painter) (w : Nat) (colorize : Bool) :
    (∃ out, d.draw painter ⟨w, colorize⟩ = .ok out) ↔ (d.width * w : Nat) ≤ Word.largest := by
  rw [exists_draw_iff, ← Word.holds_natCast, Int.natCast_mul, and_iff_right_iff_imp]
  intro hrow _ hwidth
  have hle : w ≤ d.width * w := Nat.le_mul_of_pos_left w hwidth
  rw [← Int.natCast_mul, Word.holds_natCast] at hrow
  rw [Word.holds_natCast]
  omega

end Description

namespace Document

/-- In a document that compiles, the plain drawing is aligned, whatever the size of the grid, the
width of a cell and the placeholders. There is one as long as a row of cells is not too
wide to be counted. -/
theorem aligned_of_compile {text : Text} {d : Draft} (h : compile text = .done d)
    (painter : Painter) {w : Nat} (hw : 1 ≤ w) :
    ((∃ out, d.description.draw painter ⟨w, false⟩ = .ok out) ↔
      (d.description.width * w : Nat) ≤ Word.largest) ∧
    ∀ out, d.description.draw painter ⟨w, false⟩ = .ok out →
      d.description.Aligned painter w (Text.lines out) ∧ Text.fields '\n' out = Text.lines out := by
  have hreached := reached_of_compile h
  have hd := marked_of_reached hreached
  refine ⟨d.description.exists_draw_natCast_iff painter w false, fun out hout => ?_⟩
  obtain ⟨hlines, hfields⟩ := Description.lines_of_draw hd (painter.keepsLines_plain w) hout
  rw [hlines, hfields]
  exact ⟨Description.aligned_drawLines hreached.framed hd hw, rfl⟩

/-- With two digits in the numbers of the rows, and one left of those of the columns. -/
theorem aligned_of_compile_eleven_by_twelve :
    ∃ (text : Text) (d : Draft) (out : Text), compile text = .done d ∧
      d.description.draw .terminal ⟨1, false⟩ = .ok out ∧
      d.description.Aligned .terminal 1 (Text.lines out) ∧
      d.description.labelWidth = 3 ∧ d.description.width = 12 := by
  let text := ("[version:1.0]\n[size:11,12]\n[placeholder-char:._]\n" ++
    "vc:rgb(0:0:0),c(9,10)>c(10,10);\n[current-position:c(10,11)]").toList
  have h : compile text = .done (compile text).state :=
    Attempt.eq_done_iff.2 ⟨rfl, by decide +kernel⟩
  obtain ⟨hlabel, hwidth⟩ : (compile text).state.description.labelWidth = 3 ∧
      (compile text).state.description.width = 12 := by
    decide +kernel
  obtain ⟨hdraw, haligned⟩ := aligned_of_compile h .terminal (w := 1) (by decide)
  obtain ⟨out, hout⟩ := hdraw.2 (by rw [hwidth]; decide)
  exact ⟨text, _, out, h, hout, (haligned out hout).1, hlabel, hwidth⟩

end Document

end Labyrinth
