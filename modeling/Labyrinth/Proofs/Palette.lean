import Labyrinth.Proofs.Joints
import Labyrinth.Proofs.Likeness
import Labyrinth.Proofs.Spellings
import Mathlib.Data.Set.Card

/-!
# The styles of colours

A terminal has few styles, and the colours of visited lines are many. The colours that occur are
put in order, those too that later lines have covered everywhere, and each is shown in the style
of the palette that has its place in this order. So which style that is depends on the set
of colours and on nothing else: it is the number of colours before it that counts, however they
came about.

As long as the palette is not used up, no two colours share a style. If moreover the painter tells
the styles of the palette apart, two cells of lines look alike on the terminal if and only if their
latest visits have one colour.
-/

namespace Labyrinth

/-! ## Places in the order of colours -/

namespace Color

/-- The place of a colour in a list in order is the number of colours in it that are before. -/
theorem idxOf_eq_ncard {colors : List Color} (h : colors.Pairwise Before) {c : Color}
    (hc : c ∈ colors) : colors.idxOf c = {x | x ∈ colors ∧ x.Before c}.ncard := by
  induction colors with
  | nil => cases hc
  | cons d colors ih =>
      obtain ⟨hd, hcolors⟩ := List.pairwise_cons.1 h
      by_cases heq : d = c
      · have hnone : {x | x ∈ d :: colors ∧ x.Before c} = ∅ := by
          rw [Set.eq_empty_iff_forall_notMem]
          rintro x ⟨hx, hbefore⟩
          rw [← heq] at hbefore
          rcases List.mem_cons.1 hx with rfl | hx
          · exact hbefore.2 rfl
          · exact ((hd x hx).trans hbefore).2 rfl
        rw [List.idxOf_cons_eq _ heq, hnone, Set.ncard_empty]
      · have hmem : c ∈ colors := (List.mem_cons.1 hc).resolve_left fun h => heq h.symm
        have hinsert : {x | x ∈ d :: colors ∧ x.Before c} =
            insert d {x | x ∈ colors ∧ x.Before c} := by
          ext x
          simp only [List.mem_cons, Set.mem_ofPred_eq, Set.mem_insert_iff, or_and_right]
          refine or_congr_left (and_iff_left_of_imp fun h => ?_)
          rw [h]
          exact hd c hmem
        have hfinite : {x | x ∈ colors ∧ x.Before c}.Finite :=
          (List.finite_toSet colors).subset fun x hx => hx.1
        have hnew : d ∉ {x | x ∈ colors ∧ x.Before c} := fun hmem => (hd d hmem.1).2 rfl
        rw [List.idxOf_cons_ne _ heq, ih hcolors hmem, hinsert,
          Set.ncard_insert_of_notMem hnew hfinite]

end Color

namespace Style

/-- The style of a colour among those that occur. -/
noncomputable def among (colors : Set Color) (c : Color) : Style :=
  ofRank {x | x ∈ colors ∧ x.Before c}.ncard

/-- No style of the palette is given twice before the palette is used up. -/
theorem ofRank_inj {i j : Nat} (hi : i < palette.length) (hj : j < palette.length) :
    ofRank i = ofRank j ↔ i = j := by
  have hpalette : ∀ i < palette.length, ∀ j < palette.length, ofRank i = ofRank j → i = j := by
    decide
  exact ⟨hpalette i hi j hj, congrArg ofRank⟩

theorem ofRank_mem_palette (rank : Nat) : ofRank rank ∈ palette :=
  List.get_mem ..

end Style

/-! ## Escape sequences in a text -/

/-- A text tells by its beginning which escape sequence it begins with. -/
theorem Text.eq_of_escape_append {parameters parameters' rest rest' : Text}
    (hparameters : ∀ c ∈ parameters, isParameter c = true)
    (hparameters' : ∀ c ∈ parameters', isParameter c = true)
    (h : escape parameters ++ rest = escape parameters' ++ rest') : parameters = parameters' := by
  have hend : isParameter 'm' ≠ true := by decide
  have hsame : parameters ++ 'm' :: rest = parameters' ++ 'm' :: rest' := by
    simpa [escape] using h
  have hcut := congrArg (cut? 'm') hsame
  rw [cut?_append fun hmem => hend (hparameters _ hmem),
    cut?_append fun hmem => hend (hparameters' _ hmem), Option.some.injEq, Prod.mk.injEq] at hcut
  exact hcut.1

/-- Escape sequences break no line. -/
theorem Text.not_lineBreak_of_mem_escape {parameters : Text}
    (h : ∀ c ∈ parameters, isParameter c = true) :
    ∀ c ∈ escape parameters, isLineBreak c = false := by
  have hparameter : ∀ c ∈ parameters, isLineBreak c = false := by
    intro c hc
    rcases Bool.or_eq_true_iff.1 (h c hc) with hdigit | hsemicolon
    · exact Numeral.not_lineBreak_of_isDigit hdigit
    · rw [beq_iff_eq.1 hsemicolon]
      decide
  intro c hc
  rcases List.mem_append.1 hc with hc | hc
  · rcases List.mem_cons.1 hc with rfl | hc
    · decide
    · rcases List.mem_cons.1 hc with rfl | hc
      · decide
      · exact hparameter c hc
  · rw [List.mem_singleton.1 hc]
    decide

theorem Painter.Escaping.keepsLines {painter : Painter} {code : Style → Text}
    (hpainter : painter.Escaping code) (w : Int) : painter.KeepsLines ⟨w, true⟩ where
  unbroken := by
    intro style s hs c hc
    rw [Description.styled_colored, hpainter.paint] at hc
    rcases List.mem_append.1 hc with hc | hc
    · rcases List.mem_append.1 hc with hc | hc
      · exact Text.not_lineBreak_of_mem_escape (hpainter.isParameter style) c hc
      · exact hs c hc
    · exact Text.not_lineBreak_of_mem_escape (List.forall_mem_singleton.2 (by decide)) c hc
  visible := by
    intro style s _
    rw [Description.styled_colored, hpainter.paint]
    exact List.cons_ne_nil _ _

namespace Description

/-! ## The colours of a description -/

/-- The colours that any visit of any cell has. -/
def visitedColors (d : Description) : Set Color :=
  {c | ∃ row col, ∃ v ∈ d.visitsIn row col, v.color = c}

variable {d : Description} {row col : Nat}

theorem mem_visitColors_iff {c : Color} : c ∈ d.visitColors ↔ c ∈ d.visitedColors := by
  rw [visitColors, Color.mem_ascending, mem_colors_iff]
  constructor
  · rintro ⟨row, col, visits, hcell, hv⟩
    refine ⟨row, col, ?_⟩
    rw [visitsIn, hcell]
    exact hv
  · rintro ⟨row, col, v, hv, hcolor⟩
    cases hcell : d.visits.cell? row col with
    | none => simp [visitsIn, hcell] at hv
    | some visits =>
        rw [visitsIn, hcell] at hv
        exact ⟨row, col, visits, hcell, v, hv, hcolor⟩

theorem encard_visitedColors (d : Description) :
    d.visitedColors.encard = d.visitColors.length := by
  have hnodup : d.visitColors.Nodup :=
    (Color.pairwise_ascending _).imp fun hbefore => hbefore.2
  have hset : d.visitedColors = d.visitColors.toFinset := by
    ext c
    rw [← mem_visitColors_iff, Finset.mem_coe, List.mem_toFinset]
  rw [hset, Set.encard_coe_eq_coe_finsetCard, List.toFinset_card_of_nodup hnodup]

theorem visitStyle_eq {c : Color} (h : c ∈ d.visitedColors) :
    visitStyle d.visitColors c = Style.among d.visitedColors c := by
  have hplace := Color.idxOf_eq_ncard (Color.pairwise_ascending _) (mem_visitColors_iff.2 h)
  rw [← visitColors] at hplace
  simp only [visitStyle, Style.among, hplace, mem_visitColors_iff]

theorem among_inj {c c' : Color} (hfew : d.visitedColors.encard ≤ 10) (h : c ∈ d.visitedColors)
    (h' : c' ∈ d.visitedColors) :
    Style.among d.visitedColors c = Style.among d.visitedColors c' ↔ c = c' := by
  rw [encard_visitedColors] at hfew
  have hlength : d.visitColors.length ≤ Style.palette.length := by exact_mod_cast hfew
  rw [← mem_visitColors_iff] at h h'
  have hlt := (List.idxOf_lt_length_of_mem h).trans_le hlength
  have hlt' := (List.idxOf_lt_length_of_mem h').trans_le hlength
  rw [← visitStyle_eq (mem_visitColors_iff.1 h), ← visitStyle_eq (mem_visitColors_iff.1 h'),
    visitStyle, visitStyle, Style.ofRank_inj hlt hlt', List.idxOf_inj h]

/-! ## Cells in colours -/

variable {painter : Painter} {code : Style → Text} {w : Int} {lines : List Text}

/-- The row of a cell as it is drawn in colours, up to this cell. -/
def drawnBefore (d : Description) (painter : Painter) (w : Int) (row col : Nat) : Text :=
  d.rowLabel row ++ styled painter ⟨w, true⟩ .white ['│'] ++
    ((d.grid.toLists.getD row []).zipIdx.take col).flatMap fun e =>
      d.drawCell painter ⟨w, true⟩ d.visitColors row e.2 e.1

/-- In lines of text, a style is switched on where a cell begins, by the sequence with the given
parameters, and switched off where the glyph of the lines through the cell ends. -/
structure DrawnIn (d : Description) (painter : Painter) (w : Int) (lines : List Text)
    (row col : Nat) (parameters : Text) : Prop where
  isParameter : ∀ c ∈ parameters, Text.isParameter c = true
  inPlace : ∃ glyph rest, (d.armsAt row col).draw? w = some glyph ∧
    lines[d.headerLines + 1 + row]? = some (d.drawnBefore painter w row col ++
      (Text.escape parameters ++ glyph ++ Text.escape ['0'] ++ rest))

theorem DrawnIn.unique {parameters parameters' : Text}
    (h : d.DrawnIn painter w lines row col parameters)
    (h' : d.DrawnIn painter w lines row col parameters') : parameters = parameters' := by
  obtain ⟨glyph, rest, -, hline⟩ := h.inPlace
  obtain ⟨glyph', rest', -, hline'⟩ := h'.inPlace
  rw [hline, Option.some.injEq, List.append_right_inj] at hline'
  simp only [List.append_assoc] at hline'
  exact Text.eq_of_escape_append h.isParameter h'.isParameter hline'

/-- The drawing of a row, taken apart at a cell. -/
theorem drawRow_split (painter : Painter) (w : Int) {cells : List CellKind} {kind : CellKind}
    (hrow : d.grid.toLists[row]? = some cells) (hkind : cells[col]? = some kind) :
    ∃ rest, d.drawRow painter ⟨w, true⟩ d.visitColors row cells =
      d.drawnBefore painter w row col ++
        (d.drawCell painter ⟨w, true⟩ d.visitColors row col kind ++ rest) := by
  have hentry : cells.zipIdx[col]? = some (kind, col) := by
    rw [List.getElem?_zipIdx, hkind, Option.map_some, Nat.zero_add]
  have hcells : d.grid.toLists.getD row [] = cells := by
    rw [List.getD_eq_getElem?_getD, hrow, Option.getD_some]
  refine ⟨(cells.zipIdx.drop (col + 1)).flatMap (fun e =>
    d.drawCell painter ⟨w, true⟩ d.visitColors row e.2 e.1) ++
      styled painter ⟨w, true⟩ .white ['│'], ?_⟩
  rw [drawRow_eq, Text.flatMap_split hentry, drawnBefore, hcells]
  simp only [List.append_assoc]

/-- A shown cell is drawn in the style of the colour of its latest visit. -/
theorem Shown.drawnIn (hpainter : painter.Escaping code) (hd : d.Framed) (h : d.Shown row col)
    {latest : Visit} (hlatest : (d.visitsIn row col).back? = some latest) (w : Int) :
    d.DrawnIn painter w (d.drawLines painter ⟨w, true⟩) row col
      (code (Style.among d.visitedColors latest.color)) := by
  obtain ⟨latest', glyph, hlatest', hglyph, hdrawn⟩ := h.exists_line hd
  rw [hlatest, Option.some.injEq] at hlatest'
  rw [← hlatest'] at hdrawn
  obtain ⟨kind, hcell⟩ := h.exists_kind hd
  rw [Table.cell?_eq_bind] at hcell
  obtain ⟨cells, hrow, hcol⟩ := Option.bind_eq_some_iff.1 hcell
  obtain ⟨rest, hsplit⟩ := drawRow_split painter w hrow hcol
  have hcolor : latest.color ∈ d.visitedColors :=
    ⟨row, col, latest, Array.mem_of_back? hlatest, rfl⟩
  refine ⟨hpainter.isParameter _, (d.armsAt row col).padded glyph w, rest, ?_, ?_⟩
  · rw [Sides.draw?, hglyph, Option.map_some]
  · rw [getElem?_drawLines_row _ hrow, hsplit, hdrawn, styled_colored, hpainter.paint,
      visitStyle_eq hcolor]

/-- How lines of text show the colours of the visited lines of a description. -/
structure Colored (d : Description) (painter : Painter) (code : Style → Text) (w : Int)
    (lines : List Text) : Prop where
  /-- A cell is drawn in one style, the one that the colour of its latest visit has among the
  colours that occur. -/
  latest : ∀ row col, d.Shown row col →
    ∃ latest, (d.visitsIn row col).back? = some latest ∧ ∀ parameters,
      d.DrawnIn painter w lines row col parameters ↔
        parameters = code (Style.among d.visitedColors latest.color)
  /-- As long as the palette is not used up, two cells are drawn in one style exactly if their
  latest visits have one colour. -/
  apart : d.visitedColors.encard ≤ 10 → ∀ row col row' col' latest latest',
    d.Shown row col → d.Shown row' col' → (d.visitsIn row col).back? = some latest →
    (d.visitsIn row' col').back? = some latest' →
    ((∃ parameters, d.DrawnIn painter w lines row col parameters ∧
      d.DrawnIn painter w lines row' col' parameters) ↔ latest.color = latest'.color)

theorem colored_drawLines (hpainter : painter.Escaping code)
    (hcodes : ∀ s ∈ Style.palette, ∀ t ∈ Style.palette, code s = code t → s = t)
    (hd : d.Framed) (w : Int) : d.Colored painter code w (d.drawLines painter ⟨w, true⟩) where
  latest := by
    intro row col hshown
    obtain ⟨latest, -, hlatest, -⟩ := hshown.exists_line hd
    have hdrawn := hshown.drawnIn hpainter hd hlatest w
    refine ⟨latest, hlatest, fun parameters => ⟨fun hparameters => hparameters.unique hdrawn, ?_⟩⟩
    rintro rfl
    exact hdrawn
  apart := by
    intro hfew row col row' col' latest latest' hshown hshown' hlatest hlatest'
    have hdrawn := hshown.drawnIn hpainter hd hlatest w
    have hdrawn' := hshown'.drawnIn hpainter hd hlatest' w
    rw [← among_inj hfew ⟨_, _, _, Array.mem_of_back? hlatest, rfl⟩
      ⟨_, _, _, Array.mem_of_back? hlatest', rfl⟩]
    constructor
    · rintro ⟨parameters, hparameters, hparameters'⟩
      have hsame := (hparameters.unique hdrawn).symm.trans (hparameters'.unique hdrawn')
      exact hcodes _ (Style.ofRank_mem_palette _) _ (Style.ofRank_mem_palette _) hsame
    · intro heq
      exact ⟨_, hdrawn, heq ▸ hdrawn'⟩

end Description

namespace Document

/-- In the coloured drawing of a compiled document, a line through a cell is shown in the style that
the colour of its latest visit has among the colours that occur. If these are no more than the
styles of the palette, two cells are shown in one style exactly if their latest visits have one
colour. All that the painter has to do for it is to write escape sequences, and for each style of
the palette one of its own. There is a drawing as long as the widths of a cell and of a row of cells
can be counted with. -/
theorem colors_of_compile {painter : Painter} {code : Style → Text}
    (hpainter : painter.Escaping code)
    (hcodes : ∀ s ∈ Style.palette, ∀ t ∈ Style.palette, code s = code t → s = t)
    {text : Text} {d : Draft} (h : compile text = .done d) (w : Int) :
    ((∃ out, d.description.draw painter ⟨w, true⟩ = .ok out) ↔
      (d.description.settings.showIndices = true → 0 < d.description.width →
        Word.holds w = true) ∧ Word.holds (d.description.width * w) = true) ∧
    ∀ out, d.description.draw painter ⟨w, true⟩ = .ok out →
      d.description.Colored painter code w (Text.lines out) := by
  have hreached := reached_of_compile h
  have hmarked := marked_of_reached hreached
  refine ⟨d.description.exists_draw_iff painter ⟨w, true⟩, fun out hout => ?_⟩
  rw [(Description.lines_of_draw hmarked (hpainter.keepsLines w) hout).1]
  exact Description.colored_drawLines hpainter hcodes hreached.framed w

/-- Black is covered everywhere by blue and has the first style all the same. The line in blue has
the second one, and the line in green, which was drawn before both, has the third. -/
theorem colors_of_compile_covered :
    ∃ (text : Text) (d : Draft) (out : Text), compile text = .done d ∧
      d.description.draw .terminal ⟨2, true⟩ = .ok out ∧
      d.description.visitedColors.encard = 3 ∧
      d.description.DrawnIn .terminal 2 (Text.lines out) 0 0 "32".toList ∧
      d.description.DrawnIn .terminal 2 (Text.lines out) 1 0 "33".toList ∧
      ¬ ∃ parameters, d.description.DrawnIn .terminal 2 (Text.lines out) 0 0 parameters ∧
        d.description.DrawnIn .terminal 2 (Text.lines out) 1 0 parameters := by
  let text := ("[version:1.0]\n[size:2,2]\nvc:rgb(0:255:0),c(1,0)>c(1,1);\n" ++
    "vc:rgb(0:0:0),c(0,0)>c(0,1);\nvc:rgb(0:0:255),c(0,1)>c(0,0);").toList
  let d := (compile text).state.description
  obtain ⟨hfault, hvisited, hnowhere, hcolors, hblueColor, hgreenColor, hwidth⟩ :
      (compile text).fault = none ∧
      (∀ row : Nat, row < 2 → d.grid.contains ⟨row, 0⟩ = true ∧ d.visitsIn row 0 ≠ #[]) ∧
      d.currentPosition = none ∧ d.visitColors = [⟨0, 0, 0⟩, ⟨0, 0, 255⟩, ⟨0, 255, 0⟩] ∧
      (d.visitsIn 0 0).back?.map Visit.color = some ⟨0, 0, 255⟩ ∧
      (d.visitsIn 1 0).back?.map Visit.color = some ⟨0, 255, 0⟩ ∧ d.width = 2 := by
    decide +kernel
  have h : compile text = .done (compile text).state := Attempt.eq_done_iff.2 ⟨rfl, hfault⟩
  have hshown : ∀ row : Nat, row < 2 → d.Shown row 0 := by
    intro row hrow
    have hframed : d.Framed := (reached_of_compile h).framed
    exact ⟨(Description.visited_iff hframed).2 (hvisited row hrow), by simp [hnowhere]⟩
  have hcount : d.visitedColors.encard = 3 := by
    rw [Description.encard_visitedColors, hcolors]
    rfl
  obtain ⟨hdraw, hdrawn⟩ := colors_of_compile Painter.escaping_terminal
    (fun _ _ _ _ heq => Style.code_injective heq) h 2
  obtain ⟨out, hout⟩ := hdraw.2 ⟨fun _ _ => by decide, by rw [hwidth]; decide⟩
  obtain ⟨hstyle, hapart⟩ := hdrawn out hout
  obtain ⟨blue, hblue, hdrawn⟩ := hstyle 0 0 (hshown 0 (by decide))
  obtain ⟨green, hgreen, hdrawn'⟩ := hstyle 1 0 (hshown 1 (by decide))
  have hstyles := fun row (v : Visit) (hv : (d.visitsIn row 0).back? = some v) =>
    Description.visitStyle_eq (d := d) ⟨row, 0, v, Array.mem_of_back? hv, rfl⟩
  rw [hblue, Option.map_some, Option.some.injEq] at hblueColor
  rw [hgreen, Option.map_some, Option.some.injEq] at hgreenColor
  refine ⟨text, _, out, h, hout, hcount, (hdrawn _).2 ?_, (hdrawn' _).2 ?_, ?_⟩
  · rw [← hstyles 0 blue hblue, hcolors, hblueColor]
    decide
  · rw [← hstyles 1 green hgreen, hcolors, hgreenColor]
    decide
  · rw [hapart (hcount.trans_le (by exact_mod_cast (by decide : 3 ≤ 10))) 0 0 1 0 blue green
      (hshown 0 (by decide)) (hshown 1 (by decide)) hblue hgreen, hblueColor, hgreenColor]
    decide

end Document

end Labyrinth
