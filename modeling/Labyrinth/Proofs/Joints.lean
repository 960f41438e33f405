import Labyrinth.Proofs.Balance
import Labyrinth.Proofs.Layout

/-!
# Lines that join up

A visited line crosses from cell to cell, but it is drawn cell by cell, each by itself. That the
pieces join up has several reasons that have nothing to do with each other. The arms of
neighbouring cells answer each other, because visits are added by whole lines. The table of glyphs
gives a set of sides the character that reaches these sides. And the strokes that fill a wide cell
are as many on both sides of the border together as there are places between two glyphs, although
neither side need have half of them.

What a character reaches is not read off the table. `armed` lists for each side the characters
that have a stroke there, as they look.
-/

namespace Labyrinth

/-! ## Glyphs -/

/-- The box-drawing characters with an arm on a side. -/
def armed : Move → List Char
  | .left => ['╴', '─', '┐', '┘', '┬', '┴', '┤', '┼']
  | .up => ['╵', '│', '└', '┘', '┴', '├', '┤', '┼']
  | .right => ['╶', '─', '┌', '└', '┬', '┴', '├', '┼']
  | .down => ['╷', '│', '┌', '┐', '┬', '├', '┤', '┼']

/-- The glyph of some sides has its arms on these sides. -/
theorem Sides.mem_armed_iff {s : Sides} {glyph : Char} (h : s.glyph? = some glyph) (m : Move) :
    glyph ∈ armed m ↔ s.has m = true := by
  obtain ⟨_ | _, _ | _, _ | _, _ | _⟩ := s <;> cases h <;> cases m <;> decide

theorem Shape.exists_has_arms (s : Shape) : ∃ m, s.arms.has m = true := by
  cases s with
  | horizontalLeft | horizontal | topRight | bottomRight => exact ⟨.left, rfl⟩
  | horizontalRight | topLeft | bottomLeft => exact ⟨.right, rfl⟩
  | verticalUp | vertical => exact ⟨.up, rfl⟩
  | verticalDown => exact ⟨.down, rfl⟩

namespace Description

theorem has_visitArms {visits : Array Visit} {m : Move} :
    (visitArms visits).has m = true ↔ ∃ v ∈ visits, v.shape.arms.has m = true := by
  have hfold : ∀ (vs : List Visit) (s : Sides),
      (vs.foldl (fun sides v => sides.union v.shape.arms) s).has m = true ↔
        s.has m = true ∨ ∃ v ∈ vs, v.shape.arms.has m = true := by
    intro vs
    induction vs with
    | nil => simp
    | cons v vs ih =>
        intro s
        rw [List.foldl_cons, ih, Sides.has_union, Bool.or_eq_true, or_assoc,
          List.exists_mem_cons_iff]
  have hempty : Sides.empty.has m ≠ true := by cases m <;> decide
  rw [visitArms, ← Array.foldl_toList, hfold]
  simp only [hempty, Bool.false_eq_true, false_or, Array.mem_toList_iff]

/-! ## Cells that a line passes -/

/-- A cell of the grid that has been visited. -/
def Visited (d : Description) (c : Coordinate) : Prop :=
  d.grid.contains c = true ∧ ∃ visits, d.visitsAt c = .ok visits ∧ visits ≠ #[]

/-- The sides of a cell that have an arm. -/
def armsAt (d : Description) (row col : Nat) : Sides :=
  visitArms (d.visitsIn row col)

variable {d : Description}

theorem visitsAt_eq (hd : d.Framed) {row col : Nat}
    (h : d.grid.contains ⟨row, col⟩ = true) : d.visitsAt ⟨row, col⟩ = .ok (d.visitsIn row col) := by
  have hin := hd.visits.contains_congr hd.hasSides h
  obtain ⟨visits, hvisits⟩ := Table.get_of_contains hd.visits.rectangular hin
  have hcell := (Table.get_eq_ok_iff hd.visits.rectangular hin).1 hvisits
  simp only [Int.toNat_natCast] at hcell
  rw [visitsIn, hcell]
  exact hvisits

theorem visited_iff (hd : d.Framed) {row col : Nat} :
    d.Visited ⟨row, col⟩ ↔ d.grid.contains ⟨row, col⟩ = true ∧ d.visitsIn row col ≠ #[] := by
  refine and_congr_right fun h => ?_
  rw [visitsAt_eq hd h]
  simp

/-- Of a cell with an arm, the neighbour on this side has been visited and has an arm back. -/
theorem Balanced.visited_step (hbalanced : d.Balanced) (hd : d.Framed) {row col : Nat} {m : Move}
    (hin : d.grid.contains ⟨row, col⟩ = true) (harm : (d.armsAt row col).has m = true) :
    d.Visited ((⟨row, col⟩ : Coordinate).step m) ∧
      ∃ others, d.visitsAt ((⟨row, col⟩ : Coordinate).step m) = .ok others ∧
        (visitArms others).has m.opposite = true := by
  obtain ⟨v, hv, hvarm⟩ := has_visitArms.1 harm
  obtain ⟨hin', others, hothers, w, hw, -, hwarm⟩ :=
    hbalanced.exists_opposite hin (visitsAt_eq hd hin) hv hvarm
  exact ⟨⟨hin', others, hothers, Array.ne_empty_of_mem hw⟩, others, hothers,
    has_visitArms.2 ⟨w, hw, hwarm⟩⟩

/-- Neighbours have an arm to each other or neither has. -/
theorem Balanced.has_armsAt (hbalanced : d.Balanced) (hd : d.Framed) {row col row' col' : Nat}
    {m : Move} (hin : d.grid.contains ⟨row, col⟩ = true)
    (hin' : d.grid.contains ⟨row', col'⟩ = true)
    (hstep : (⟨row, col⟩ : Coordinate).step m = ⟨row', col'⟩) :
    (d.armsAt row col).has m = (d.armsAt row' col').has m.opposite := by
  have hback : (⟨row', col'⟩ : Coordinate).step m.opposite = ⟨row, col⟩ := by
    rw [← hstep, Coordinate.step_step_opposite]
  rw [Bool.eq_iff_iff]
  constructor
  · intro harm
    obtain ⟨-, others, hothers, hopposite⟩ := hbalanced.visited_step hd hin harm
    rw [hstep, visitsAt_eq hd hin', Except.ok.injEq] at hothers
    rw [armsAt, hothers]
    exact hopposite
  · intro harm
    obtain ⟨-, others, hothers, hopposite⟩ := hbalanced.visited_step hd hin' harm
    rw [hback, visitsAt_eq hd hin, Except.ok.injEq] at hothers
    rw [armsAt, hothers, ← Move.opposite_opposite m]
    exact hopposite

/-! ## Where a line is drawn -/

/-- A cell that shows the lines through it: one that has been visited, and not the current
position. -/
structure Shown (d : Description) (row col : Nat) : Prop where
  visited : d.Visited ⟨row, col⟩
  elsewhere : d.currentPosition ≠ some ⟨row, col⟩

variable {painter : Painter} {w : Nat} {lines : List Text} {row col : Nat}

theorem Shown.exists_kind (hd : d.Framed) (h : d.Shown row col) :
    ∃ kind, d.grid.cell? row col = some kind := by
  obtain ⟨-, hrow, -, hcol⟩ := Table.contains_iff.1 h.visited.1
  exact Option.isSome_iff_exists.1
    (hd.hasSides.isSome_cell?_iff.2 ⟨Int.ofNat_lt.1 hrow, Int.ofNat_lt.1 hcol⟩)

/-- What is drawn in a shown cell are the lines through it, in the style of the latest of them. -/
theorem Shown.exists_line (hd : d.Framed) (h : d.Shown row col) :
    ∃ latest glyph, (d.visitsIn row col).back? = some latest ∧
      (d.armsAt row col).glyph? = some glyph ∧ ∀ painter options colors kind,
        d.drawCell painter options colors row col kind =
          styled painter options (visitStyle colors latest.color)
            ((d.armsAt row col).padded glyph options.cellWidth) := by
  obtain ⟨-, hvisits⟩ := (visited_iff hd).1 h.visited
  obtain ⟨latest, hlatest⟩ : ∃ latest, (d.visitsIn row col).back? = some latest :=
    Option.ne_none_iff_exists'.1 fun hnone => hvisits (Array.back?_eq_none_iff.1 hnone)
  have harms : d.armsAt row col ≠ Sides.empty := by
    intro hempty
    obtain ⟨m, hm⟩ := latest.shape.exists_has_arms
    have harm : (d.armsAt row col).has m = true :=
      has_visitArms.2 ⟨latest, Array.mem_of_back? hlatest, hm⟩
    rw [hempty] at harm
    cases m <;> cases harm
  obtain ⟨glyph, hglyph⟩ : ∃ glyph, (d.armsAt row col).glyph? = some glyph :=
    Option.ne_none_iff_exists'.1 fun hnone => harms (Sides.glyph?_eq_none_iff.1 hnone)
  refine ⟨latest, glyph, hlatest, hglyph, fun painter options colors kind => ?_⟩
  have hline : (visitArms (d.visitsIn row col)).draw? options.cellWidth =
      some ((d.armsAt row col).padded glyph options.cellWidth) := by
    show (d.armsAt row col).draw? options.cellWidth = _
    rw [Sides.draw?, hglyph, Option.map_some]
  unfold drawCell
  dsimp only
  rw [if_neg h.elsewhere, hlatest, hline]

/-- Where the glyph of a column stands in its lines. -/
def glyphPlace (d : Description) (w col : Nat) : Nat :=
  d.columnStart w col + (w - 1) / 2

/-- A row is drawn as a line, and one of its cells with a glyph in its middle. -/
structure Drawn (d : Description) (w : Nat) (lines : List Text) (row col : Nat) (text : Text)
    (glyph : Char) : Prop where
  onLine : lines[d.headerLines + 1 + row]? = some text
  inPlace : text[d.glyphPlace w col]? = some glyph

/-- How lines of text show the visited lines of a description. -/
structure Joined (d : Description) (w : Nat) (lines : List Text) : Prop where
  /-- Between two glyphs side by side, each with an arm to the other, there are strokes only, and
  else neither has an arm, and there are blanks only. -/
  across : ∀ row col, d.Shown row col → d.Shown row (col + 1) → ∃ line left right,
    d.Drawn w lines row col line left ∧ d.Drawn w lines row (col + 1) line right ∧
    (left ∈ armed .right ∧ right ∈ armed .left ∧
        Text.window (d.glyphPlace w col + 1) (w - 1) line = List.replicate (w - 1) '─' ∨
      left ∉ armed .right ∧ right ∉ armed .left ∧
        Text.window (d.glyphPlace w col + 1) (w - 1) line = List.replicate (w - 1) ' ')
  /-- Of two glyphs one below the other, both have an arm to the other or neither. -/
  down : ∀ row col, d.Shown row col → d.Shown (row + 1) col → ∃ line line' upper lower,
    d.Drawn w lines row col line upper ∧ d.Drawn w lines (row + 1) col line' lower ∧
    (upper ∈ armed .down ↔ lower ∈ armed .up)
  /-- No arm leads to a cell that has not been visited, or out of the grid. -/
  apart : ∀ row col m, d.Shown row col → ¬ d.Visited ((⟨row, col⟩ : Coordinate).step m) →
    ∃ line glyph, d.Drawn w lines row col line glyph ∧ glyph ∉ armed m ∧
      (m = .left → Text.window (d.columnStart w col) ((w - 1) / 2) line =
        List.replicate ((w - 1) / 2) ' ') ∧
      (m = .right → Text.window (d.glyphPlace w col + 1) (w - 1 - (w - 1) / 2) line =
        List.replicate (w - 1 - (w - 1) / 2) ' ')

/-- What is drawn of a shown cell: a glyph with an arm on the sides that are reached, and strokes
or blanks on both sides of it. -/
theorem Shown.exists_drawn (hframed : d.Framed) (haligned : d.Aligned painter w lines)
    (h : d.Shown row col) : ∃ line glyph, d.Drawn w lines row col line glyph ∧
      (∀ m, glyph ∈ armed m ↔ (d.armsAt row col).has m = true) ∧
      (∃ rest, line.drop (d.columnStart w col) =
        List.replicate ((w - 1) / 2) (Sides.stroke (d.armsAt row col).left) ++ rest) ∧
      line.drop (d.glyphPlace w col + 1) =
        List.replicate (w - 1 - (w - 1) / 2) (Sides.stroke (d.armsAt row col).right) ++
          line.drop (d.columnStart w (col + 1)) := by
  obtain ⟨latest, glyph, -, hglyph, hstyled⟩ := h.exists_line hframed
  have hdrawn : ∀ colors kind, d.drawCell painter ⟨w, false⟩ colors row col kind =
      (d.armsAt row col).padded glyph w := hstyled painter ⟨w, false⟩
  obtain ⟨kind, hkind⟩ := h.exists_kind hframed
  obtain ⟨line, hline, hwindow, -⟩ := haligned.cell row col kind hkind
  have hnext : d.columnStart w (col + 1) = d.columnStart w col + w := by
    rw [columnStart, columnStart, Nat.succ_mul]
    omega
  have hsplit := (List.take_append_drop w (line.drop (d.columnStart w col))).symm
  rw [List.drop_drop, ← hnext, ← Text.window, hwindow, hdrawn] at hsplit
  simp only [Sides.padded, Sides.leftPadding, Sides.rightPadding, List.append_assoc,
    List.singleton_append] at hsplit
  have hpadding : ((w : Int) - 1).toNat = w - 1 := by omega
  rw [hpadding] at hsplit
  refine ⟨line, glyph, ⟨hline, ?_⟩, Sides.mem_armed_iff hglyph, ⟨_, hsplit⟩, ?_⟩
  · rw [glyphPlace, ← List.getElem?_drop, hsplit, List.getElem?_append_right (by simp)]
    simp
  · have hpast : d.glyphPlace w col + 1 = d.columnStart w col + ((w - 1) / 2 + 1) :=
      Nat.add_assoc ..
    rw [hpast, ← List.drop_drop, hsplit, ← List.drop_drop,
      List.drop_left' List.length_replicate]
    rfl

/-- If the visits are balanced, an aligned drawing joins up. -/
theorem Aligned.joined (haligned : d.Aligned painter w lines) (hd : d.Framed)
    (hbalanced : d.Balanced) : d.Joined w lines where
  across := by
    intro row col hfirst hsecond
    obtain ⟨line, left, hleft, harmed, -, hpast⟩ := hfirst.exists_drawn hd haligned
    obtain ⟨line', right, hright, harmed', ⟨rest, hrest⟩, -⟩ := hsecond.exists_drawn hd haligned
    obtain rfl : line = line' := Option.some.inj (hleft.onLine.symm.trans hright.onLine)
    have hsame : (d.armsAt row col).has .right = (d.armsAt row (col + 1)).has .left :=
      hbalanced.has_armsAt hd hfirst.visited.1 hsecond.visited.1
        (by simp [Coordinate.step, Move.delta])
    -- The strokes behind the one glyph and those before the other fill what is between.
    have hbetween : Text.window (d.glyphPlace w col + 1) (w - 1) line =
        List.replicate (w - 1) (Sides.stroke ((d.armsAt row col).has .right)) := by
      have hcount : (w - 1 - (w - 1) / 2) + (w - 1) / 2 = w - 1 := by omega
      have hleft' : (d.armsAt row (col + 1)).left = (d.armsAt row col).right := hsame.symm
      rw [Text.window, hpast, hrest, hleft', ← List.append_assoc, List.replicate_append_replicate,
        hcount]
      exact List.take_left' List.length_replicate
    refine ⟨line, left, right, hleft, hright, ?_⟩
    rw [hbetween, harmed, harmed', hsame]
    cases (d.armsAt row (col + 1)).has .left with
    | true => exact .inl ⟨rfl, rfl, rfl⟩
    | false => exact .inr ⟨Bool.false_ne_true, Bool.false_ne_true, rfl⟩
  down := by
    intro row col hupper hlower
    obtain ⟨line, upper, hdrawn, harmed, -⟩ := hupper.exists_drawn hd haligned
    obtain ⟨line', lower, hdrawn', harmed', -⟩ := hlower.exists_drawn hd haligned
    have hsame : (d.armsAt row col).has .down = (d.armsAt (row + 1) col).has .up :=
      hbalanced.has_armsAt hd hupper.visited.1 hlower.visited.1
        (by simp [Coordinate.step, Move.delta])
    refine ⟨line, line', upper, lower, hdrawn, hdrawn', ?_⟩
    rw [harmed, harmed', hsame]
  apart := by
    intro row col m hshown hunvisited
    obtain ⟨line, glyph, hdrawn, harmed, ⟨rest, hrest⟩, hpast⟩ := hshown.exists_drawn hd haligned
    have hnone : (d.armsAt row col).has m = false := by
      rw [← Bool.not_eq_true]
      exact fun harm => hunvisited (hbalanced.visited_step hd hshown.visited.1 harm).1
    refine ⟨line, glyph, hdrawn, by rw [harmed, hnone]; decide, ?_, ?_⟩
    · rintro rfl
      have hleft : (d.armsAt row col).left = false := hnone
      rw [Text.window, hrest, hleft]
      exact List.take_left' List.length_replicate
    · rintro rfl
      have hright : (d.armsAt row col).right = false := hnone
      rw [Text.window, hpast, hright]
      exact List.take_left' List.length_replicate

end Description

namespace Document

end Document

end Labyrinth
