import Labyrinth.Proofs.Openings

/-!
# Walls are one cell thick

Wherever one looks in a maze, of two cells by two at least one is open, at the border
as well as inside. At first all of the interior is open and every such square reaches
into it. What a cut closes lies in the chamber that it divides, which was open
throughout, and both of its walls run strictly inside. Next to a closed cell there are
therefore cells of the chamber on either side of the wall, so a square that has lost its
open cell still has one off both walls. What happens elsewhere at the same time, in the
neighbouring chambers or in the walls around them, does not matter.

The split positions alone carry this: that a pair of positions may be refused plays no
part in it, nor does where the holes are.
-/

namespace Labyrinth

namespace Maze

/-- Two cells by two are wall, the given one being the top left of them. -/
def WallBlock (m : Maze) (row col : Nat) : Prop :=
  ∀ i j, row ≤ i → i ≤ row + 1 → col ≤ j → j ≤ col + 1 → m.cell? i j = some false

/-- Of two cells by two, wherever they are, one is open. -/
def Thin (m : Maze) (height width : Nat) : Prop :=
  ∀ row col, row + 1 < height → col + 1 < width →
    ∃ i j, row ≤ i ∧ i ≤ row + 1 ∧ col ≤ j ∧ j ≤ col + 1 ∧ m.isOpen i j = true

theorem Thin.not_wallBlock {m : Maze} {height width : Nat} (hm : m.Thin height width)
    (hsides : m.HasSides height width) (row col : Nat) : ¬ m.WallBlock row col := by
  intro hblock
  -- The last of the four cells is there, so the square lies in the maze.
  have hthere : (m.cell? (row + 1) (col + 1)).isSome = true := by
    rw [hblock _ _ (by omega) (by omega) (by omega) (by omega)]
    rfl
  obtain ⟨hrow, hcol⟩ := hsides.isSome_cell?_iff.1 hthere
  obtain ⟨i, j, hi, hi', hj, hj', ho⟩ := hm row col hrow hcol
  rw [isOpen, hblock i j hi hi' hj hj'] at ho
  cases ho

theorem thin_bordered {height width : Nat} (hh : 3 ≤ height) (hw : 3 ≤ width) :
    (bordered height width).Thin height width := by
  -- One of two neighbouring lines, the second if the first is the border, is inside.
  have hinner : ∀ {side : Nat}, 3 ≤ side → ∀ start, start + 1 < side →
      ∃ x, start ≤ x ∧ x ≤ start + 1 ∧ 0 < x ∧ x < side - 1 := by
    intro side hside start hstart
    by_cases hzero : start = 0
    · exact ⟨start + 1, by omega, by omega, by omega, by omega⟩
    · exact ⟨start, by omega, by omega, by omega, by omega⟩
  intro row col hrow hcol
  obtain ⟨i, hi, hi', htop, hbottom⟩ := hinner hh row hrow
  obtain ⟨j, hj, hj', hleft, hright⟩ := hinner hw col hcol
  exact ⟨i, j, hi, hi', hj, hj', isOpen_bordered.2 ⟨htop, hbottom, hleft, hright⟩⟩

end Maze

/-! ## A cut -/

/-- Of two neighbouring lines, one of which crosses a chamber, one crosses it beside the wall. -/
theorem exists_beside {low cross high start x : Nat} (hlow : low < cross) (hhigh : cross < high)
    (hx : low ≤ x) (hx' : x ≤ high) (hstart : start ≤ x) (hend : x ≤ start + 1) :
    ∃ y, start ≤ y ∧ y ≤ start + 1 ∧ y ≠ cross ∧ low ≤ y ∧ y ≤ high := by
  by_cases hcross : x = cross
  · by_cases hfirst : x = start
    · exact ⟨x + 1, by omega, by omega, by omega, by omega, by omega⟩
    · exact ⟨x - 1, by omega, by omega, by omega, by omega, by omega⟩
  · exact ⟨x, hstart, hend, hcross, hx, hx'⟩

theorem Cut.Applies.thin_apply {cut : Cut} {m : Maze} {height width : Nat}
    (h : cut.Applies m height width) (hm : m.Thin height width) :
    (cut.apply m).Thin height width := by
  intro row col hrow hcol
  obtain ⟨i, j, hi, hi', hj, hj', ho⟩ := hm row col hrow hcol
  by_cases hclosed : cut.split.Closes m i j
  · obtain ⟨htop, hbottom, hleft, hright⟩ :=
      Chamber.contains_iff.1 (Split.contains_of_closes h.proper.fits hclosed)
    obtain ⟨a, ha, ha', harow, htop, hbottom⟩ :=
      exists_beside h.proper.fits.top_lt h.proper.fits.row_lt htop hbottom hi hi'
    obtain ⟨b, hb, hb', hbcol, hleft, hright⟩ :=
      exists_beside h.proper.fits.left_lt h.proper.fits.column_lt hleft hright hj hj'
    have hin := h.isOpen a b (Chamber.contains_iff.2 ⟨htop, hbottom, hleft, hright⟩)
    exact ⟨a, b, ha, ha', hb, hb', h.isOpen_clear harow hbcol hin⟩
  · exact ⟨i, j, hi, hi', hj, hj', h.isOpen_apply_iff.2 (.inl ⟨ho, hclosed⟩)⟩

/-! ## The finished maze -/

theorem Maze.Opened.thin {n m : Maze} {height width first last : Nat}
    (h : n.Opened m height width first last) (hn : n.Thin height width) : m.Thin height width := by
  intro row col hrow hcol
  obtain ⟨i, j, hi, hi', hj, hj', ho⟩ := hn row col hrow hcol
  exact ⟨i, j, hi, hi', hj, hj', (h.isOpen_iff i j).2 (.inl ho)⟩

namespace Generator

variable {σ : Type} [Source σ] {width height : Int} {source : σ}

/-- Whatever is drawn, a generation that comes to its end with sides of 3 and more has made a maze
that has nowhere two cells of wall by two. -/
theorem not_wallBlock_of_generate {result : Option Maze} (hw : 3 ≤ width) (hh : 3 ≤ height)
    (h : (generate width height source).maze = .ok result) :
    ∃ m, result = some m ∧ ∀ row col, ¬ m.WallBlock row col := by
  obtain ⟨m, rfl⟩ := exists_maze_of_generate hw hh h
  obtain ⟨e, first, last, hsteps, -, hopened⟩ := exists_opened_of_generate h
  have hfresh := Division.sound_fresh hopened.tall hopened.wide source
  have hthin : e.maze.Thin height.toNat width.toNat :=
    Division.maze_of_steps (P := fun m => m.Thin height.toNat width.toNat)
      (fun _ _ happlies hm => happlies.thin_apply hm) hfresh
      (Maze.thin_bordered hopened.tall hopened.wide) hsteps
  exact ⟨m, rfl, (hopened.thin hthin).not_wallBlock hopened.sides⟩

/-- Three cells of wall, where two walls meet, are as far as it goes. -/
theorem not_wallBlock_of_generate_eight_by_seven :
    ∃ m : Maze, (generate 8 7 (⟨[1, 4, 4, 1, 2, 4, 3, 5, 4, 0, 4, 0, 3, 2, 4, 1, 1, 5, 3, 4]⟩ :
        Script)).maze = .ok (some m) ∧
      (∀ c ∈ [(2, 4), (2, 5), (3, 5)], m.cell? c.1 c.2 = some false) ∧ ¬ m.WallBlock 2 4 := by
  have h : (generate 8 7 (⟨[1, 4, 4, 1, 2, 4, 3, 5, 4, 0, 4, 0, 3, 2, 4, 1, 1, 5, 3, 4]⟩ :
      Script)).maze = .ok (some (.ofLists
        [[false, true, false, false, false, false, false, false],
          [false, true, true, true, true, false, true, false],
          [false, true, false, false, false, false, true, false],
          [false, true, true, true, true, false, true, false],
          [false, true, false, false, false, false, true, false],
          [false, true, true, true, true, true, true, false],
          [false, false, false, false, false, false, true, false]])) := by
    decide +kernel
  obtain ⟨m, hm, hblock⟩ := not_wallBlock_of_generate (by decide) (by decide) h
  obtain rfl := Option.some.inj hm
  exact ⟨_, h, by decide +kernel, hblock 2 4⟩

end Generator

end Labyrinth
