import Labyrinth.Proofs.Openings

/-!
# Division is complete

A block is a square of three cells by three, all of them open. At the beginning the
maze is full of blocks, all in the one chamber that waits, and as the division goes on
every block lies in a chamber that waits. A chamber that is dropped is too small for a
block. A chamber that is divided keeps blocks in its quarters only: a block that meets
one of the two walls needs three open cells of that wall in a row, and a wall has no
such three. Apart from its ends it is open at holes only, no two holes stand side by
side, and between the ends there is the crossing.

In the end no chamber waits, so no block is left, and the two cells that are opened in
the border stand alone in their rows.
-/

namespace Labyrinth

namespace Maze

/-- Three cells by three are open, the given one being the top left of them. -/
def OpenBlock (m : Maze) (row col : Nat) : Prop :=
  ∀ i j, row ≤ i → i ≤ row + 2 → col ≤ j → j ≤ col + 2 → m.isOpen i j = true

end Maze

/-! ## Three cells of a wall -/

/-- Along a wall from `low` to `high` that is closed at its crossing, and that apart from its two
ends has no two open cells side by side, three cells in a row are not all open. -/
theorem exists_closed_of_three (isOpen : Nat → Bool) {low cross high start : Nat}
    (hlow : low < cross) (hhigh : cross < high) (hcross : isOpen cross = false)
    (hinner : ∀ i, low < i → i + 1 < high → isOpen i = true → isOpen (i + 1) = false)
    (hstart : low ≤ start) (hend : start + 2 ≤ high) :
    ∃ i, start ≤ i ∧ i ≤ start + 2 ∧ isOpen i = false := by
  by_cases hmiddle : isOpen (start + 1) = true
  · by_cases hfirst : low < start
    · by_cases hopen : isOpen start = true
      · exact ⟨start + 1, by omega, by omega, hinner start hfirst (by omega) hopen⟩
      · exact ⟨start, by omega, by omega, Bool.not_eq_true _ ▸ hopen⟩
    · by_cases hlast : start + 2 < high
      · exact ⟨start + 2, by omega, by omega, hinner (start + 1) (by omega) hlast hmiddle⟩
      · -- The three are the whole wall, so the crossing is the one in the middle.
        obtain rfl : cross = start + 1 := by omega
        exact ⟨start + 1, by omega, by omega, hcross⟩
  · exact ⟨start + 1, by omega, by omega, Bool.not_eq_true _ ▸ hmiddle⟩

namespace Cut.Applies

variable {cut : Cut} {m : Maze} {height width : Nat}

/-- What is open in the column of wall is a hole, unless it is an end. -/
theorem hole_of_isOpen_column (h : cut.Applies m height width) {row : Nat}
    (hlow : cut.split.chamber.top < row) (hhigh : row < cut.split.chamber.bottom)
    (ho : (cut.apply m).isOpen row cut.split.column = true) :
    (row, cut.split.column) ∈ cut.holes := by
  rcases h.isOpen_apply_iff.1 ho with ⟨-, hclear⟩ | ⟨hhole, -⟩
  · have hgap := Split.isColumnGap_of_between (m := m) hlow hhigh
    exact absurd (.inl ⟨rfl, by omega, by omega, hgap⟩) hclear
  · exact hhole

/-- What is open in the row of wall is a hole, unless it is an end. -/
theorem hole_of_isOpen_row (h : cut.Applies m height width) {col : Nat}
    (hlow : cut.split.chamber.left < col) (hhigh : col < cut.split.chamber.right)
    (ho : (cut.apply m).isOpen cut.split.row col = true) :
    (cut.split.row, col) ∈ cut.holes := by
  rcases h.isOpen_apply_iff.1 ho with ⟨-, hclear⟩ | ⟨hhole, -⟩
  · have hgap := Split.isRowGap_of_between (m := m) hlow hhigh
    exact absurd (.inr ⟨rfl, by omega, by omega, hgap⟩) hclear
  · exact hhole

theorem exists_closed_column (h : cut.Applies m height width) (row : Nat)
    (hlow : cut.split.chamber.top ≤ row) (hhigh : row + 2 ≤ cut.split.chamber.bottom) :
    ∃ i, row ≤ i ∧ i ≤ row + 2 ∧ (cut.apply m).isOpen i cut.split.column = false := by
  refine exists_closed_of_three (fun i => (cut.apply m).isOpen i cut.split.column)
    h.proper.fits.top_lt h.proper.fits.row_lt h.isOpen_crossing (fun i hi hlt ho => ?_) hlow hhigh
  have hhole := h.hole_of_isOpen_column hi (by omega) ho
  rw [← Bool.not_eq_true]
  intro hnext
  have hhole' := h.hole_of_isOpen_column (by omega) hlt hnext
  exact h.proper.not_adjacent_holes hhole hhole' (.inr ⟨rfl, rfl⟩)

theorem exists_closed_row (h : cut.Applies m height width) (col : Nat)
    (hlow : cut.split.chamber.left ≤ col) (hhigh : col + 2 ≤ cut.split.chamber.right) :
    ∃ j, col ≤ j ∧ j ≤ col + 2 ∧ (cut.apply m).isOpen cut.split.row j = false := by
  refine exists_closed_of_three (fun j => (cut.apply m).isOpen cut.split.row j)
    h.proper.fits.left_lt h.proper.fits.column_lt h.isOpen_crossing (fun j hj hlt ho => ?_)
    hlow hhigh
  have hhole := h.hole_of_isOpen_row hj (by omega) ho
  rw [← Bool.not_eq_true]
  intro hnext
  have hhole' := h.hole_of_isOpen_row (by omega) hlt hnext
  exact h.proper.not_adjacent_holes hhole hhole' (.inl ⟨rfl, rfl⟩)

/-- A block that a cut leaves in its chamber lies in one of the quarters. -/
theorem exists_quarter_of_openBlock (h : cut.Applies m height width) {row col : Nat}
    (hblock : (cut.apply m).OpenBlock row col)
    (hfirst : cut.split.chamber.contains row col = true)
    (hlast : cut.split.chamber.contains (row + 2) (col + 2) = true) :
    ∃ q ∈ cut.split.quarters,
      q.contains row col = true ∧ q.contains (row + 2) (col + 2) = true := by
  rw [Chamber.contains_iff] at hfirst hlast
  have hrow : cut.split.row < row ∨ row + 2 < cut.split.row := by
    by_contra hmeets
    obtain ⟨j, hj, hj', hclosed⟩ := h.exists_closed_row col (by omega) (by omega)
    rw [hblock _ j (by omega) (by omega) hj hj'] at hclosed
    cases hclosed
  have hcol : cut.split.column < col ∨ col + 2 < cut.split.column := by
    by_contra hmeets
    obtain ⟨i, hi, hi', hclosed⟩ := h.exists_closed_column row (by omega) (by omega)
    rw [hblock i _ hi hi' (by omega) (by omega)] at hclosed
    cases hclosed
  simp only [Split.quarters, List.mem_cons, List.not_mem_nil, or_false, exists_eq_or_imp,
    exists_eq_left, Chamber.contains_iff]
  omega

end Cut.Applies

/-! ## Blocks wait to be divided -/

namespace Division

variable {σ : Type} {height width : Nat} {d e : Division σ}

/-- Every block lies in a chamber that waits. -/
def Covered (d : Division σ) : Prop :=
  ∀ row col, d.maze.OpenBlock row col →
    ∃ c ∈ d.pending, c.contains row col = true ∧ c.contains (row + 2) (col + 2) = true

theorem covered_fresh (source : σ) : (fresh height width source).Covered := by
  intro row col hblock
  have hfirst := Maze.isOpen_bordered.1 (hblock row col (by omega) (by omega) (by omega) (by omega))
  have hlast := Maze.isOpen_bordered.1
    (hblock (row + 2) (col + 2) (by omega) (by omega) (by omega) (by omega))
  refine ⟨Maze.interior height width, List.mem_singleton_self _, ?_, ?_⟩
  · rw [Chamber.contains_iff]
    dsimp only [Maze.interior]
    omega
  · rw [Chamber.contains_iff]
    dsimp only [Maze.interior]
    omega

/-- A chamber that is dropped is too small for a block. -/
theorem not_contains_block_of_isDone {c : Chamber} (hdone : c.isDone = true) {row col : Nat}
    (hfirst : c.contains row col = true) : ¬ c.contains (row + 2) (col + 2) = true := by
  intro hlast
  rw [Chamber.contains_iff] at hfirst hlast
  simp only [Chamber.isDone, Bool.or_eq_true, decide_eq_true_eq] at hdone
  omega

variable [Source σ]

theorem covered_of_dropped (hd : d.Covered) (h : d.step = .dropped e) : e.Covered := by
  obtain ⟨chamber, others, hp, hdone, rfl⟩ := step_eq_dropped h
  intro row col hblock
  obtain ⟨c, hc, hfirst, hlast⟩ := hd row col hblock
  rw [hp] at hc
  rcases List.mem_cons.1 hc with rfl | hc
  · exact absurd hlast (not_contains_block_of_isDone hdone hfirst)
  · exact ⟨c, hc, hfirst, hlast⟩

theorem covered_of_divided {cut : Cut} (hsound : d.Sound height width) (hd : d.Covered)
    (h : d.step = .divided cut e) : e.Covered := by
  obtain ⟨chamber, others, source, hp, -, rfl, hcut, rfl⟩ := step_eq_divided h
  have happlies := hsound.applies hcut (by rw [hp]; exact List.mem_cons_self)
  intro row col hblock
  -- A cut opens nothing, so the block was there before.
  obtain ⟨c, hc, hfirst, hlast⟩ := hd row col fun i j hi hi' hj hj' =>
    happlies.isOpen_of_apply (hblock i j hi hi' hj hj')
  rw [hp] at hc
  rcases List.mem_cons.1 hc with rfl | hc
  · obtain ⟨q, hq, hin⟩ := happlies.exists_quarter_of_openBlock hblock hfirst hlast
    exact ⟨q, List.mem_append_left _ hq, hin⟩
  · exact ⟨c, List.mem_append_right _ hc, hfirst, hlast⟩

theorem covered_of_steps (hsound : d.Sound height width) (hd : d.Covered)
    (h : Relation.ReflTransGen Next d e) : e.Covered := by
  refine invariant_of_steps (fun d e hsound hd hnext => ?_) hsound hd h
  rcases hnext with hdropped | ⟨cut, hdivided⟩
  · exact covered_of_dropped hd hdropped
  · exact covered_of_divided hsound hd hdivided

end Division

/-! ## The finished maze -/

/-- A block reaches the border nowhere: the top and the bottom row have one open cell each. -/
theorem Maze.Opened.openBlock_inner {n m : Maze} {height width first last : Nat}
    (h : n.Opened m height width first last) {row col : Nat} (hblock : m.OpenBlock row col) :
    n.OpenBlock row col := by
  have htop : row ≠ 0 := by
    rintro rfl
    have hleft := (h.isOpen_top_iff col).1 (hblock 0 col (by omega) (by omega) (by omega) (by omega))
    have hright := (h.isOpen_top_iff (col + 1)).1
      (hblock 0 (col + 1) (by omega) (by omega) (by omega) (by omega))
    omega
  have hbottom : ∀ i, row ≤ i → i ≤ row + 2 → i ≠ height - 1 := by
    rintro i hi hi' rfl
    have hleft := (h.isOpen_bottom_iff col).1 (hblock _ col hi hi' (by omega) (by omega))
    have hright := (h.isOpen_bottom_iff (col + 1)).1
      (hblock _ (col + 1) hi hi' (by omega) (by omega))
    omega
  intro i j hi hi' hj hj'
  rcases (h.isOpen_iff i j).1 (hblock i j hi hi' hj hj') with ho | ⟨rfl, -⟩ | ⟨hrow, -⟩
  · exact ho
  · omega
  · exact absurd hrow (hbottom i hi hi')

/-- Whatever is drawn, a maze that is generated has nowhere three open cells by three. -/
theorem Generator.not_openBlock_of_generate {σ : Type} [Source σ] {width height : Int}
    {source : σ} {m : Maze} (h : (generate width height source).maze = .ok (some m))
    (row col : Nat) : ¬ m.OpenBlock row col := by
  intro hblock
  obtain ⟨e, first, last, hsteps, hp, hopened⟩ := exists_opened_of_generate h
  have hfresh := Division.sound_fresh hopened.tall hopened.wide source
  have hcovered := Division.covered_of_steps hfresh (Division.covered_fresh source) hsteps
  obtain ⟨c, hc, -⟩ := hcovered row col (hopened.openBlock_inner hblock)
  rw [hp] at hc
  cases hc

/-- A ring of eight open cells round a single wall is as far as it goes. -/
theorem Generator.not_openBlock_of_generate_seven_by_seven :
    ∃ m : Maze, (generate 7 7
        (⟨[0, 1, 0, 0, 1, 0, 1, 0, 0, 0, 3, 0, 0, 0]⟩ : Script)).maze = .ok (some m) ∧
      (∀ c ∈ [(3, 3), (3, 4), (3, 5), (4, 5), (5, 5), (5, 4), (5, 3), (4, 3)],
        m.isOpen c.1 c.2 = true) ∧
      ¬ m.OpenBlock 3 3 := by
  have h : (generate 7 7
      (⟨[0, 1, 0, 0, 1, 0, 1, 0, 0, 0, 3, 0, 0, 0]⟩ : Script)).maze =
      .ok (some (.ofLists
        [[false, true, false, false, false, false, false],
          [false, true, true, true, true, true, false],
          [false, true, false, false, false, false, false],
          [false, true, false, true, true, true, false],
          [false, true, true, true, false, true, false],
          [false, true, false, true, true, true, false],
          [false, false, false, false, false, true, false]])) := by
    decide +kernel
  exact ⟨_, h, by decide +kernel, not_openBlock_of_generate h 3 3⟩

end Labyrinth
