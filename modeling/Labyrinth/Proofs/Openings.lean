import Labyrinth.Chance.Script
import Labyrinth.Proofs.Border

/-!
# The border of a generated maze

Chambers lie inside the border and a cut writes nothing outside its chamber, so the
border is wall from the first cut to the last. Only then two cells of it are opened,
one at the top and one at the bottom: above the leftmost open cell of the first row
inside, and below the rightmost open cell of the last. These two are all that is open
in the border, hence they are what a search for the openings finds.

`Opened` is the account of a finished maze that other modules go by. It says what is
open in terms of the maze that the division left behind.
-/

namespace Labyrinth

namespace Maze

variable {n m : Maze} {height width first last : Nat}

/-- All open cells lie inside the border. -/
def Enclosed (m : Maze) (height width : Nat) : Prop :=
  ∀ row col, m.isOpen row col = true →
    0 < row ∧ row < height - 1 ∧ 0 < col ∧ col < width - 1

theorem enclosed_bordered (height width : Nat) : (bordered height width).Enclosed height width := by
  intro row col h
  exact isOpen_bordered.1 h

/-- `m` is the enclosed maze `n` with the border opened in two places. -/
structure Opened (n m : Maze) (height width first last : Nat) : Prop where
  tall : 3 ≤ height
  wide : 3 ≤ width
  enclosed : n.Enclosed height width
  leftmost : n.Leftmost width 1 first
  rightmost : n.Rightmost width (height - 2) last
  sides : m.HasSides height width
  isOpen_iff : ∀ row col, m.isOpen row col = true ↔
    n.isOpen row col = true ∨ (row = 0 ∧ col = first) ∨ (row = height - 1 ∧ col = last)

theorem opened_openBorder (hh : 3 ≤ height) (hw : 3 ≤ width) (hn : n.HasSides height width)
    (henclosed : n.Enclosed height width) (hcorners : n.KeepsCorners height width) :
    ∃ first last, n.Opened (n.openBorder height width) height width first last := by
  obtain ⟨first, last, hfirst, hlast, heq⟩ := openBorder_eq hh hw hcorners
  have htop : (n.put 0 first true).HasSides height width := hasSides_put hn ..
  have hfirst_lt := hfirst.lt
  have hlast_lt := hlast.lt
  refine ⟨first, last, hh, hw, henclosed, hfirst, hlast, ?_, ?_⟩
  · rw [heq]
    exact hasSides_put htop ..
  · intro row col
    rw [heq, isOpen_put_true, isOpen_put_true, hn.isSome_cell?_iff, htop.isSome_cell?_iff, or_assoc]
    refine or_congr_right (or_congr ?_ ?_)
    · constructor
      · rintro ⟨rfl, rfl, -⟩
        exact ⟨rfl, rfl⟩
      · rintro ⟨rfl, rfl⟩
        exact ⟨rfl, rfl, by omega, by omega⟩
    · constructor
      · rintro ⟨rfl, rfl, -⟩
        exact ⟨rfl, rfl⟩
      · rintro ⟨rfl, rfl⟩
        exact ⟨rfl, rfl, by omega, by omega⟩

namespace Opened

/-- Inside the border nothing changes. -/
theorem isOpen_inner (h : n.Opened m height width first last) {row : Nat} (hpos : 0 < row)
    (hlt : row < height - 1) (col : Nat) : m.isOpen row col = n.isOpen row col := by
  rw [Bool.eq_iff_iff, h.isOpen_iff]
  refine or_iff_left ?_
  rintro (⟨rfl, -⟩ | ⟨rfl, -⟩) <;> omega

theorem isOpen_top_iff (h : n.Opened m height width first last) (col : Nat) :
    m.isOpen 0 col = true ↔ col = first := by
  have hheight := h.tall
  rw [h.isOpen_iff]
  constructor
  · rintro (ho | ⟨-, hcol⟩ | ⟨hrow, -⟩)
    · exact absurd (h.enclosed 0 col ho).1 (Nat.lt_irrefl 0)
    · exact hcol
    · omega
  · intro hcol
    exact .inr (.inl ⟨rfl, hcol⟩)

theorem isOpen_bottom_iff (h : n.Opened m height width first last) (col : Nat) :
    m.isOpen (height - 1) col = true ↔ col = last := by
  have hheight := h.tall
  rw [h.isOpen_iff]
  constructor
  · rintro (ho | ⟨hrow, -⟩ | ⟨-, hcol⟩)
    · exact absurd (h.enclosed _ col ho).2.1 (Nat.lt_irrefl _)
    · omega
    · exact hcol
  · intro hcol
    exact .inr (.inr ⟨rfl, hcol⟩)

/-- The first and the last column are wall from top to bottom. -/
theorem isOpen_side (h : n.Opened m height width first last) (row : Nat) {col : Nat}
    (hcol : col = 0 ∨ col = width - 1) : m.isOpen row col = false := by
  have hfirst_pos := h.leftmost.pos
  have hfirst_lt := h.leftmost.lt
  have hlast_pos := h.rightmost.pos
  have hlast_lt := h.rightmost.lt
  rw [← Bool.not_eq_true, h.isOpen_iff]
  rintro (ho | ⟨-, rfl⟩ | ⟨-, rfl⟩)
  · have hin := h.enclosed row col ho
    omega
  · omega
  · omega

theorem leftmost_after (h : n.Opened m height width first last) : m.Leftmost width 1 first := by
  have hheight := h.tall
  have hrow : m.isOpen 1 = n.isOpen 1 := by
    funext col
    exact h.isOpen_inner (by omega) (by omega) col
  obtain ⟨hopen, hpos, hlt, hfirst⟩ := h.leftmost
  rw [← hrow] at hopen hfirst
  exact ⟨hopen, hpos, hlt, hfirst⟩

theorem rightmost_after (h : n.Opened m height width first last) :
    m.Rightmost width (height - 2) last := by
  have hheight := h.tall
  have hrow : m.isOpen (height - 2) = n.isOpen (height - 2) := by
    funext col
    exact h.isOpen_inner (by omega) (by omega) col
  obtain ⟨hopen, hpos, hlt, hlast⟩ := h.rightmost
  rw [← hrow] at hopen hlast
  exact ⟨hopen, hpos, hlt, hlast⟩

/-- What is found in the top row is open, and only one cell of it is. -/
theorem entrance_eq (h : n.Opened m height width first last) : m.entrance = .ok (some first) := by
  obtain ⟨col, hentrance, hopen⟩ := entrance_of_isOpen ((h.isOpen_top_iff first).2 rfl)
  rw [hentrance, (h.isOpen_top_iff col).1 hopen]

theorem exit_eq (h : n.Opened m height width first last) : m.exit = .ok (some last) := by
  have hlast : m.isOpen (m.height - 1) last = true := by
    rw [h.sides.height_eq]
    exact (h.isOpen_bottom_iff last).2 rfl
  obtain ⟨col, hexit, hopen⟩ := exit_of_isOpen hlast
  rw [h.sides.height_eq] at hopen
  rw [hexit, (h.isOpen_bottom_iff col).1 hopen]

end Opened

end Maze

/-! ## The whole generation -/

namespace Division

variable {σ : Type} [Source σ] {height width : Nat} {d e : Division σ}

/-- The border is wall as long as the division goes on. -/
theorem enclosed_of_steps (hd : d.Sound height width) (hc : d.maze.Enclosed height width)
    (h : Relation.ReflTransGen Next d e) : e.maze.Enclosed height width :=
  maze_of_steps (P := fun m => m.Enclosed height width)
    (fun _ _ happlies hm row col ho => hm row col (happlies.isOpen_of_apply ho)) hd hc h

end Division

namespace Generator

variable {σ : Type} [Source σ] {width height : Int} {source : σ}

/-- A generated maze is what a whole division leaves behind, with its border opened. -/
theorem exists_opened_of_generate {m : Maze}
    (h : (generate width height source).maze = .ok (some m)) :
    ∃ (e : Division σ) (first last : Nat),
      Relation.ReflTransGen Division.Next (Division.fresh height.toNat width.toNat source) e ∧
      e.pending = [] ∧ e.maze.Opened m height.toNat width.toNat first last := by
  obtain ⟨hh, hw, e, hsteps, hp, rfl⟩ := exists_divided_of_generate h
  have hh : 3 ≤ height.toNat := by omega
  have hw : 3 ≤ width.toNat := by omega
  have hfresh := Division.sound_fresh hh hw source
  have hsound := Division.sound_of_steps hfresh hsteps
  have hcorners := Division.keepsCorners_of_steps hfresh (Maze.keepsCorners_bordered hh hw) hsteps
  have henclosed := Division.enclosed_of_steps hfresh (Maze.enclosed_bordered _ _) hsteps
  obtain ⟨first, last, hopened⟩ := Maze.opened_openBorder hh hw hsound.sides henclosed hcorners
  exact ⟨e, first, last, hsteps, hp, hopened⟩

/-- Sides of 3 and more leave room for a maze. -/
theorem exists_maze_of_generate {result : Option Maze} (hw : 3 ≤ width) (hh : 3 ≤ height)
    (h : (generate width height source).maze = .ok result) : ∃ m, result = some m := by
  unfold generate at h
  rw [if_neg (by omega)] at h
  unfold divide at h
  dsimp only at h
  split at h
  · cases h
  · exact ⟨_, (Except.ok.inj h).symm⟩

/-- Whatever is drawn, a generation that comes to its end with sides of 3 and more has made a maze
of these sides. Its border is wall but for one cell in the top row, above the leftmost open cell
of the row below it, and one in the bottom row, below the rightmost open cell of the row above it;
these are the openings that are found. -/
theorem openings_of_generate {result : Option Maze} (hw : 3 ≤ width) (hh : 3 ≤ height)
    (h : (generate width height source).maze = .ok result) :
    ∃ m first last, result = some m ∧ m.HasSides height.toNat width.toNat ∧
      (∀ row, m.isOpen row 0 = false ∧ m.isOpen row (width.toNat - 1) = false) ∧
      m.Leftmost width.toNat 1 first ∧ m.Rightmost width.toNat (height.toNat - 2) last ∧
      (∀ col, m.isOpen 0 col = true ↔ col = first) ∧
      (∀ col, m.isOpen (height.toNat - 1) col = true ↔ col = last) ∧
      m.entrance = .ok (some first) ∧ m.exit = .ok (some last) := by
  obtain ⟨m, rfl⟩ := exists_maze_of_generate hw hh h
  obtain ⟨e, first, last, -, -, hopened⟩ := exists_opened_of_generate h
  have hsides : ∀ row, m.isOpen row 0 = false ∧ m.isOpen row (width.toNat - 1) = false := by
    intro row
    exact ⟨hopened.isOpen_side row (.inl rfl), hopened.isOpen_side row (.inr rfl)⟩
  exact ⟨m, first, last, rfl, hopened.sides, hsides, hopened.leftmost_after,
    hopened.rightmost_after, hopened.isOpen_top_iff, hopened.isOpen_bottom_iff,
    hopened.entrance_eq, hopened.exit_eq⟩

/-- Six columns and seven rows, with several open cells in the rows next to the border. -/
theorem openings_of_generate_six_by_seven :
    ∃ (m : Maze) (first last : Nat),
      (generate 6 7 (⟨[1, 0, 0, 2, 2, 2, 0, 0]⟩ : Script)).maze = .ok (some m) ∧
      m.isOpen 1 3 = true ∧ m.isOpen 5 1 = true ∧
      m.Leftmost 6 1 first ∧ m.Rightmost 6 5 last ∧
      m.entrance = .ok (some first) ∧ m.exit = .ok (some last) := by
  have h : (generate 6 7 (⟨[1, 0, 0, 2, 2, 2, 0, 0]⟩ : Script)).maze =
      .ok (some (.ofLists
        [[false, true, false, false, false, false],
          [false, true, false, true, true, false],
          [false, true, false, true, true, false],
          [false, true, true, true, true, false],
          [false, true, false, true, false, false],
          [false, true, false, true, true, false],
          [false, false, false, false, true, false]])) := by
    decide +kernel
  obtain ⟨m, first, last, hm, -, -, hfirst, hlast, -, -, hentrance, hexit⟩ :=
    openings_of_generate (by decide) (by decide) h
  obtain rfl := Option.some.inj hm
  exact ⟨_, first, last, h, by decide +kernel, by decide +kernel, hfirst, hlast, hentrance, hexit⟩

end Generator

end Labyrinth
