import Labyrinth.Proofs.Sides
import Mathlib.Data.Nat.Init
import Mathlib.Logic.Relation

/-!
# Passages through a maze

A passage leads from an open cell to an open cell next to it, and two cells are
joined if passages lead from one to the other. Passages lead both ways, so being
joined is symmetric. A maze is connected if any two of its open cells are joined.

A rectangle of open cells is the one region that needs an argument of its own:
along a row, then along a column, any cell of it is joined to any other.
-/

namespace Labyrinth

namespace Coordinate

theorem isAdjacent_comm (a b : Coordinate) : a.isAdjacent b = b.isAdjacent a := by
  simp only [isAdjacent]
  rw [show (b.row - a.row).natAbs = (a.row - b.row).natAbs by omega,
    show (b.col - a.col).natAbs = (a.col - b.col).natAbs by omega]

theorem isAdjacent_iff_step {a b : Coordinate} :
    a.isAdjacent b = true ↔ ∃ m : Move, a.step m = b := by
  constructor
  · intro h
    obtain ⟨r, c⟩ := a
    obtain ⟨s, d⟩ := b
    simp only [isAdjacent, beq_iff_eq] at h
    have hcases : (s = r ∧ d = c - 1) ∨ (s = r - 1 ∧ d = c) ∨ (s = r ∧ d = c + 1) ∨
        (s = r + 1 ∧ d = c) := by omega
    rcases hcases with ⟨rfl, rfl⟩ | ⟨rfl, rfl⟩ | ⟨rfl, rfl⟩ | ⟨rfl, rfl⟩
    · exact ⟨.left, by simp [step, Move.delta, Int.sub_eq_add_neg]⟩
    · exact ⟨.up, by simp [step, Move.delta, Int.sub_eq_add_neg]⟩
    · exact ⟨.right, by simp [step, Move.delta]⟩
    · exact ⟨.down, by simp [step, Move.delta]⟩
  · rintro ⟨m, rfl⟩
    exact isAdjacent_step a m

/-- Next to each other, for cells counted from 0. -/
theorem isAdjacent_natCast {i j k l : Nat} :
    isAdjacent ⟨i, j⟩ ⟨k, l⟩ = true ↔
      (i = k ∧ (j + 1 = l ∨ l + 1 = j)) ∨ (j = l ∧ (i + 1 = k ∨ k + 1 = i)) := by
  simp only [isAdjacent, beq_iff_eq]
  omega

end Coordinate

namespace Maze

/-- The cell at a coordinate is there and open. -/
def Open (m : Maze) (c : Coordinate) : Prop :=
  ∃ row col : Nat, c = ⟨row, col⟩ ∧ m.isOpen row col = true

/-- One step from an open cell to an open cell next to it. -/
def Passage (m : Maze) (a b : Coordinate) : Prop :=
  m.Open a ∧ m.Open b ∧ a.isAdjacent b = true

/-- Passages lead from one cell to the other. -/
def Joined (m : Maze) : Coordinate → Coordinate → Prop :=
  Relation.ReflTransGen m.Passage

/-- Any two open cells are joined. -/
def Connected (m : Maze) : Prop :=
  ∀ a b, m.Open a → m.Open b → m.Joined a b

theorem open_natCast {m : Maze} {row col : Nat} :
    m.Open ⟨row, col⟩ ↔ m.isOpen row col = true := by
  constructor
  · rintro ⟨i, j, h, hopen⟩
    obtain ⟨hi, hj⟩ := Coordinate.mk.inj h
    rw [Int.ofNat.inj hi, Int.ofNat.inj hj]
    exact hopen
  · exact fun h => ⟨row, col, rfl, h⟩

theorem Passage.symm {m : Maze} {a b : Coordinate} (h : m.Passage a b) : m.Passage b a :=
  ⟨h.2.1, h.1, (Coordinate.isAdjacent_comm b a).trans h.2.2⟩

theorem Joined.refl {m : Maze} (a : Coordinate) : m.Joined a a :=
  Relation.ReflTransGen.refl

theorem Joined.trans {m : Maze} {a b c : Coordinate} (hab : m.Joined a b)
    (hbc : m.Joined b c) : m.Joined a c :=
  Relation.ReflTransGen.trans hab hbc

theorem Joined.symm {m : Maze} {a b : Coordinate} (h : m.Joined a b) : m.Joined b a := by
  induction h with
  | refl => exact Joined.refl a
  | tail _ hbc ih => exact Relation.ReflTransGen.head hbc.symm ih

theorem Passage.joined {m : Maze} {a b : Coordinate} (h : m.Passage a b) : m.Joined a b :=
  Relation.ReflTransGen.single h

theorem joined_of_isAdjacent {m : Maze} {i j k l : Nat} (hij : m.isOpen i j = true)
    (hkl : m.isOpen k l = true)
    (h : (i = k ∧ (j + 1 = l ∨ l + 1 = j)) ∨ (j = l ∧ (i + 1 = k ∨ k + 1 = i))) :
    m.Joined ⟨i, j⟩ ⟨k, l⟩ :=
  Passage.joined ⟨open_natCast.2 hij, open_natCast.2 hkl, Coordinate.isAdjacent_natCast.2 h⟩

/-! ## Rectangles of open cells -/

theorem joined_along_row {m : Maze} {row left right : Nat}
    (h : ∀ col, left ≤ col → col ≤ right → m.isOpen row col = true) (hle : left ≤ right) :
    m.Joined ⟨row, left⟩ ⟨row, right⟩ := by
  induction right, hle using Nat.le_induction with
  | base => exact Joined.refl _
  | succ col hle ih =>
      have hstep : m.Joined ⟨row, col⟩ ⟨row, (col + 1 : Nat)⟩ :=
        joined_of_isAdjacent (h col hle (by omega)) (h (col + 1) (by omega) (by omega))
          (by omega)
      exact (ih fun k hk hkc => h k hk (by omega)).trans hstep

theorem joined_along_column {m : Maze} {col top bottom : Nat}
    (h : ∀ row, top ≤ row → row ≤ bottom → m.isOpen row col = true) (hle : top ≤ bottom) :
    m.Joined ⟨top, col⟩ ⟨bottom, col⟩ := by
  induction bottom, hle using Nat.le_induction with
  | base => exact Joined.refl _
  | succ row hle ih =>
      have hstep : m.Joined ⟨row, col⟩ ⟨(row + 1 : Nat), col⟩ :=
        joined_of_isAdjacent (h row hle (by omega)) (h (row + 1) (by omega) (by omega))
          (by omega)
      exact (ih fun k hk hkr => h k hk (by omega)).trans hstep

/-- Every cell of an open rectangle is joined to its top left corner. -/
theorem joined_corner {m : Maze} {top left bottom right : Nat}
    (h : ∀ row col, top ≤ row → row ≤ bottom → left ≤ col → col ≤ right →
      m.isOpen row col = true)
    {row col : Nat} (ht : top ≤ row) (hb : row ≤ bottom) (hl : left ≤ col) (hr : col ≤ right) :
    m.Joined ⟨row, col⟩ ⟨top, left⟩ := by
  have hrow : m.Joined ⟨row, left⟩ ⟨row, col⟩ :=
    joined_along_row (fun k hk hkc => h row k ht hb hk (by omega)) hl
  have hcol : m.Joined ⟨top, left⟩ ⟨row, left⟩ :=
    joined_along_column (fun k hk hkr => h k left hk (by omega) (by omega) (by omega)) ht
  exact (hcol.trans hrow).symm

theorem joined_of_rectangle {m : Maze} (top left bottom right : Nat)
    (h : ∀ row col, top ≤ row → row ≤ bottom → left ≤ col → col ≤ right →
      m.isOpen row col = true)
    {i j k l : Nat} (hij : top ≤ i ∧ i ≤ bottom ∧ left ≤ j ∧ j ≤ right)
    (hkl : top ≤ k ∧ k ≤ bottom ∧ left ≤ l ∧ l ≤ right) :
    m.Joined ⟨i, j⟩ ⟨k, l⟩ :=
  (joined_corner h hij.1 hij.2.1 hij.2.2.1 hij.2.2.2).trans
    (joined_corner h hkl.1 hkl.2.1 hkl.2.2.1 hkl.2.2.2).symm

end Maze

end Labyrinth
