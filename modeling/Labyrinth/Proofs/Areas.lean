import Labyrinth.Proofs.Accesses
import Labyrinth.Proofs.Nested
import Mathlib.Algebra.BigOperators.Group.List.Basic
import Mathlib.Tactic.Ring

/-!
# The cells that wait

The list of chambers grows by three with every chamber that is divided, so its length says
nothing about how long a division goes on. The number of cells in its chambers does: a
chamber that is dropped takes its cells with it, and a chamber that is divided loses the
cells of its two walls. Each chamber that is taken from the list therefore costs at least
one cell, and there are no more of them than the interior has cells.
-/

namespace Labyrinth

/-! ## Areas -/

namespace Chamber

theorem area_eq {c : Chamber} {rows cols : Nat} (hrows : c.bottom + 1 = c.top + rows)
    (hcols : c.right + 1 = c.left + cols) : c.area = rows * cols := by
  rw [area, hrows, hcols, Nat.add_sub_cancel_left, Nat.add_sub_cancel_left]

theorem Inside.area_pos {c : Chamber} {height width : Nat} (hc : c.Inside height width) :
    0 < c.area := by
  have htop := hc.top_le
  have hleft := hc.left_le
  exact Nat.mul_pos (by omega) (by omega)

/-- The pair of positions next to the leading edges is always acceptable. -/
theorem exists_acceptable {c : Chamber} (hc : c.isDone = false) :
    ∃ col < c.right - c.left - 1, ∃ row < c.bottom - c.top - 1,
      (c.splitAt col row).isAcceptable = true := by
  have hspan := isDone_eq_false_iff.1 hc
  refine ⟨0, by omega, 0, by omega, ?_⟩
  simp only [Split.isAcceptable, splitAt, Bool.and_eq_true, bne_iff_ne]
  omega

end Chamber

/-- The quarters together lack the cells of the two walls. -/
theorem Split.Fits.area_quarters {s : Split} (hs : s.Fits) :
    (s.quarters.map Chamber.area).sum < s.chamber.area := by
  obtain ⟨h₁, h₂, h₃, h₄, -⟩ := hs
  let above := s.row - s.chamber.top
  let below := s.chamber.bottom - s.row
  let before := s.column - s.chamber.left
  let after := s.chamber.right - s.column
  have hwhole : s.chamber.area = (above + below + 1) * (before + after + 1) :=
    Chamber.area_eq (by omega) (by omega)
  have htopLeft : s.topLeft.area = above * before :=
    Chamber.area_eq (by dsimp only [topLeft]; omega) (by dsimp only [topLeft]; omega)
  have htopRight : s.topRight.area = above * after :=
    Chamber.area_eq (by dsimp only [topRight]; omega) (by dsimp only [topRight]; omega)
  have hbottomLeft : s.bottomLeft.area = below * before :=
    Chamber.area_eq (by dsimp only [bottomLeft]; omega) (by dsimp only [bottomLeft]; omega)
  have hbottomRight : s.bottomRight.area = below * after :=
    Chamber.area_eq (by dsimp only [bottomRight]; omega) (by dsimp only [bottomRight]; omega)
  calc (s.quarters.map Chamber.area).sum
    _ = above * before + (above * after + (below * before + (below * after + 0))) := by
        rw [← htopLeft, ← htopRight, ← hbottomLeft, ← hbottomRight]
        rfl
    _ = (above + below) * (before + after) := by ring
    _ < (above + below + 1) * (before + after + 1) := Nat.mul_lt_mul'' (by omega) (by omega)
    _ = s.chamber.area := hwhole.symm

namespace Division

variable {σ : Type}

/-- The number of cells in the chambers that wait. -/
def area (d : Division σ) : Nat :=
  (d.pending.map Chamber.area).sum

theorem area_fresh (height width : Nat) (source : σ) :
    (fresh height width source).area = (width - 2) * (height - 2) := by
  have hinterior : (Maze.interior height width).area = (height - 2) * (width - 2) :=
    Chamber.area_eq (by dsimp only [Maze.interior]; omega) (by dsimp only [Maze.interior]; omega)
  rw [Nat.mul_comm, ← hinterior]
  rfl

theorem Sound.length_le_area {height width : Nat} {d : Division σ} (hd : d.Sound height width) :
    d.pending.length ≤ d.area := by
  have hpos : ∀ area ∈ d.pending.map Chamber.area, 1 ≤ area := by
    intro area harea
    obtain ⟨c, hc, rfl⟩ := List.mem_map.1 harea
    exact (hd.inside c hc).area_pos
  have hlength := List.length_le_sum_of_one_le _ hpos
  rwa [List.length_map] at hlength

/-! ## Chambers taken from the list -/

variable [Source σ] {height width : Nat} {d e : Division σ}

theorem area_of_next (hd : d.Sound height width) (h : d.Next e) : e.area < d.area := by
  rcases h with hdropped | ⟨cut, hdivided⟩
  · obtain ⟨chamber, others, hp, -, rfl⟩ := step_eq_dropped hdropped
    have hpos := (hd.inside chamber (by rw [hp]; exact List.mem_cons_self)).area_pos
    simp only [area, hp, List.map_cons, List.sum_cons]
    omega
  · obtain ⟨chamber, others, source, hp, -, rfl, hcut, rfl⟩ := step_eq_divided hdivided
    have hless := hcut.fits.area_quarters
    simp only [area, hp, List.map_cons, List.sum_cons, List.map_append, List.sum_append]
    omega

/-- Each chamber that is taken from the list costs a cell. -/
theorem After.area_le {taken : Nat} (h : d.After taken e) (hd : d.Sound height width) :
    taken + e.area ≤ d.area := by
  induction h with
  | none d => exact Nat.le_of_eq (Nat.zero_add _)
  | more hnext _ ih =>
      have hless := area_of_next hd hnext
      have hrest := ih (sound_of_next hd hnext)
      omega

end Division

end Labyrinth
