import Labyrinth.Proofs.Chambers

/-!
# The border and its two openings

Two cells are never walled up: the first and the last of the interior. A wall runs
strictly inside its chamber, so no wall passes the corner that a chamber shares with
the interior. Hence the first and the last row inside the border keep an open cell,
and when the division is over there is something to open the border to.

`openBorder_eq` says what that opening is: two cells are opened, the one above the
leftmost open cell of the first row and the one below the rightmost of the last.
-/

namespace Labyrinth

/-! ## Cells that no wall reaches -/

namespace Cut.Applies

variable {cut : Cut} {m : Maze} {height width : Nat}

theorem isOpen_first (h : cut.Applies m height width) (ho : m.isOpen 1 1 = true) :
    (cut.apply m).isOpen 1 1 = true := by
  obtain ⟨h₁, h₂, h₃, h₄, -⟩ := h.proper.fits
  have htop := h.inside.top_pos
  have hleft := h.inside.left_pos
  exact h.isOpen_clear (by omega) (by omega) ho

theorem isOpen_last (h : cut.Applies m height width)
    (ho : m.isOpen (height - 2) (width - 2) = true) :
    (cut.apply m).isOpen (height - 2) (width - 2) = true := by
  obtain ⟨h₁, h₂, h₃, h₄, -⟩ := h.proper.fits
  have hbottom := h.inside.bottom_lt
  have hright := h.inside.right_lt
  exact h.isOpen_clear (by omega) (by omega) ho

end Cut.Applies

/-- The first and the last cell inside the border are open. -/
def Maze.KeepsCorners (m : Maze) (height width : Nat) : Prop :=
  m.isOpen 1 1 = true ∧ m.isOpen (height - 2) (width - 2) = true

theorem Maze.keepsCorners_bordered {height width : Nat} (hh : 3 ≤ height) (hw : 3 ≤ width) :
    (bordered height width).KeepsCorners height width :=
  ⟨isOpen_bordered.2 (by omega), isOpen_bordered.2 (by omega)⟩

namespace Division

variable {σ : Type} [Source σ] {height width : Nat} {d e : Division σ}

theorem keepsCorners_of_steps (hd : d.Sound height width)
    (hc : d.maze.KeepsCorners height width) (h : Relation.ReflTransGen Next d e) :
    e.maze.KeepsCorners height width :=
  maze_of_steps (P := fun m => m.KeepsCorners height width)
    (fun _ _ happlies hc => ⟨happlies.isOpen_first hc.1, happlies.isOpen_last hc.2⟩) hd hc h

end Division

/-! ## Opening the border -/

/-- The first hit in a list comes before every other hit. -/
theorem eq_false_of_find?_eq_some {α : Type} {R : α → α → Prop} {p : α → Bool} {xs : List α}
    (hR : xs.Pairwise R) {a b : α} (h : xs.find? p = some a) (hb : b ∈ xs) (hne : b ≠ a)
    (hbefore : ¬ R a b) : p b = false := by
  obtain ⟨-, before, after, rfl, hmiss⟩ := List.find?_eq_some_iff_append.1 h
  rcases List.mem_append.1 hb with hb | hb
  · simpa using hmiss b hb
  · rcases List.mem_cons.1 hb with rfl | hb
    · exact absurd rfl hne
    · exact absurd (List.rel_of_pairwise_cons (List.pairwise_append.1 hR).2.1 hb) hbefore

namespace Maze

variable {m : Maze} {height width : Nat}

/-- The leftmost open cell of a row, border aside. -/
structure Leftmost (m : Maze) (width row col : Nat) : Prop where
  isOpen : m.isOpen row col = true
  pos : 0 < col
  lt : col < width - 1
  first : ∀ j, 0 < j → j < col → m.isOpen row j = false

/-- The rightmost open cell of a row, border aside. -/
structure Rightmost (m : Maze) (width row col : Nat) : Prop where
  isOpen : m.isOpen row col = true
  pos : 0 < col
  lt : col < width - 1
  last : ∀ j, col < j → j < width - 1 → m.isOpen row j = false

theorem exists_leftmost (width : Nat) {row col : Nat} (h : m.isOpen row col = true) (hpos : 0 < col)
    (hlt : col < width - 1) :
    ∃ first, (List.range' 1 (width - 2)).find? (m.isOpen row) = some first ∧
      m.Leftmost width row first := by
  have hsome : ((List.range' 1 (width - 2)).find? (m.isOpen row)).isSome = true :=
    List.find?_isSome.2 ⟨col, List.mem_range'_1.2 (by omega), h⟩
  obtain ⟨first, hfirst⟩ := Option.isSome_iff_exists.1 hsome
  have hin := List.mem_range'_1.1 (List.mem_of_find?_eq_some hfirst)
  refine ⟨first, hfirst, List.find?_some hfirst, by omega, by omega, fun j hj hlt => ?_⟩
  exact eq_false_of_find?_eq_some (List.pairwise_lt_range' 1) hfirst
    (List.mem_range'_1.2 (by omega)) (by omega) (by omega)

theorem exists_rightmost (width : Nat) {row col : Nat} (h : m.isOpen row col = true)
    (hpos : 0 < col) (hlt : col < width - 1) :
    ∃ last, (List.range' 1 (width - 2)).reverse.find? (m.isOpen row) = some last ∧
      m.Rightmost width row last := by
  have hsome : ((List.range' 1 (width - 2)).reverse.find? (m.isOpen row)).isSome = true :=
    List.find?_isSome.2 ⟨col, List.mem_reverse.2 (List.mem_range'_1.2 (by omega)), h⟩
  obtain ⟨last, hlast⟩ := Option.isSome_iff_exists.1 hsome
  have hin := List.mem_range'_1.1 (List.mem_reverse.1 (List.mem_of_find?_eq_some hlast))
  refine ⟨last, hlast, List.find?_some hlast, by omega, by omega, fun j hj hlt => ?_⟩
  exact eq_false_of_find?_eq_some (List.pairwise_reverse.2 (List.pairwise_lt_range' 1)) hlast
    (List.mem_reverse.2 (List.mem_range'_1.2 (by omega))) (by omega) (by omega)

/-- Opening the border opens one cell at the top and one at the bottom. -/
theorem openBorder_eq (hh : 3 ≤ height) (hw : 3 ≤ width)
    (hc : m.KeepsCorners height width) :
    ∃ first last, m.Leftmost width 1 first ∧ m.Rightmost width (height - 2) last ∧
      m.openBorder height width = (m.put 0 first true).put (height - 1) last true := by
  obtain ⟨first, hfirst, hleft⟩ := exists_leftmost width hc.1 (by omega) (by omega)
  obtain ⟨last, hlast, hright⟩ := exists_rightmost width hc.2 (by omega) (by omega)
  have hrow : (m.put 0 first true).isOpen (height - 2) = m.isOpen (height - 2) := by
    funext col
    rw [isOpen_put, if_neg (by omega)]
  refine ⟨first, last, hleft, hright, ?_⟩
  simp only [openBorder, hfirst, hrow, hlast]

/-- What is open stays open when the border is opened. -/
theorem isOpen_openBorder {row col : Nat} (height width : Nat) (h : m.isOpen row col = true) :
    (m.openBorder height width).isOpen row col = true := by
  have hput : ∀ {n : Maze} (i j : Nat), n.isOpen row col = true →
      (n.put i j true).isOpen row col = true := fun i j hn => isOpen_put_true.2 (.inl hn)
  unfold openBorder
  dsimp only
  split <;> split
  · exact h
  · exact hput _ _ h
  · exact hput _ _ h
  · exact hput _ _ (hput _ _ h)

/-! ## Finding an opening -/

theorem opening?_of_isOpen {row : Array Bool} {j : Nat} (h : row[j]? = some true) :
    ∃ col, opening? row = some col ∧ row[col]? = some true := by
  have hsome : (opening? row).isSome = true := by
    rw [opening?, Array.findIdx?_isSome, Array.any_eq_true']
    exact ⟨true, Array.mem_of_getElem? h, rfl⟩
  obtain ⟨col, hcol⟩ := Option.isSome_iff_exists.1 hsome
  obtain ⟨hlt, htrue, -⟩ := Array.findIdx?_eq_some_iff_getElem.1 hcol
  exact ⟨col, hcol, Array.getElem?_eq_some_iff.2 ⟨hlt, htrue⟩⟩

theorem entrance_of_isOpen {j : Nat} (h : m.isOpen 0 j = true) :
    ∃ col, m.entrance = .ok (some col) ∧ m.isOpen 0 col = true := by
  rw [isOpen, beq_iff_eq, Table.cell?, Array.getD_eq_getD_getElem?] at h
  cases hrow : m.rows[0]? with
  | none => rw [hrow] at h; simp at h
  | some row =>
      rw [hrow] at h
      obtain ⟨col, hcol, ho⟩ := opening?_of_isOpen h
      refine ⟨col, by rw [entrance, hrow]; exact congrArg _ hcol, ?_⟩
      rw [isOpen, beq_iff_eq, Table.cell?, Array.getD_eq_getD_getElem?, hrow]
      exact ho

theorem exit_of_isOpen {j : Nat} (h : m.isOpen (m.height - 1) j = true) :
    ∃ col, m.exit = .ok (some col) ∧ m.isOpen (m.height - 1) col = true := by
  rw [isOpen, beq_iff_eq, Table.cell?, Array.getD_eq_getD_getElem?] at h
  cases hrow : m.rows[m.height - 1]? with
  | none => rw [hrow] at h; simp at h
  | some row =>
      rw [hrow] at h
      obtain ⟨col, hcol, ho⟩ := opening?_of_isOpen h
      have hback : m.rows.back? = some row := by rw [Array.back?_eq_getElem?]; exact hrow
      refine ⟨col, by rw [exit, hback]; exact congrArg _ hcol, ?_⟩
      rw [isOpen, beq_iff_eq, Table.cell?, Array.getD_eq_getD_getElem?, hrow]
      exact ho

end Maze

end Labyrinth
