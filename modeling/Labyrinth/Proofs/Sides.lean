import Labyrinth.Maze
import Labyrinth.Grid

/-!
# Tables that keep their sides

Everything that happens to a table after it has been made is a change of one of
its cells, so a rectangular table stays one and keeps its height and width. What
that buys is said here once: a cell is there exactly if its row and its column
are below the sides, and a coordinate inside the table is located where its two
numbers say, which is why a write that has been checked does not fail.
-/

namespace Labyrinth

namespace Table

variable {α : Type}

/-- A rectangular table of the given sides. -/
structure HasSides (t : Table α) (height width : Nat) : Prop where
  height_eq : t.height = height
  width_eq : t.width = width
  rectangular : t.Rectangular

theorem contains_iff {t : Table α} {c : Coordinate} :
    t.contains c = true ↔
      0 ≤ c.row ∧ c.row < t.height ∧ 0 ≤ c.col ∧ c.col < t.width := by
  simp only [contains, Bool.and_eq_true, decide_eq_true_eq, and_assoc]

theorem rectangular_modifyCell {t : Table α} (ht : t.Rectangular)
    (row col : Nat) (change : α → α) :
    (t.modifyCell row col change).Rectangular := by
  intro cells hcells
  rw [width_modifyCell]
  rw [toLists_modifyCell] at hcells
  obtain ⟨i, hi⟩ := List.mem_iff_getElem?.1 hcells
  rw [List.getElem?_modify] at hi
  cases hold : t.toLists[i]? with
  | none => rw [hold] at hi; cases hi
  | some old =>
      have hlen := ht old (List.mem_of_getElem? hold)
      rw [hold] at hi
      by_cases hrow : row = i
      · have hcells : old.modify col change = cells := by simpa [hrow] using hi
        rw [← hcells, List.length_modify]
        exact hlen
      · have hcells : old = cells := by simpa [hrow] using hi
        rw [← hcells]
        exact hlen

theorem HasSides.modifyCell {t : Table α} {height width : Nat}
    (h : t.HasSides height width) (row col : Nat) (change : α → α) :
    (t.modifyCell row col change).HasSides height width :=
  ⟨(height_modifyCell ..).trans h.height_eq, (width_modifyCell ..).trans h.width_eq,
    rectangular_modifyCell h.rectangular row col change⟩

/-- Two changes of one cell are one. -/
theorem modifyCell_modifyCell (t : Table α) (row col : Nat) (f g : α → α) :
    (t.modifyCell row col f).modifyCell row col g = t.modifyCell row col (g ∘ f) := by
  have hcells : ∀ cells : Array α,
      (cells.modify col f).modify col g = cells.modify col (g ∘ f) := by
    intro cells
    apply Array.toList_inj.1
    rw [Array.toList_modify, Array.toList_modify, Array.toList_modify, List.modify_modify_eq]
  rw [modifyCell, modifyCell, modifyCell, Table.mk.injEq]
  apply Array.toList_inj.1
  rw [Array.toList_modify, Array.toList_modify, Array.toList_modify, List.modify_modify_eq]
  exact congrArg (List.modify _ row) (funext hcells)

/-- A table with rows, all of one length, is rectangular. -/
theorem hasSides_of_toLists {t : Table α} {height width : Nat} (hpos : 0 < height)
    (hheight : t.toLists.length = height) (hwidth : ∀ row ∈ t.toLists, row.length = width) :
    t.HasSides height width := by
  have hw : t.width = width := by
    cases hrows : t.toLists with
    | nil => rw [hrows] at hheight; simp at hheight; omega
    | cons row rows =>
        rw [width_eq_length hrows]
        exact hwidth row (by rw [hrows]; exact List.mem_cons_self)
  exact ⟨by rw [height_eq_length, hheight], hw, fun row hrow => by rw [hwidth row hrow, hw]⟩

theorem hasSides_filled {height width : Int} (hh : 0 < height) (cell : α) :
    (filled height width cell).HasSides height.toNat width.toNat := by
  refine hasSides_of_toLists (by omega) ?_ fun row hrow => ?_
  · rw [toLists_filled, List.length_replicate]
  · rw [toLists_filled] at hrow
    rw [(List.mem_replicate.1 hrow).2, List.length_replicate]

/-- A table without rows has no columns either. -/
theorem HasSides.hasSides_zero_iff {t : Table α} {height width : Nat}
    (h : t.HasSides height width) : t.HasSides 0 0 ↔ height = 0 := by
  constructor
  · intro hzero
    rw [← h.height_eq, hzero.height_eq]
  · rintro rfl
    have hrows : t.rows = #[] := Array.eq_empty_of_size_eq_zero h.height_eq
    exact ⟨h.height_eq, by rw [Table.width, hrows]; rfl, h.rectangular⟩

theorem eq_of_cell?_filled {height width : Int} {cell found : α} {row col : Nat}
    (h : (filled height width cell).cell? row col = some found) : found = cell := by
  rw [cell?_eq_bind, toLists_filled, Option.bind_eq_some_iff] at h
  obtain ⟨cells, hcells, hfound⟩ := h
  rw [List.eq_of_mem_replicate (List.mem_of_getElem? hcells)] at hfound
  exact List.eq_of_mem_replicate (List.mem_of_getElem? hfound)

/-- A cell is there exactly if its row and its column are below the sides. -/
theorem HasSides.isSome_cell?_iff {t : Table α} {height width : Nat}
    (h : t.HasSides height width) {row col : Nat} :
    (t.cell? row col).isSome = true ↔ row < height ∧ col < width := by
  rw [cell?_eq_bind]
  have hh : t.toLists.length = height := by rw [← height_eq_length, h.height_eq]
  rcases Nat.lt_or_ge row height with hrow | hrow
  · have hget : t.toLists[row]? = some t.toLists[row] :=
      List.getElem?_eq_getElem (by omega)
    have hlen : t.toLists[row].length = width := by
      rw [h.rectangular _ (List.getElem_mem _), h.width_eq]
    rw [hget, Option.bind_some, isSome_getElem?, hlen]
    exact ⟨fun hcol => ⟨hrow, hcol⟩, And.right⟩
  · rw [List.getElem?_eq_none (by omega)]
    exact ⟨fun hsome => (by simp at hsome), fun hlt => absurd hlt.1 (by omega)⟩

/-- Two tables of the same sides are the same if their cells are. -/
theorem HasSides.ext_cell {t u : Table α} {height width : Nat} (ht : t.HasSides height width)
    (hu : u.HasSides height width) (h : ∀ row col, t.cell? row col = u.cell? row col) :
    t = u := by
  have hlists : t.toLists = u.toLists := by
    apply List.ext_getElem
    · rw [← height_eq_length, ← height_eq_length, ht.height_eq, hu.height_eq]
    · intro row htrow hurow
      apply List.ext_getElem?
      intro col
      have hcell := h row col
      rw [cell?_eq_bind, cell?_eq_bind, List.getElem?_eq_getElem htrow,
        List.getElem?_eq_getElem hurow] at hcell
      exact hcell
  have hrows : t.rows.toList = u.rows.toList :=
    (List.map_inj_right fun _ _ hcells => Array.toList_inj.1 hcells).1 hlists
  cases t
  cases u
  rw [Table.mk.injEq]
  exact Array.toList_inj.1 hrows

/-- Inside a table, a coordinate is known by where it is located. -/
theorem toNat_eq_iff_of_contains {t : Table α} {c : Coordinate} (hc : t.contains c = true)
    {d : Coordinate} (hrow : 0 ≤ d.row) (hcol : 0 ≤ d.col) :
    (c.row.toNat = d.row.toNat ∧ c.col.toNat = d.col.toNat) ↔ c = d := by
  obtain ⟨hr, -, hk, -⟩ := contains_iff.1 hc
  obtain ⟨_, _⟩ := c
  obtain ⟨_, _⟩ := d
  rw [Coordinate.mk.injEq]
  simp only at hr hk hrow hcol ⊢
  omega

/-- A coordinate inside a rectangular table names the cell that its numbers say. -/
theorem locate_of_contains {t : Table α} (ht : t.Rectangular) {c : Coordinate}
    (hc : t.contains c = true) (absent : Misplaced) :
    t.locate c absent = .ok (c.row.toNat, c.col.toNat) := by
  obtain ⟨hr0, hr, hc0, hc⟩ := contains_iff.1 hc
  have hr : c.row < t.rows.size := hr
  have hlt : c.row.toNat < t.rows.size := by omega
  have hmem : (t.rows[c.row.toNat]).toList ∈ t.toLists :=
    List.mem_map.2 ⟨_, by simp, rfl⟩
  have hsize : (t.rows[c.row.toNat]).size = t.width := ht _ hmem
  have hrow : t.rows.getD c.row.toNat #[] = t.rows[c.row.toNat] := by
    simp [Array.getD, hlt]
  have hc : c.col < (t.rows[c.row.toNat]).size := by omega
  simp only [locate, position?_of_nonneg hr0 hr, hrow, position?_of_nonneg hc0 hc]

theorem get_eq_ok_iff {t : Table α} (ht : t.Rectangular) {c : Coordinate}
    (hc : t.contains c = true) {cell : α} :
    t.get c = .ok cell ↔ t.cell? c.row.toNat c.col.toNat = some cell := by
  simp only [get, locate_of_contains ht hc]
  cases t.cell? c.row.toNat c.col.toNat with
  | none => simp
  | some found => rw [Except.ok.injEq, Option.some.injEq]

end Table

namespace Maze

open Table

theorem isOpen_put (m : Maze) (row col : Nat) (b : Bool) (i j : Nat) :
    (m.put row col b).isOpen i j =
      if row = i ∧ col = j then (m.cell? i j).isSome && b else m.isOpen i j := by
  simp only [isOpen, put, cell?_modifyCell]
  split
  · cases m.cell? i j <;> cases b <;> rfl
  · rfl

theorem isOpen_put_false {m : Maze} {row col i j : Nat} :
    (m.put row col false).isOpen i j = true ↔
      m.isOpen i j = true ∧ ¬ (row = i ∧ col = j) := by
  rw [isOpen_put]
  split <;> simp_all

theorem isOpen_put_true {m : Maze} {row col i j : Nat} :
    (m.put row col true).isOpen i j = true ↔
      m.isOpen i j = true ∨ (row = i ∧ col = j ∧ (m.cell? i j).isSome = true) := by
  rw [isOpen_put]
  split
  · next h =>
      obtain ⟨rfl, rfl⟩ := h
      simp only [Bool.and_true, true_and, isOpen, beq_iff_eq]
      cases m.cell? row col <;> simp
  · next h => simp only [← and_assoc, h, false_and, or_false]

theorem isSome_of_isOpen {m : Maze} {row col : Nat} (h : m.isOpen row col = true) :
    (m.cell? row col).isSome = true := by
  rw [isOpen, beq_iff_eq] at h
  rw [h]
  rfl

theorem lt_of_isOpen {m : Maze} {height width row col : Nat}
    (hm : m.HasSides height width) (h : m.isOpen row col = true) :
    row < height ∧ col < width :=
  hm.isSome_cell?_iff.1 (isSome_of_isOpen h)

theorem hasSides_put {m : Maze} {height width : Nat} (h : m.HasSides height width)
    (row col : Nat) (b : Bool) : (m.put row col b).HasSides height width :=
  h.modifyCell ..

end Maze

end Labyrinth
