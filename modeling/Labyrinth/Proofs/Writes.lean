import Labyrinth.Document.Action
import Labyrinth.Proofs.Outcomes
import Labyrinth.Proofs.Sides

/-!
# Writes that have been checked

Statements write cells one after the other, and every write is an attempt: it
might find no cell. The checks made before the first write exclude that, and what
is left of the attempts is a fold of changes of single cells. Here each of the
loops is equated with its fold. The row is the exception, as it checks its columns
while it writes: it writes what stands within them, and then it fails or not.
-/

namespace Labyrinth

/-- What is inside a table is inside every table of the same sides. -/
theorem Table.HasSides.contains_congr {α β : Type} {height width : Nat} {t : Table α}
    {u : Table β} (ht : t.HasSides height width) (hu : u.HasSides height width) {c : Coordinate}
    (hc : u.contains c = true) : t.contains c = true := by
  rw [contains_iff, hu.height_eq, hu.width_eq] at hc
  rw [contains_iff, ht.height_eq, ht.width_eq]
  exact hc

theorem Table.HasSides.foldl {α β : Type} {height width : Nat} {f : Table α → β → Table α}
    (hf : ∀ t b, t.HasSides height width → (f t b).HasSides height width) {t : Table α}
    (ht : t.HasSides height width) (xs : List β) : (xs.foldl f t).HasSides height width := by
  induction xs generalizing t with
  | nil => exact ht
  | cons x xs ih => exact ih (hf t x ht)

/-! ## Opening the cells of a path -/

namespace Grid

/-- The grid with the cells at some points opened. -/
def opened (g : Grid) (points : List Coordinate) : Grid :=
  points.foldl (fun g c => g.modifyCell c.row.toNat c.col.toNat fun _ => .path) g

theorem hasSides_opened {g : Grid} {height width : Nat} (hg : g.HasSides height width)
    (points : List Coordinate) : (g.opened points).HasSides height width :=
  hg.foldl (fun _ _ ht => ht.modifyCell ..) points

theorem cell?_opened {g : Grid} {points : List Coordinate}
    (h : ∀ c ∈ points, g.contains c = true) (row col : Nat) :
    (g.opened points).cell? row col =
      if (⟨row, col⟩ : Coordinate) ∈ points then (g.cell? row col).map fun _ => .path
      else g.cell? row col := by
  induction points generalizing g with
  | nil => rfl
  | cons c points ih =>
      have hat := Table.toNat_eq_iff_of_contains (h c List.mem_cons_self)
        (Int.natCast_nonneg row) (Int.natCast_nonneg col) (d := ⟨row, col⟩)
      simp only [Int.toNat_natCast] at hat
      have hinside : ∀ p ∈ points,
          (g.modifyCell c.row.toNat c.col.toNat fun _ => .path).contains p = true := by
        intro p hp
        rw [Table.contains, Table.height_modifyCell, Table.width_modifyCell, ← Table.contains]
        exact h p (List.mem_cons_of_mem _ hp)
      rw [opened, List.foldl_cons, ← opened, ih hinside, Table.cell?_modifyCell]
      simp only [hat, List.mem_cons, eq_comm (a := c)]
      by_cases heq : (⟨row, col⟩ : Coordinate) = c
      · simp only [heq, if_true, true_or, Option.map_map]
        split <;> rfl
      · simp only [heq, if_false, false_or]

end Grid

namespace Draft

theorem writeCell_eq_done {d : Description} (hd : d.grid.Rectangular) {c : Coordinate}
    (hc : d.grid.contains c = true) (kind : CellKind) :
    writeCell kind d c =
      .done { d with grid := d.grid.modifyCell c.row.toNat c.col.toNat fun _ => kind } := by
  simp only [writeCell, Description.setCell, Table.locate_of_contains hd hc]
  rfl

/-- A path whose points are all in the grid is opened from end to end. -/
theorem each_writeCell {d : Description} {points : List Coordinate} (hd : d.grid.Rectangular)
    (h : ∀ c ∈ points, d.grid.contains c = true) :
    Attempt.each (writeCell .path) d points = .done { d with grid := d.grid.opened points } := by
  have hsides : d.grid.HasSides d.grid.height d.grid.width := ⟨rfl, rfl, hd⟩
  rw [Attempt.each_eq_foldl
    (P := fun e : Description => e.grid.HasSides d.grid.height d.grid.width)
    (fun e c => { e with grid := e.grid.modifyCell c.row.toNat c.col.toNat fun _ => .path })
    (fun e c hc he => ⟨writeCell_eq_done he.rectangular (he.contains_congr hsides (h c hc)) .path,
      he.modifyCell ..⟩) hsides]
  clear hsides h hd
  congr 1
  induction points generalizing d with
  | nil => rfl
  | cons c points ih => exact ih

end Draft

/-! ## Writing a row -/

namespace Grid

/-- The grid with a row overwritten by characters that stand in given columns. A character that
is no code leaves its cell as it is. -/
def withRow (g : Grid) (row : Nat) (entries : List (Char × Nat)) : Grid :=
  entries.foldl (fun g entry =>
    match CellKind.ofCode? entry.1 with
    | none => g
    | some kind => g.modifyCell row entry.2 fun _ => kind) g

theorem hasSides_withRow {g : Grid} {height width : Nat} (hg : g.HasSides height width)
    (row : Nat) (entries : List (Char × Nat)) : (g.withRow row entries).HasSides height width := by
  refine hg.foldl (fun t entry ht => ?_) entries
  split
  · exact ht
  · exact ht.modifyCell ..

theorem withRow_cons (g : Grid) (row : Nat) (entry : Char × Nat) (entries : List (Char × Nat)) :
    g.withRow row (entry :: entries) = (g.withRow row [entry]).withRow row entries :=
  rfl

/-- A cell of the row is decided by the character in its column, if that is a code. -/
theorem cell?_withRow (g : Grid) (row : Nat) (cells : Text) (start i j : Nat) :
    (g.withRow row (cells.zipIdx start)).cell? i j =
      if i = row ∧ start ≤ j then
        match cells[j - start]?.bind CellKind.ofCode? with
        | none => g.cell? i j
        | some kind => (g.cell? i j).map fun _ => kind
      else g.cell? i j := by
  induction cells generalizing g start with
  | nil =>
      rw [List.getElem?_nil, Option.bind_none, ite_self]
      rfl
  | cons c cells ih =>
      have hfirst : (g.withRow row [(c, start)]).cell? i j =
          if row = i ∧ start = j then
            match CellKind.ofCode? c with
            | none => g.cell? i j
            | some kind => (g.cell? i j).map fun _ => kind
          else g.cell? i j := by
        simp only [withRow, List.foldl_cons, List.foldl_nil]
        cases CellKind.ofCode? c with
        | none => rw [ite_self]
        | some kind => rw [Table.cell?_modifyCell]
      rw [List.zipIdx_cons, withRow_cons, ih, hfirst]
      rcases Nat.lt_trichotomy j start with hj | rfl | hj
      · rw [if_neg (by omega), if_neg (by omega), if_neg (by omega)]
      · rw [if_neg (by omega), Nat.sub_self, List.getElem?_cons_zero, Option.bind_some]
        simp only [Nat.le_refl, and_true, eq_comm]
      · have hnext : j - start = j - (start + 1) + 1 := by omega
        rw [if_neg (by omega : ¬ (row = i ∧ start = j)), hnext, List.getElem?_cons_succ]
        simp only [Nat.add_one_le_iff, hj, Nat.le_of_lt hj]

/-- Of a row that is cut to the width of the grid, every cell finds its character. -/
theorem cell?_withRow_take {g : Grid} {height width : Nat} (hg : g.HasSides height width)
    (row : Nat) (cells : Text) (i j : Nat) :
    (g.withRow row (cells.take width).zipIdx).cell? i j = (g.cell? i j).map fun kind =>
      (if i = row then cells[j]?.bind CellKind.ofCode? else none).getD kind := by
  rw [cell?_withRow]
  simp only [Nat.zero_le, and_true, Nat.sub_zero, List.getElem?_take]
  by_cases hrow : i = row
  · simp only [if_pos hrow]
    by_cases hcol : j < width
    · rw [if_pos hcol]
      cases cells[j]?.bind CellKind.ofCode? with
      | none => exact Option.map_id'.symm
      | some kind => rfl
    · -- Beyond the last column there is nothing to write and no cell to compare.
      have habsent : g.cell? i j = none := by
        rw [← Option.not_isSome_iff_eq_none]
        exact fun hcell => hcol (hg.isSome_cell?_iff.1 hcell).2
      rw [if_neg hcol, habsent]
      rfl
  · simp only [if_neg hrow]
    exact Option.map_id'.symm

end Grid

namespace Draft

theorem writeRowCell_inside {d : Description} {row : Nat} (hd : d.grid.Rectangular)
    (hrow : row < d.grid.height) {entry : Char × Nat} (hcol : entry.2 < d.grid.width) :
    writeRowCell row d entry = .done { d with grid := d.grid.withRow row [entry] } := by
  unfold writeRowCell
  simp only [Grid.withRow, List.foldl_cons, List.foldl_nil]
  cases CellKind.ofCode? entry.1 with
  | none => rfl
  | some kind =>
      have hin : d.grid.contains ⟨row, entry.2⟩ = true := by
        rw [Table.contains_iff]
        exact ⟨Int.natCast_nonneg _, Int.ofNat_lt.2 hrow, Int.natCast_nonneg _, Int.ofNat_lt.2 hcol⟩
      simp only [if_pos hcol, writeCell_eq_done hd hin, Int.toNat_natCast]

/-- Characters that stand within the columns are written to the last. -/
theorem each_writeRowCell_inside {d : Description} {row : Nat} (hd : d.grid.Rectangular)
    (hrow : row < d.grid.height) {entries : List (Char × Nat)}
    (h : ∀ e ∈ entries, e.2 < d.grid.width) :
    Attempt.each (writeRowCell row) d entries =
      .done { d with grid := d.grid.withRow row entries } := by
  have hsides : d.grid.HasSides d.grid.height d.grid.width := ⟨rfl, rfl, hd⟩
  rw [Attempt.each_eq_foldl
    (P := fun e : Description => e.grid.HasSides d.grid.height d.grid.width)
    (fun e entry => { e with grid := e.grid.withRow row [entry] })
    (fun e entry hentry he => ⟨writeRowCell_inside he.rectangular (by rw [he.height_eq]; exact hrow)
      (by rw [he.width_eq]; exact h entry hentry), Grid.hasSides_withRow he ..⟩) hsides]
  clear hsides h hd hrow
  congr 1
  induction entries generalizing d with
  | nil => rfl
  | cons entry entries ih => exact ih

/-- Whether one of the characters of a row is a code. -/
def hasCode (cells : Text) : Bool :=
  cells.any fun c => (CellKind.ofCode? c).isSome

/-- Beyond the last column nothing is written, and the first code there is refused. -/
theorem each_writeRowCell_beyond {d : Description} (row : Nat) (cells : Text) {start : Nat}
    (h : d.grid.width ≤ start) :
    Attempt.each (writeRowCell row) d (cells.zipIdx start) =
      ⟨d, if hasCode cells then some (.reason (.rowTooLong row (d.grid.width - 1))) else none⟩ := by
  induction cells generalizing start with
  | nil => rfl
  | cons c cells ih =>
      rw [List.zipIdx_cons, Attempt.each, writeRowCell, hasCode, List.any_cons]
      cases CellKind.ofCode? c with
      | none => exact ih (by omega)
      | some kind =>
          simp only [if_neg (Nat.not_lt.2 h)]
          rfl

/-- What becomes of a row: its first characters, as many as there are columns, are written, and
it fails if there is a code among the others. -/
theorem each_writeRowCell {d : Description} {row : Nat} (hd : d.grid.Rectangular)
    (hrow : row < d.grid.height) (cells : Text) :
    Attempt.each (writeRowCell row) d cells.zipIdx =
      ⟨{ d with grid := d.grid.withRow row (cells.take d.grid.width).zipIdx },
        if hasCode (cells.drop d.grid.width) then
          some (.reason (.rowTooLong row (d.grid.width - 1)))
        else none⟩ := by
  have hinside : ∀ e ∈ (cells.take d.grid.width).zipIdx, e.2 < d.grid.width := by
    intro e he
    have hlt := List.snd_lt_of_mem_zipIdx he
    rw [List.length_take] at hlt
    omega
  have hwritten := each_writeRowCell_inside hd hrow hinside
  rcases Nat.le_total cells.length d.grid.width with hshort | hlong
  · rw [List.take_of_length_le hshort] at hwritten ⊢
    rw [List.drop_of_length_le hshort]
    exact hwritten
  · have hsplit : cells.zipIdx = (cells.take d.grid.width).zipIdx ++
        (cells.drop d.grid.width).zipIdx d.grid.width := by
      conv => lhs; rw [← List.take_append_drop d.grid.width cells]
      rw [List.zipIdx_append, List.length_take, Nat.min_eq_left hlong, Nat.zero_add]
    have hsides : (d.grid.withRow row (cells.take d.grid.width).zipIdx).HasSides d.grid.height
        d.grid.width := Grid.hasSides_withRow ⟨rfl, rfl, hd⟩ ..
    have hbeyond := each_writeRowCell_beyond
      (d := { d with grid := d.grid.withRow row (cells.take d.grid.width).zipIdx }) row
      (cells.drop d.grid.width) (Nat.le_of_eq hsides.width_eq)
    rw [hsides.width_eq] at hbeyond
    rw [hsplit, Attempt.each_append, hwritten]
    exact hbeyond

end Draft

/-! ## Drawing a line -/

/-- The visits after each point of a line has received one more. -/
def lined (visits : Table (Array Visit)) (color : Color) (line : List (Coordinate × Shape)) :
    Table (Array Visit) :=
  line.foldl (fun t e => t.modifyCell e.1.row.toNat e.1.col.toNat fun vs => vs.push ⟨e.2, color⟩)
    visits

theorem hasSides_lined {visits : Table (Array Visit)} {height width : Nat}
    (h : visits.HasSides height width) (color : Color) (line : List (Coordinate × Shape)) :
    (lined visits color line).HasSides height width :=
  h.foldl (fun _ _ ht => ht.modifyCell ..) line

namespace Description

theorem addVisit_eq_done {d : Description} (hd : d.visits.Rectangular) {c : Coordinate}
    (hc : d.visits.contains c = true) (v : Visit) :
    d.addVisit c v =
      .done { d with
        visits := d.visits.modifyCell c.row.toNat c.col.toNat fun visits => visits.push v } := by
  simp only [addVisit, Table.locate_of_contains hd hc]

/-- A line whose points are all in the table is drawn from end to end. -/
theorem addLine_eq_done {d : Description} {line : List (Coordinate × Shape)} (color : Color)
    (hd : d.visits.Rectangular) (h : ∀ e ∈ line, d.visits.contains e.1 = true) :
    d.addLine color line = .done { d with visits := lined d.visits color line } := by
  have hsides : d.visits.HasSides d.visits.height d.visits.width := ⟨rfl, rfl, hd⟩
  rw [addLine, Attempt.each_eq_foldl
    (P := fun e : Description => e.visits.HasSides d.visits.height d.visits.width)
    (fun d e => { d with
      visits := d.visits.modifyCell e.1.row.toNat e.1.col.toNat fun vs => vs.push ⟨e.2, color⟩ })
    (fun m e he hm => ⟨addVisit_eq_done hm.rectangular (hm.contains_congr hsides (h e he)) _,
      hm.modifyCell ..⟩) hsides]
  clear hsides h hd
  congr 1
  induction line generalizing d with
  | nil => rfl
  | cons e line ih => exact ih

end Description

end Labyrinth
