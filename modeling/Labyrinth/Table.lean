import Labyrinth.Coordinate
import Labyrinth.Word

/-!
# Tables

Grids, visit histories and mazes are tables: rows of cells. The width of a table
is that of its first row. Rows of other lengths can be built but not by anything
in the compiler or the generator.

A table is read and written cell by cell, a long path or a wall of a maze touching
thousands of them, so its rows are arrays: a cell is reached at once, and a table
that nobody else holds is written in place. What a table *is* are its rows as
lists, `toLists`, and the lemmas here say what each operation does to them.

A coordinate names a cell by its row and column, where a negative number counts
from the end, so that -1 is the last. There is therefore a difference between a
coordinate that is *inside* a table, both numbers from 0 up to the side, and one
that merely names a cell. The language checks the first before it uses the
second. The row is found before the column is looked at, so of two bad numbers
the row's is the one refused.
-/

namespace Labyrinth

/-- Why a coordinate names no cell that could be read or written. -/
inductive Misplaced where
  /-- There is no such row, or no such cell to read. -/
  | unreadable
  /-- There is such a row, but no such cell in it to write. -/
  | unwritable
  /-- The number of the row or of the column is no word. -/
  | oversized
  deriving DecidableEq, Repr

def Misplaced.message : Misplaced → String
  | unreadable => "list index out of range"
  | unwritable => "list assignment index out of range"
  | oversized => Word.refusal

/-- Why an index that names no position is refused. Of an index that is no word only that is
said, whatever was to be done at its position. -/
def Misplaced.ofIndex (index : Int) (fault : Misplaced) : Misplaced :=
  if Word.holds index then fault else .oversized

/-- The position among `size` elements that an index names, negative ones counting from
the end. -/
def position? (size : Nat) (index : Int) : Option Nat :=
  let place := if index < 0 then index + size else index
  if 0 ≤ place ∧ place < size then some place.toNat else none

/-- Rows of cells. -/
structure Table (α : Type) where
  rows : Array (Array α)
  deriving DecidableEq, Repr

namespace Table

variable {α : Type}

def ofLists (rows : List (List α)) : Table α :=
  ⟨(rows.map List.toArray).toArray⟩

def toLists (t : Table α) : List (List α) :=
  t.rows.toList.map Array.toList

def height (t : Table α) : Nat :=
  t.rows.size

def width (t : Table α) : Nat :=
  (t.rows.getD 0 #[]).size

/-- A table with equal cells throughout; a negative side counts as 0. A row is built only for
a table that has rows, so the width of a table without any may be as large as it likes. -/
def filled (height width : Int) (cell : α) : Table α :=
  match height.toNat with
  | 0 => ⟨#[]⟩
  | rows + 1 => ⟨Array.replicate (rows + 1) (Array.replicate width.toNat cell)⟩

/-- Whether both numbers of a coordinate lie from 0 up to the side of the table. -/
def contains (t : Table α) (c : Coordinate) : Bool :=
  0 ≤ c.row && c.row < t.height && 0 ≤ c.col && c.col < t.width

/-- The cell in a row and column counted from 0. -/
def cell? (t : Table α) (row col : Nat) : Option α :=
  (t.rows.getD row #[])[col]?

/-- The table with the cell in a row and column counted from 0 changed; a cell that is not
there is not changed. -/
def modifyCell (t : Table α) (row col : Nat) (change : α → α) : Table α :=
  ⟨t.rows.modify row fun cells => cells.modify col change⟩

/-! ## Coordinates that name a cell -/

/-- The row and the column, counted from 0, that a coordinate names. What is said of a column
that the row does not have depends on what was to be done there. -/
def locate (t : Table α) (c : Coordinate) (absent : Misplaced) : Except Misplaced (Nat × Nat) :=
  match position? t.rows.size c.row with
  | none => .error (.ofIndex c.row .unreadable)
  | some row =>
    match position? (t.rows.getD row #[]).size c.col with
    | none => .error (.ofIndex c.col absent)
    | some col => .ok (row, col)

def get (t : Table α) (c : Coordinate) : Except Misplaced α :=
  match t.locate c .unreadable with
  | .error e => .error e
  | .ok (row, col) =>
    match t.cell? row col with
    | none => .error .unreadable
    | some cell => .ok cell

def set (t : Table α) (c : Coordinate) (cell : α) : Except Misplaced (Table α) :=
  match t.locate c .unwritable with
  | .error e => .error e
  | .ok (row, col) => .ok (t.modifyCell row col fun _ => cell)

/-- The cells with their coordinates, row by row. -/
def entries (t : Table α) : List (Coordinate × α) :=
  t.toLists.zipIdx.flatMap fun (cells, row) =>
    cells.zipIdx.map fun (cell, col) => (⟨row, col⟩, cell)

/-! ## Tables as lists -/

theorem toLists_ofLists (rows : List (List α)) : (ofLists rows).toLists = rows := by
  have h : Array.toList ∘ List.toArray = (id : List α → List α) := rfl
  simp [ofLists, toLists, h]

theorem height_eq_length (t : Table α) : t.height = t.toLists.length := by
  simp [Table.height, toLists]

theorem cell?_eq_bind (t : Table α) (row col : Nat) :
    t.cell? row col = t.toLists[row]?.bind fun cells => cells[col]? := by
  unfold cell? toLists
  rw [Array.getD_eq_getD_getElem?, List.getElem?_map, Array.getElem?_toList]
  cases t.rows[row]? <;> simp

theorem toLists_modifyCell (t : Table α) (row col : Nat) (change : α → α) :
    (t.modifyCell row col change).toLists
      = t.toLists.modify row fun cells => cells.modify col change := by
  apply List.ext_getElem?
  intro i
  simp only [modifyCell, toLists, Array.toList_modify, List.getElem?_map, List.getElem?_modify]
  split <;> simp [Function.comp_def, Array.toList_modify]

theorem cell?_modifyCell (t : Table α) (row col : Nat) (change : α → α) (i j : Nat) :
    (t.modifyCell row col change).cell? i j
      = if row = i ∧ col = j then (t.cell? i j).map change else t.cell? i j := by
  simp only [cell?_eq_bind, toLists_modifyCell, List.getElem?_modify]
  by_cases hi : row = i
  · subst hi
    cases t.toLists[row]? with
    | none => simp
    | some cells =>
        simp [List.getElem?_modify]
        split <;> simp_all
  · simp [hi]

theorem height_modifyCell (t : Table α) (row col : Nat) (change : α → α) :
    (t.modifyCell row col change).height = t.height := by
  simp [Table.height, modifyCell]

theorem width_modifyCell (t : Table α) (row col : Nat) (change : α → α) :
    (t.modifyCell row col change).width = t.width := by
  simp only [Table.width, modifyCell, Array.getD_eq_getD_getElem?, Array.getElem?_modify]
  split <;> cases t.rows[0]? <;> simp

theorem toLists_filled (height width : Int) (cell : α) :
    (filled height width cell).toLists
      = List.replicate height.toNat (List.replicate width.toNat cell) := by
  unfold filled
  split <;> simp_all [toLists]

theorem height_filled (height width : Int) (cell : α) :
    (filled height width cell).height = height.toNat := by
  simp [height_eq_length, toLists_filled]

theorem position?_of_nonneg {size : Nat} {index : Int} (h0 : 0 ≤ index) (h : index < size) :
    position? size index = some index.toNat := by
  simp [position?, Int.not_lt.2 h0, h0, h]

/-- All rows are as long as the first. -/
def Rectangular (t : Table α) : Prop :=
  ∀ row ∈ t.toLists, row.length = t.width

theorem width_eq_length {t : Table α} {row : List α} {rows : List (List α)}
    (h : t.toLists = row :: rows) : t.width = row.length := by
  obtain ⟨⟨rows'⟩⟩ := t
  cases rows' with
  | nil => simp [toLists] at h
  | cons first rest =>
      have hrow : first.toList = row := by simpa [toLists] using (List.cons.inj h).1
      simp [Table.width, ← hrow]

/-- In a rectangular table every coordinate inside it names a cell. -/
theorem get_of_contains {t : Table α} (ht : t.Rectangular) {c : Coordinate}
    (h : t.contains c = true) : ∃ cell, t.get c = .ok cell := by
  simp only [contains, Bool.and_eq_true, decide_eq_true_eq] at h
  obtain ⟨⟨⟨hr0, hr⟩, hc0⟩, hc⟩ := h
  have hlt : c.row.toNat < t.rows.size := by
    have : t.height = t.rows.size := rfl
    omega
  have hmem : (t.rows[c.row.toNat]).toList ∈ t.toLists :=
    List.mem_map.2 ⟨_, by simp, rfl⟩
  have hrow : (t.rows[c.row.toNat]).size = t.width := ht _ hmem
  have hget : t.rows.getD c.row.toNat #[] = t.rows[c.row.toNat] := by
    simp [Array.getD, hlt]
  have hcol : c.col.toNat < (t.rows[c.row.toNat]).size := by omega
  have hr' : c.row < t.rows.size := hr
  have hc' : c.col < (t.rows[c.row.toNat]).size := by omega
  refine ⟨(t.rows[c.row.toNat])[c.col.toNat], ?_⟩
  simp [get, locate, cell?, position?_of_nonneg hr0 hr', hget, position?_of_nonneg hc0 hc', hcol]

end Table

end Labyrinth
