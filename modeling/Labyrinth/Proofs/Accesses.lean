import Labyrinth.Proofs.Border

/-!
# Every access finds its cell

Cells are counted from 0, looking at a cell that is not there shows no opening, and
writing to it changes nothing. A slip in an index would therefore pass unseen. Here the
work is done once more with accesses that do not let it pass: an index is an integer,
and unless it lies from 0 up to the side of the maze, the work ends with nothing. A write
is held to more: while a chamber is divided, it must lie in that chamber.

The order is that of the work itself. The walls are built before anything is drawn for
the holes, and a hole is made as soon as its place is drawn, so that what was done before
a source ran dry is under the same rule. `step?_eq` and `openBorder?_eq` say that the rule
is never broken: with or without it, the outcome is the same.
-/

namespace Labyrinth

namespace Maze

def look? (m : Maze) (c : Coordinate) : Option Bool :=
  if m.contains c then some (m.isOpen c.row.toNat c.col.toNat) else none

def put? (m : Maze) (c : Coordinate) (isOpen : Bool) : Option Maze :=
  if m.contains c then some (m.put c.row.toNat c.col.toNat isOpen) else none

/-- Whether the neighbour of a cell is open, which is asked only at an end of a wall. -/
def facesOpening? (m : Maze) (isEnd : Bool) (neighbour : Coordinate) : Option Bool :=
  if isEnd then m.look? neighbour else some false

/-- Whether a cell stays out of a wall because it is the first or the last of it and faces an
opening. The neighbour after the cell is not looked at if the one before it is open. -/
def isGap? (m : Maze) (isFirst isLast : Bool) (before after : Coordinate) : Option Bool := do
  if ← m.facesOpening? isFirst before then some true else m.facesOpening? isLast after

/-- The first column of those given in which a row is open. -/
def findOpen? (m : Maze) (row : Int) : List Nat → Option (Option Nat)
  | [] => some none
  | col :: cols => do if ← m.look? ⟨row, col⟩ then some (some col) else m.findOpen? row cols

/-- Opens a cell of the border, in the column where the row next to it is first found open. -/
def openBeside? (m : Maze) (inner border : Int) (cols : List Nat) : Option Maze := do
  match ← m.findOpen? inner cols with
  | none => some m
  | some col => m.put? ⟨border, col⟩ true

/-- `Maze.openBorder`, every access checked. -/
def openBorder? (m : Maze) (height width : Nat) : Option Maze := do
  let cols := List.range' 1 (width - 2)
  let m ← m.openBeside? 1 0 cols
  m.openBeside? ((height : Int) - 2) ((height : Int) - 1) cols.reverse

end Maze

/-- Writes to a cell of the chamber. -/
def Chamber.put? (c : Chamber) (m : Maze) (cell : Coordinate) (isOpen : Bool) : Option Maze :=
  if c.contains cell.row.toNat cell.col.toNat then m.put? cell isOpen else none

namespace Split

def buildColumn? (s : Split) (m : Maze) : Option Maze :=
  (List.range' s.chamber.top (s.chamber.bottom + 1 - s.chamber.top)).foldlM
    (fun m row => do
      if ← m.isGap? (row == s.chamber.top) (row == s.chamber.bottom)
          ⟨(row : Int) - 1, s.column⟩ ⟨(row : Int) + 1, s.column⟩ then some m
      else s.chamber.put? m ⟨row, s.column⟩ false) m

def buildRow? (s : Split) (m : Maze) : Option Maze :=
  (List.range' s.chamber.left (s.chamber.right + 1 - s.chamber.left)).foldlM
    (fun m col => do
      if ← m.isGap? (col == s.chamber.left) (col == s.chamber.right)
          ⟨s.row, (col : Int) - 1⟩ ⟨s.row, (col : Int) + 1⟩ then some m
      else s.chamber.put? m ⟨s.row, col⟩ false) m

end Split

section Drawing

variable {σ : Type} [Source σ]

/-- Draws a hole for each section and makes it at once. -/
def Chamber.pierce? (c : Chamber) :
    List Section → Maze → σ → Option (Drawn σ (List (Nat × Nat) × Maze))
  | [], m, s => some (.drew ([], m) s)
  | wall :: rest, m, s =>
    match drawBelow wall.length s with
    | .dry range s => some (.dry range s)
    | .drew place s => do
      let hole := wall.cell place
      let m ← c.put? m ⟨hole.1, hole.2⟩ true
      let drawn ← c.pierce? rest m s
      some (drawn.map fun (holes, m) => (hole :: holes, m))

/-- `Division.step`, every access checked. -/
def Division.step? (d : Division σ) : Option (Step σ) :=
  match d.pending with
  | [] => some .finished
  | chamber :: others =>
    if chamber.isDone then some (.dropped { d with pending := others })
    else
      match drawSplit chamber d.source with
      | .dry range source => some (.dry range source d.splits)
      | .drew split source => do
        let column ← split.buildColumn? d.maze
        let walls ← split.buildRow? column
        match drawBelow 4 source with
        | .dry range source => some (.dry range source (split :: d.splits))
        | .drew closed source =>
          match ← chamber.pierce? (split.sections.eraseIdx closed) walls source with
          | .dry range source => some (.dry range source (split :: d.splits))
          | .drew (holes, maze) source =>
            some (.divided ⟨split, holes⟩
              ⟨maze, split.quarters ++ others, source, split :: d.splits⟩)

end Drawing

/-! ## The accesses of a step -/

/-- Steps that all succeed are a fold, and keep what each of them keeps. -/
theorem foldlM_eq_some {α β : Type} {P : β → Prop} {step? : β → α → Option β} {step : β → α → β}
    {xs : List α} (h : ∀ b, P b → ∀ x ∈ xs, step? b x = some (step b x) ∧ P (step b x)) {b : β}
    (hb : P b) : xs.foldlM step? b = some (xs.foldl step b) ∧ P (xs.foldl step b) := by
  induction xs generalizing b with
  | nil => exact ⟨rfl, hb⟩
  | cons x xs ih =>
      obtain ⟨hstep, hP⟩ := h b hb x List.mem_cons_self
      rw [List.foldlM_cons, hstep, List.foldl_cons]
      exact ih (fun b hb y hy => h b hb y (List.mem_cons_of_mem _ hy)) hP

namespace Maze

variable {m : Maze} {height width : Nat}

theorem contains_of_lt (hm : m.HasSides height width) {c : Coordinate} {row col : Nat}
    (hrow : c.row = row) (hcol : c.col = col) (hr : row < height) (hc : col < width) :
    m.contains c = true := by
  rw [Table.contains_iff, hm.height_eq, hm.width_eq]
  omega

theorem look?_eq (hm : m.HasSides height width) {c : Coordinate} {row col : Nat}
    (hrow : c.row = row) (hcol : c.col = col) (hr : row < height) (hc : col < width) :
    m.look? c = some (m.isOpen row col) := by
  rw [look?, if_pos (contains_of_lt hm hrow hcol hr hc), hrow, hcol, Int.toNat_natCast,
    Int.toNat_natCast]

theorem put?_eq (hm : m.HasSides height width) {c : Coordinate} {row col : Nat}
    (hrow : c.row = row) (hcol : c.col = col) (hr : row < height) (hc : col < width)
    (isOpen : Bool) : m.put? c isOpen = some (m.put row col isOpen) := by
  rw [put?, if_pos (contains_of_lt hm hrow hcol hr hc), hrow, hcol, Int.toNat_natCast,
    Int.toNat_natCast]

theorem isGap?_eq {isFirst isLast opensBefore opensAfter : Bool} {before after : Coordinate}
    (hbefore : isFirst = true → m.look? before = some opensBefore)
    (hafter : isLast = true → m.look? after = some opensAfter) :
    m.isGap? isFirst isLast before after =
      some (isFirst && opensBefore || isLast && opensAfter) := by
  have hfirst : m.facesOpening? isFirst before = some (isFirst && opensBefore) := by
    cases isFirst with
    | false => rfl
    | true => exact hbefore rfl
  have hlast : m.facesOpening? isLast after = some (isLast && opensAfter) := by
    cases isLast with
    | false => rfl
    | true => exact hafter rfl
  rw [isGap?, hfirst, hlast]
  cases isFirst && opensBefore <;> rfl

end Maze

theorem Chamber.put?_eq {c : Chamber} {m : Maze} {height width : Nat}
    (hm : m.HasSides height width) (hc : c.Inside height width) {row col : Nat}
    (hcell : c.contains row col = true) (isOpen : Bool) :
    c.put? m ⟨row, col⟩ isOpen = some (m.put row col isOpen) := by
  have hbottom := hc.bottom_lt
  have hright := hc.right_lt
  have hin := Chamber.contains_iff.1 hcell
  rw [put?, Int.toNat_natCast, Int.toNat_natCast, if_pos hcell]
  exact Maze.put?_eq hm rfl rfl (by omega) (by omega) isOpen

namespace Split.Fits

variable {s : Split} {m : Maze} {height width : Nat}

theorem buildColumn?_eq (hs : s.Fits) (hc : s.chamber.Inside height width)
    (hm : m.HasSides height width) :
    s.buildColumn? m = some (s.buildColumn m) ∧ (s.buildColumn m).HasSides height width := by
  have hleft := hs.left_lt
  have hright := hs.column_lt
  have hwidth := hc.right_lt
  have htop := hc.top_pos
  have hheight := hc.bottom_lt
  refine foldlM_eq_some (P := fun m : Maze => m.HasSides height width)
    (fun m hm row hrow => ?_) hm
  rw [List.mem_range'_1] at hrow
  have hgap : m.isGap? (row == s.chamber.top) (row == s.chamber.bottom)
      ⟨(row : Int) - 1, s.column⟩ ⟨(row : Int) + 1, s.column⟩ = some (s.isColumnGap m row) :=
    Maze.isGap?_eq
      (fun _ => Maze.look?_eq hm (by dsimp only; omega) rfl (by omega) (by omega))
      (fun hlast => by
        rw [beq_iff_eq] at hlast
        exact Maze.look?_eq hm rfl rfl (by omega) (by omega))
  have hput : s.chamber.put? m ⟨row, s.column⟩ false = some (m.put row s.column false) :=
    Chamber.put?_eq hm hc (Chamber.contains_iff.2 (by omega)) false
  rw [hgap, hput]
  cases s.isColumnGap m row with
  | true => exact ⟨rfl, hm⟩
  | false => exact ⟨rfl, Maze.hasSides_put hm ..⟩

theorem buildRow?_eq (hs : s.Fits) (hc : s.chamber.Inside height width)
    (hm : m.HasSides height width) :
    s.buildRow? m = some (s.buildRow m) ∧ (s.buildRow m).HasSides height width := by
  have htop := hs.top_lt
  have hbottom := hs.row_lt
  have hheight := hc.bottom_lt
  have hleft := hc.left_pos
  have hwidth := hc.right_lt
  refine foldlM_eq_some (P := fun m : Maze => m.HasSides height width)
    (fun m hm col hcol => ?_) hm
  rw [List.mem_range'_1] at hcol
  have hgap : m.isGap? (col == s.chamber.left) (col == s.chamber.right)
      ⟨s.row, (col : Int) - 1⟩ ⟨s.row, (col : Int) + 1⟩ = some (s.isRowGap m col) :=
    Maze.isGap?_eq
      (fun _ => Maze.look?_eq hm rfl (by dsimp only; omega) (by omega) (by omega))
      (fun hlast => by
        rw [beq_iff_eq] at hlast
        exact Maze.look?_eq hm rfl rfl (by omega) (by omega))
  have hput : s.chamber.put? m ⟨s.row, col⟩ false = some (m.put s.row col false) :=
    Chamber.put?_eq hm hc (Chamber.contains_iff.2 (by omega)) false
  rw [hgap, hput]
  cases s.isRowGap m col with
  | true => exact ⟨rfl, hm⟩
  | false => exact ⟨rfl, Maze.hasSides_put hm ..⟩

/-- The cells of a section lie in the chamber that it is a wall of. -/
theorem contains_of_section (hs : s.Fits) {wall : Section} (hwall : wall ∈ s.sections)
    {place : Nat} (hplace : place < wall.length) :
    s.chamber.contains (wall.cell place).1 (wall.cell place).2 = true := by
  obtain ⟨k, hk⟩ := List.mem_iff_getElem?.1 hwall
  exact Split.contains_of_inSection hs (hs.inSection_iff.2 ⟨wall, hk, place, hplace, rfl⟩)

end Split.Fits

section Drawing

variable {σ : Type} [Source σ]

theorem Chamber.pierce?_eq {c : Chamber} {height width : Nat} (hc : c.Inside height width)
    {sections : List Section} (hpos : ∀ wall ∈ sections, 0 < wall.length)
    (hcell : ∀ wall ∈ sections, ∀ place < wall.length,
      c.contains (wall.cell place).1 (wall.cell place).2 = true)
    {m : Maze} (hm : m.HasSides height width) (s : σ) :
    c.pierce? sections m s = some ((pierce sections s).map fun holes =>
      (holes, holes.foldl (fun m (row, col) => m.put row col true) m)) := by
  induction sections generalizing m s with
  | nil => rfl
  | cons wall rest ih =>
      rw [pierce?, pierce]
      cases hdraw : drawBelow wall.length s with
      | dry range s => rfl
      | drew place s =>
          have hplace := lt_of_drawBelow (hpos wall List.mem_cons_self) hdraw
          have hput := put?_eq hm hc (hcell wall List.mem_cons_self place hplace) true
          have hrest := ih (fun other hmem => hpos other (List.mem_cons_of_mem _ hmem))
            (fun other hmem => hcell other (List.mem_cons_of_mem _ hmem))
            (Maze.hasSides_put hm (wall.cell place).1 (wall.cell place).2 true) s
          simp only [hput, hrest, Option.bind_eq_bind, Option.bind_some, Drawn.andThen]
          cases pierce rest s <;> rfl

/-- A step of a sound division never looks outside the maze, and it never writes outside the
chamber that it divides. -/
theorem Division.step?_eq {height width : Nat} {d : Division σ} (hd : d.Sound height width) :
    d.step? = some d.step := by
  rw [step?, step]
  cases hp : d.pending with
  | nil => rfl
  | cons chamber others =>
      dsimp only
      by_cases hdone : chamber.isDone = true
      · rw [if_pos hdone, if_pos hdone]
      · rw [if_neg hdone, if_neg hdone]
        have hdone : chamber.isDone = false := Bool.eq_false_iff.2 hdone
        cases hsplit : drawSplit chamber d.source with
        | dry range source => rfl
        | drew split source =>
            have hfits := fits_of_drawSplit hdone hsplit
            have hsame := chamber_of_drawSplit hsplit
            have hc : split.chamber.Inside height width := by
              rw [hsame]
              exact hd.inside chamber (by rw [hp]; exact List.mem_cons_self)
            obtain ⟨hcolumn, hm⟩ := hfits.buildColumn?_eq hc hd.sides
            obtain ⟨hrow, hm⟩ := hfits.buildRow?_eq hc hm
            simp only [hcolumn, hrow, Option.bind_eq_bind, Option.bind_some, drawHoles]
            cases drawBelow 4 source with
            | dry range source => rfl
            | drew closed source =>
                have hmem : ∀ wall ∈ split.sections.eraseIdx closed, wall ∈ split.sections :=
                  fun wall hwall => List.mem_of_mem_eraseIdx hwall
                have hpierce := Chamber.pierce?_eq hc
                  (fun wall hwall => hfits.length_pos (hmem wall hwall))
                  (fun wall hwall _ hplace => hfits.contains_of_section (hmem wall hwall) hplace)
                  hm source
                rw [hsame] at hpierce
                simp only [hpierce, Option.bind_some, Drawn.andThen]
                cases pierce (split.sections.eraseIdx closed) source <;> rfl

end Drawing

/-! ## Opening the border -/

namespace Maze

variable {m : Maze} {height width : Nat}

theorem findOpen?_eq (hm : m.HasSides height width) {row : Int} {i : Nat} (hrow : row = i)
    (hi : i < height) {cols : List Nat} (hcols : ∀ col ∈ cols, col < width) :
    m.findOpen? row cols = some (cols.find? (m.isOpen i)) := by
  induction cols with
  | nil => rfl
  | cons col cols ih =>
      have hlook := look?_eq hm (c := ⟨row, col⟩) hrow rfl hi (hcols col List.mem_cons_self)
      have hrest := ih fun col hcol => hcols col (List.mem_cons_of_mem _ hcol)
      rw [findOpen?, hlook, hrest, List.find?_cons]
      cases m.isOpen i col <;> rfl

theorem openBeside?_eq (hm : m.HasSides height width) {inner border : Int} {i j : Nat}
    (hinner : inner = i) (hborder : border = j) (hi : i < height) (hj : j < height)
    {cols : List Nat} (hcols : ∀ col ∈ cols, col < width) :
    m.openBeside? inner border cols = some (match cols.find? (m.isOpen i) with
      | none => m
      | some col => m.put j col true) := by
  rw [openBeside?, findOpen?_eq hm hinner hi hcols, Option.bind_eq_bind, Option.bind_some]
  cases hfind : cols.find? (m.isOpen i) with
  | none => rfl
  | some col => exact put?_eq hm hborder rfl hj (hcols col (List.mem_of_find?_eq_some hfind)) true

theorem openBorder?_eq (hm : m.HasSides height width) (hh : 3 ≤ height) :
    m.openBorder? height width = some (m.openBorder height width) := by
  have hcols : ∀ col ∈ List.range' 1 (width - 2), col < width := by
    intro col hcol
    rw [List.mem_range'_1] at hcol
    omega
  have hcols' : ∀ col ∈ (List.range' 1 (width - 2)).reverse, col < width := by
    simpa only [List.mem_reverse] using hcols
  let n := match (List.range' 1 (width - 2)).find? (m.isOpen 1) with
    | none => m
    | some col => m.put 0 col true
  have htop : m.openBeside? 1 0 (List.range' 1 (width - 2)) = some n :=
    openBeside?_eq hm (i := 1) (j := 0) rfl rfl (by omega) (by omega) hcols
  have hn : n.HasSides height width := by
    dsimp only [n]
    split
    · exact hm
    · exact hasSides_put hm ..
  rw [openBorder?, htop, Option.bind_eq_bind, Option.bind_some,
    openBeside?_eq hn (i := height - 2) (j := height - 1) (by omega) (by omega) (by omega)
      (by omega) hcols']
  rfl

end Maze

/-! ## While a chamber is divided -/

/-- The second maze comes of the first by writing to a cell of the chamber. -/
def Chamber.Writes (c : Chamber) (m n : Maze) : Prop :=
  ∃ cell isOpen, c.put? m cell isOpen = some n

theorem Chamber.isOpen_of_writes {c : Chamber} {m n : Maze}
    (h : Relation.ReflTransGen c.Writes m n) {row col : Nat}
    (hout : c.contains row col = false) : n.isOpen row col = m.isOpen row col := by
  induction h with
  | refl => rfl
  | @tail n n' _ hwrite ih =>
      obtain ⟨cell, isOpen, hput⟩ := hwrite
      obtain ⟨hcell, hput⟩ := Option.ite_none_right_eq_some.1 hput
      obtain ⟨-, hput⟩ := Option.ite_none_right_eq_some.1 hput
      obtain rfl := Option.some.inj hput
      rw [Maze.isOpen_put, if_neg, ih]
      rintro ⟨rfl, rfl⟩
      rw [hcell] at hout
      cases hout

/-- Whatever is written to the chamber that is taken from the list, those that stay on it stay
open. -/
theorem Division.Sound.isOpen_of_writes {σ : Type} {height width : Nat} {d : Division σ}
    (hd : d.Sound height width) {chamber : Chamber} {others : List Chamber}
    (hp : d.pending = chamber :: others) {n : Maze}
    (h : Relation.ReflTransGen chamber.Writes d.maze n) {c : Chamber} (hc : c ∈ others)
    {row col : Nat} (hcell : c.contains row col = true) : n.isOpen row col = true := by
  have hapart := hd.apart
  rw [hp] at hapart
  have hout : chamber.contains row col = false := by
    rw [← Bool.not_eq_true]
    exact fun hin => List.rel_of_pairwise_cons hapart hc row col hin hcell
  rw [Chamber.isOpen_of_writes h hout]
  exact hd.isOpen c (by rw [hp]; exact List.mem_cons_of_mem _ hc) row col hcell

end Labyrinth
