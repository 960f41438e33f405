import Labyrinth.Maze

/-!
# Whether a maze can be solved

The search floods the maze from its entrance, breadth first. A cell that has been
reached is closed in a second copy of the maze, so that no cell is reached twice;
the open cells of that copy and the cells still waiting are together one fewer
after every step, which is why the flood ends. It looks at four neighbours of a
cell, those inside the maze only, and reads them from the maze as it is.
-/

namespace Labyrinth.Maze

def openCount (m : Maze) : Nat :=
  m.toLists.flatten.count true

/-- A flood under way: the cells that have been reached and still wait to be looked around
from, and the maze without the cells that have been reached. -/
structure Flood where
  waiting : List Coordinate
  fresh : Maze
  deriving DecidableEq, Repr

namespace Flood

/-- The cells a flood can still look around from. -/
def potential (f : Flood) : Nat :=
  f.fresh.openCount + f.waiting.length

/-- Whether a cell inside the maze has not been reached. -/
def isFresh (f : Flood) (c : Coordinate) : Bool :=
  f.fresh.isOpen c.row.toNat c.col.toNat

def reach (f : Flood) (c : Coordinate) : Flood :=
  ⟨f.waiting ++ [c], f.fresh.put c.row.toNat c.col.toNat false⟩

/-- Looks at a neighbour and reaches it if it is inside the maze, open and fresh. -/
def look (m : Maze) (f : Flood) (c : Coordinate) : Except Misplaced Flood :=
  if m.contains c then
    match m.get c with
    | .error e => .error e
    | .ok isOpen => .ok (if isOpen && f.isFresh c then f.reach c else f)
  else .ok f

def directions : List Move := [.up, .down, .left, .right]

def lookAround (m : Maze) (c : Coordinate) : List Move → Flood → Except Misplaced Flood
  | [], f => .ok f
  | d :: rest, f =>
    match look m f (c.step d) with
    | .error e => .error e
    | .ok f' => lookAround m c rest f'

theorem count_modify_close {row : List Bool} {i : Nat} (h : row[i]? = some true) :
    (row.modify i fun _ => false).count true + 1 = row.count true := by
  induction row generalizing i with
  | nil => simp at h
  | cons b row ih =>
      cases i with
      | zero =>
          have hb : b = true := by simpa using h
          subst hb
          simp
      | succ i =>
          have := @ih i (by simpa using h)
          simp only [List.modify_succ_cons, List.count_cons]
          omega

theorem openCount_put_false {m : Maze} {row col : Nat} (h : m.isOpen row col = true) :
    (m.put row col false).openCount + 1 = m.openCount := by
  simp only [isOpen, Table.cell?_eq_bind, beq_iff_eq] at h
  simp only [put, openCount, Table.toLists_modifyCell]
  generalize m.toLists = rows at h ⊢
  induction rows generalizing row with
  | nil => simp at h
  | cons cells rows ih =>
      cases row with
      | zero =>
          have hc : cells[col]? = some true := by simpa using h
          have := count_modify_close hc
          simp only [List.modify_zero_cons, List.flatten_cons, List.count_append]
          omega
      | succ row =>
          have := @ih row (by simpa using h)
          simp only [List.modify_succ_cons, List.flatten_cons, List.count_append]
          omega

theorem potential_reach {f : Flood} {c : Coordinate} (h : f.isFresh c = true) :
    (f.reach c).potential = f.potential := by
  have := openCount_put_false h
  simp only [reach, potential, List.length_append, List.length_cons, List.length_nil]
  omega

theorem potential_look {m : Maze} {f f' : Flood} {c : Coordinate} (h : look m f c = .ok f') :
    f'.potential = f.potential := by
  unfold look at h
  split at h
  · split at h
    · simp at h
    · next isOpen _ =>
        have h := Except.ok.inj h
        subst h
        split
        · next hc => exact potential_reach (by simp_all)
        · rfl
  · rw [Except.ok.inj h]

theorem potential_lookAround {m : Maze} {c : Coordinate} {directions : List Move}
    {f f' : Flood} (h : lookAround m c directions f = .ok f') : f'.potential = f.potential := by
  induction directions generalizing f with
  | nil => rw [Except.ok.inj h]
  | cons d rest ih =>
      unfold lookAround at h
      split at h
      · simp at h
      · next hl => rw [ih h, potential_look hl]

/-- Floods on until `goal` is taken up or no cell waits. -/
def finds (m : Maze) (goal : Coordinate) (f : Flood) : Except Misplaced Bool :=
  match _hw : f.waiting with
  | [] => .ok false
  | c :: rest =>
    if c = goal then .ok true
    else
      match _hl : lookAround m c directions { f with waiting := rest } with
      | .error e => .error e
      | .ok f' => finds m goal f'
termination_by f.potential
decreasing_by
  rw [potential_lookAround _hl]
  simp [potential, _hw]

end Flood

/-- Whether open cells connect the opening in the top row to the one in the bottom row. -/
def isSolvable (m : Maze) : Except Misplaced Bool :=
  match m.entrance, m.exit with
  | .error e, _ | _, .error e => .error e
  | .ok (some entrance), .ok (some exit) =>
    Flood.finds m ⟨m.height - 1, exit⟩ (Flood.reach ⟨[], m⟩ ⟨0, entrance⟩)
  | .ok _, .ok _ => .ok false

end Labyrinth.Maze
