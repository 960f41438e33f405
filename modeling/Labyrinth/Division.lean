import Labyrinth.Division.Cut

/-!
# Division

A division is under way: a maze, the chambers that are still to be divided, and
the source of chance. The first chamber waiting is divided and replaced by its
quarters, in front of the others, so that a chamber is finished with everything
inside it before the next one is begun.

A step either drops a chamber, which is then one fewer, or draws and puts four
chambers in the place of one. Four for every draw that is left and one for every
chamber that waits is therefore a number that every step lowers. If the source
runs dry there is no maze, but the splits that were made are still known.
-/

namespace Labyrinth

structure Division (σ : Type) where
  maze : Maze
  /-- The chambers still to be divided, the next one first. -/
  pending : List Chamber
  source : σ
  /-- The splits made so far, the latest first. -/
  splits : List Split
  deriving DecidableEq, Repr

namespace Division

/-- What the next step of a division is. -/
inductive Step (σ : Type) where
  | finished
  | dropped (after : Division σ)
  | divided (cut : Cut) (after : Division σ)
  /-- A draw below `range` found no answer. -/
  | dry (range : Nat) (source : σ) (splits : List Split)

/-- What a division came to: a maze, or the range of the draw that found no answer. -/
structure Result (σ : Type) where
  maze : Except Nat Maze
  source : σ
  /-- The splits in the order in which they were made. -/
  splits : List Split

variable {σ : Type} [Source σ]

/-- Deals with the first chamber that waits. -/
def step (d : Division σ) : Step σ :=
  match d.pending with
  | [] => .finished
  | chamber :: others =>
    if chamber.isDone then .dropped { d with pending := others }
    else
      match drawSplit chamber d.source with
      | .dry range source => .dry range source d.splits
      | .drew split source =>
        match drawHoles split source with
        | .dry range source => .dry range source (split :: d.splits)
        | .drew cut source =>
          .divided cut ⟨cut.apply d.maze, split.quarters ++ others, source, split :: d.splits⟩

/-- The work that is left: what every step lowers. -/
def work (d : Division σ) : Nat :=
  4 * Source.remaining d.source + d.pending.length

theorem work_of_dropped {d after : Division σ} (h : d.step = .dropped after) :
    after.work < d.work := by
  unfold step at h
  split at h
  · simp at h
  · next chamber others hp =>
      split at h
      · have h := Step.dropped.inj h
        subst h
        simp [work, hp]
      · split at h
        · simp at h
        · split at h <;> simp at h

/-- Dividing a chamber takes at least one draw and leaves three chambers more. -/
theorem work_of_divided {d after : Division σ} {cut : Cut}
    (h : d.step = .divided cut after) : after.work < d.work := by
  unfold step at h
  split at h
  · simp at h
  · next chamber others hp =>
    split at h
    · simp at h
    · split at h
      · simp at h
      · next split source hs =>
          split at h
          · simp at h
          · next hh =>
              obtain ⟨_, h⟩ := Step.divided.inj h
              subst h
              have hdrawn := remaining_drawSplit hs
              have hholes := remaining_drawHoles_le split source
              rw [hh] at hholes
              have hless := Nat.lt_of_le_of_lt hholes hdrawn
              simp only [Drawn.rest] at hless
              simp only [work, hp, List.length_append, Split.length_quarters, List.length_cons]
              omega

def run (d : Division σ) : Result σ :=
  match _hs : d.step with
  | .finished => ⟨.ok d.maze, d.source, d.splits.reverse⟩
  | .dropped after => run after
  | .divided _ after => run after
  | .dry range source splits => ⟨.error range, source, splits.reverse⟩
termination_by d.work
decreasing_by
  · exact work_of_dropped _hs
  · exact work_of_divided _hs

end Division

namespace Maze

/-- An open chamber inside a border of wall. -/
def bordered (height width : Nat) : Maze :=
  .ofLists <| (List.range height).map fun row =>
    (List.range width).map fun col =>
      0 < row && row < height - 1 && 0 < col && col < width - 1

def interior (height width : Nat) : Chamber :=
  ⟨1, 1, height - 2, width - 2⟩

/-- Opens the top border above the first open cell below it and the bottom border below the
last open cell above it. -/
def openBorder (m : Maze) (height width : Nat) : Maze :=
  let inner := List.range' 1 (width - 2)
  let m := match inner.find? (m.isOpen 1) with
    | none => m
    | some col => m.put 0 col true
  match inner.reverse.find? (m.isOpen (height - 2)) with
  | none => m
  | some col => m.put (height - 1) col true

end Maze

end Labyrinth
