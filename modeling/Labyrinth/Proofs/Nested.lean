import Labyrinth.Proofs.Draws

/-!
# Chamber within chamber

A division keeps a list of chambers and always deals with the first. The same mazes come
of a recursion that keeps no list: a chamber is divided, and then its quarters are
carved, each with all that is inside it before the next is begun. The two draw the same
numbers in the same order, because a chamber that is divided leaves its quarters in
front of whatever else waits.

That is what `resume_cons` says, and it is an induction on the size of the chamber: to
carve the first chamber that waits and go on with the others is to go on with all of
them. A halt for want of an answer is carried through unchanged, so a recursion that
runs dry does so at the very draw at which the division does.
-/

namespace Labyrinth

/-! ## Quarters by name -/

namespace Split

def topLeft (s : Split) : Chamber :=
  ⟨s.chamber.top, s.chamber.left, s.row - 1, s.column - 1⟩

def topRight (s : Split) : Chamber :=
  ⟨s.chamber.top, s.column + 1, s.row - 1, s.chamber.right⟩

def bottomLeft (s : Split) : Chamber :=
  ⟨s.row + 1, s.chamber.left, s.chamber.bottom, s.column - 1⟩

def bottomRight (s : Split) : Chamber :=
  ⟨s.row + 1, s.column + 1, s.chamber.bottom, s.chamber.right⟩

theorem quarters_eq (s : Split) :
    s.quarters = [s.topLeft, s.topRight, s.bottomLeft, s.bottomRight] :=
  rfl

end Split

/-- How far apart the sides of a chamber are, both ways together. -/
def Chamber.span (c : Chamber) : Nat :=
  (c.bottom - c.top) + (c.right - c.left)

theorem Split.Fits.span_of_quarter {s : Split} (hs : s.Fits) {q : Chamber}
    (hq : q ∈ s.quarters) : q.span < s.chamber.span := by
  obtain ⟨h₁, h₂, h₃, h₄, -⟩ := hs
  unfold Chamber.span
  simp only [quarters, List.mem_cons, List.not_mem_nil, or_false] at hq
  rcases hq with rfl | rfl | rfl | rfl <;> dsimp only <;> omega

namespace Division

variable {σ : Type} [Source σ]

theorem span_of_drawSplit {c : Chamber} (hc : c.isDone = false) {s s' : σ} {split : Split}
    (h : drawSplit c s = .drew split s') {q : Chamber} (hq : q ∈ split.quarters) :
    q.span < c.span := by
  have hless := (fits_of_drawSplit hc h).span_of_quarter hq
  rw [chamber_of_drawSplit h] at hless
  exact hless

/-! ## Carving -/

/-- How far a division has come, whatever chambers still wait. -/
structure Progress (σ : Type) where
  maze : Maze
  source : σ
  /-- The splits made so far, the latest first. -/
  splits : List Split

/-- Where a division came to a halt because a draw below `range` found no answer. -/
structure Halt (σ : Type) where
  range : Nat
  source : σ
  splits : List Split

/-- Divides a chamber and then carves its quarters, one after the other. -/
def carve (c : Chamber) (p : Progress σ) : Except (Halt σ) (Progress σ) :=
  if _hc : c.isDone then .ok p
  else
    match _hsplit : drawSplit c p.source with
    | .dry range source => .error ⟨range, source, p.splits⟩
    | .drew split source =>
      match drawHoles split source with
      | .dry range source => .error ⟨range, source, split :: p.splits⟩
      | .drew cut source => do
        let p ← carve split.topLeft ⟨cut.apply p.maze, source, split :: p.splits⟩
        let p ← carve split.topRight p
        let p ← carve split.bottomLeft p
        carve split.bottomRight p
termination_by c.span
decreasing_by
  all_goals
    refine span_of_drawSplit (Bool.eq_false_iff.2 _hc) _hsplit ?_
    simp [Split.quarters_eq]

theorem carve_eq (c : Chamber) (p : Progress σ) :
    carve c p =
      if c.isDone then .ok p
      else
        match drawSplit c p.source with
        | .dry range source => .error ⟨range, source, p.splits⟩
        | .drew split source =>
          match drawHoles split source with
          | .dry range source => .error ⟨range, source, split :: p.splits⟩
          | .drew cut source =>
            split.quarters.foldlM (fun p q => carve q p)
              ⟨cut.apply p.maze, source, split :: p.splits⟩ := by
  rw [carve]
  split
  · rfl
  · split
    · next hsplit => rw [hsplit]
    · next hsplit =>
        rw [hsplit]
        dsimp only
        split
        · rfl
        · rw [Split.quarters_eq]
          simp only [List.foldlM_cons, List.foldlM_nil, bind_pure]

/-- What the carving of a chamber comes to, if the chambers `others` are still to be divided. -/
def resume (others : List Chamber) : Except (Halt σ) (Progress σ) → Result σ
  | .ok p => run ⟨p.maze, others, p.source, p.splits⟩
  | .error halt => ⟨.error halt.range, halt.source, halt.splits.reverse⟩

/-- To go on with a chamber and others is to carve the chamber and to go on with the others. -/
theorem resume_cons (c : Chamber) (others : List Chamber) (p : Progress σ) :
    resume (c :: others) (.ok p) = resume others (carve c p) := by
  induction hn : c.span using Nat.strongRecOn generalizing c others p with
  | ind n ih =>
      -- The same for several chambers, if all of them are smaller than this one.
      have hseveral : ∀ (qs : List Chamber), (∀ q ∈ qs, q.span < c.span) → ∀ p : Progress σ,
          resume (qs ++ others) (.ok p) = resume others (qs.foldlM (fun p q => carve q p) p) := by
        intro qs
        induction qs with
        | nil => exact fun _ p => rfl
        | cons q qs ihqs =>
            intro hqs p
            have hfirst := ih _ (hn ▸ hqs q List.mem_cons_self) q (qs ++ others) p rfl
            rw [List.cons_append, hfirst, List.foldlM_cons]
            cases carve q p with
            | error halt => rfl
            | ok p => exact ihqs (fun q hq => hqs q (List.mem_cons_of_mem _ hq)) p
      rw [resume, run_eq, carve_eq, step]
      dsimp only
      by_cases hc : c.isDone = true
      · rw [if_pos hc, if_pos hc]
        rfl
      · rw [if_neg hc, if_neg hc]
        cases hsplit : drawSplit c p.source with
        | dry range source => rfl
        | drew split source =>
            dsimp only
            cases drawHoles split source with
            | dry range source => rfl
            | drew cut source =>
                have hless : ∀ q ∈ split.quarters, q.span < c.span :=
                  fun q hq => span_of_drawSplit (Bool.eq_false_iff.2 hc) hsplit hq
                exact hseveral split.quarters hless ⟨cut.apply p.maze, source, split :: p.splits⟩

/-- The result of carving the whole interior, chamber within chamber. -/
def nested (height width : Nat) (source : σ) : Result σ :=
  match carve (Maze.interior height width) ⟨Maze.bordered height width, source, []⟩ with
  | .ok p => ⟨.ok p.maze, p.source, p.splits.reverse⟩
  | .error halt => ⟨.error halt.range, halt.source, halt.splits.reverse⟩

theorem run_fresh (height width : Nat) (source : σ) :
    (fresh height width source).run = nested height width source := by
  have hcarve := resume_cons (Maze.interior height width) []
    ⟨Maze.bordered height width, source, []⟩
  rw [resume] at hcarve
  rw [fresh, hcarve, nested]
  cases carve (Maze.interior height width) ⟨Maze.bordered height width, source, []⟩ with
  | error halt => rfl
  | ok p =>
      rw [resume, run_eq]
      rfl

end Division

namespace Generator

variable {σ : Type} [Source σ]

/-- Makes a maze chamber within chamber. -/
def generateNested (width height : Int) (source : σ) : Result σ :=
  if width < 3 ∨ height < 3 then ⟨.ok none, source, [.refused height width]⟩
  else completed height.toNat width.toNat (Division.nested height.toNat width.toNat source)

/-- A maze that is made chamber within chamber is the same maze, told by the same events, and if
the source runs dry it does so at the same draw. The source that is left is the same as well: for
a source that records its draws, these are the ranges asked for and the answers, in their order,
and they are those of the source that does not record them. -/
theorem generate_eq_generateNested (width height : Int) (source : σ) :
    generate width height source = generateNested width height source ∧
      (generate width height (Recorded.fresh source)).source.history =
        (generateNested width height (Recorded.fresh source)).source.history ∧
      (generate width height (Recorded.fresh source)).unrecorded =
        generate width height source := by
  have hnested : ∀ {τ : Type} [Source τ] (s : τ),
      generate width height s = generateNested width height s := by
    intro τ _ s
    by_cases hsides : width < 3 ∨ height < 3
    · rw [generate, generateNested, if_pos hsides, if_pos hsides]
    · rw [generate_eq_completed (by omega) (by omega), Division.run_fresh, generateNested,
        if_neg hsides]
  refine ⟨hnested source, ?_, generate_unrecorded ..⟩
  rw [hnested]

end Generator

end Labyrinth
