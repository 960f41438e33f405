import Labyrinth.Chance.Script
import Labyrinth.Proofs.Areas

/-!
# How a generation ends

A source that is not endless has a last answer, and a generation that comes to no maze has
asked for one more. Whether a generation *would* end is a question about endless sequences
of answers. Every beginning of such a sequence is a source, so the question is whether
there is a beginning with which a maze is made.

There is, but for one thing. All loops are bounded by the cells that wait, except the one
that draws a pair of positions until it is acceptable: an endless sequence can answer with
pairs that are not. `ends_or_retries` says that nothing else can go wrong. Its induction is
on the cells that wait, and what it needs of a step is that a step takes so many answers
and leaves whatever comes after them.
-/

namespace Labyrinth

/-! ## Beginnings of an endless sequence -/

namespace Script

/-- So many answers of an endless sequence, from the given one on. -/
def stretch (answers : Nat → Int) (start count : Nat) : Script :=
  ⟨(List.range' start count).map answers⟩

/-- The number below a range that an answer stands for. -/
def reduced (answer : Int) (range : Nat) : Nat :=
  (answer % (range : Int)).toNat

end Script

open Script

/-- From the given answer on, a drawing takes so many answers and comes to the value. What comes
after these answers it leaves as it is. -/
def Takes {α : Type} (answers : Nat → Int) (draw : Script → Drawn Script α) (start used : Nat)
    (value : α) : Prop :=
  ∀ count, draw (stretch answers start (used + count)) =
    .drew value (stretch answers (start + used) count)

section Takes

variable {α β : Type} {answers : Nat → Int} {start used : Nat}

theorem takes_drew (answers : Nat → Int) (start : Nat) (value : α) :
    Takes answers (Drawn.drew value) start 0 value := by
  intro count
  rw [Nat.zero_add]
  rfl

theorem takes_drawBelow (answers : Nat → Int) (start range : Nat) :
    Takes answers (drawBelow range) start 1 (reduced (answers start) range) := by
  intro count
  rw [Nat.add_comm]
  rfl

theorem Takes.andThen {draw : Script → Drawn Script α} {next : α → Script → Drawn Script β}
    {used' : Nat} {first : α} {second : β} (h : Takes answers draw start used first)
    (hnext : Takes answers (next first) (start + used) used' second) :
    Takes answers (fun s => (draw s).andThen next) start (used + used') second := by
  intro count
  dsimp only
  rw [Nat.add_assoc, h (used' + count), Drawn.andThen, hnext count, Nat.add_assoc]

theorem Takes.map {draw : Script → Drawn Script α} {value : α}
    (h : Takes answers draw start used value) (f : α → β) :
    Takes answers (fun s => (draw s).map f) start used (f value) := by
  show Takes answers (fun s => (draw s).andThen fun value s => .drew (f value) s) start (used + 0)
    (f value)
  exact h.andThen (takes_drew answers (start + used) (f value))

theorem exists_takes_pierce (sections : List Section) (answers : Nat → Int) (start : Nat) :
    ∃ used holes, Takes answers (pierce sections) start used holes := by
  induction sections generalizing start with
  | nil => exact ⟨0, [], takes_drew answers start []⟩
  | cons wall rest ih =>
      obtain ⟨used, holes, hrest⟩ := ih (start + 1)
      exact ⟨1 + used, _, (takes_drawBelow answers start wall.length).andThen (hrest.map _)⟩

theorem exists_takes_drawHoles (split : Split) (answers : Nat → Int) (start : Nat) :
    ∃ used cut, Takes answers (drawHoles split) start used cut := by
  have hclosed := takes_drawBelow answers start 4
  obtain ⟨used, holes, hrest⟩ :=
    exists_takes_pierce (split.sections.eraseIdx (reduced (answers start) 4)) answers (start + 1)
  exact ⟨1 + used, _, hclosed.andThen (hrest.map _)⟩

/-- The split that two answers come to, whether it is acceptable or not. -/
def Chamber.tried (c : Chamber) (answers : Nat → Int) (start : Nat) : Split :=
  c.splitAt (reduced (answers start) (c.right - c.left - 1))
    (reduced (answers (start + 1)) (c.bottom - c.top - 1))

theorem takes_drawSplit {c : Chamber} {split : Split}
    (h : Takes answers
      (fun s => if (c.tried answers start).isAcceptable then .drew (c.tried answers start) s
        else drawSplit c s) (start + 2) used split) :
    Takes answers (drawSplit c) start (2 + used) split := by
  rw [funext (drawSplit_eq (σ := Script) c), Nat.add_assoc 1 1 used]
  exact (takes_drawBelow answers start _).andThen
    ((takes_drawBelow answers (start + 1) _).andThen h)

/-- If an acceptable pair is among those that would be tried, a split is drawn. -/
theorem exists_takes_drawSplit {c : Chamber} {round : Nat}
    (h : (c.tried answers (start + 2 * round)).isAcceptable = true) :
    ∃ used split, Takes answers (drawSplit c) start used split := by
  induction round generalizing start with
  | zero =>
      refine ⟨2 + 0, c.tried answers start, takes_drawSplit ?_⟩
      simp only [show (c.tried answers start).isAcceptable = true from h, if_true]
      exact takes_drew answers (start + 2) _
  | succ round ih =>
      by_cases hfirst : (c.tried answers start).isAcceptable = true
      · refine ⟨2 + 0, c.tried answers start, takes_drawSplit ?_⟩
        simp only [hfirst, if_true]
        exact takes_drew answers (start + 2) _
      · have hlater : (c.tried answers (start + 2 + 2 * round)).isAcceptable = true := by
          rwa [show start + 2 + 2 * round = start + 2 * (round + 1) by omega]
        obtain ⟨used, split, htakes⟩ := ih hlater
        refine ⟨2 + used, split, takes_drawSplit ?_⟩
        simp only [hfirst]
        exact htakes

end Takes

namespace Division

/-- The same moment with another source. -/
def fed (d : Division Script) (source : Script) : Division Script :=
  { d with source := source }

/-- The first chamber that waits is not done, and no pair that is tried for it from the given
answer on is acceptable. -/
def Retries (d : Division Script) (answers : Nat → Int) (start : Nat) : Prop :=
  ∃ chamber others, d.pending = chamber :: others ∧ chamber.isDone = false ∧
    ∀ round, (chamber.tried answers (start + 2 * round)).isAcceptable = false

theorem exists_next_fed {d : Division Script} {chamber : Chamber} {others : List Chamber}
    (hp : d.pending = chamber :: others) {answers : Nat → Int} {start : Nat}
    (hretries : ¬ d.Retries answers start) :
    ∃ used e, ∀ count, (d.fed (stretch answers start (used + count))).Next
      (fed e (stretch answers (start + used) count)) := by
  by_cases hdone : chamber.isDone = true
  · refine ⟨0, ⟨d.maze, others, d.source, d.splits⟩, fun count => .inl ?_⟩
    rw [Nat.zero_add, step, fed]
    simp only [hp, hdone, if_true]
    rfl
  · obtain ⟨round, hround⟩ : ∃ round,
        (chamber.tried answers (start + 2 * round)).isAcceptable = true := by
      by_contra hnone
      refine hretries ⟨chamber, others, hp, Bool.eq_false_iff.2 hdone, fun round => ?_⟩
      exact Bool.eq_false_iff.2 fun hround => hnone ⟨round, hround⟩
    obtain ⟨used, split, hsplit⟩ := exists_takes_drawSplit hround
    obtain ⟨used', cut, hholes⟩ := exists_takes_drawHoles split answers (start + used)
    refine ⟨used + used',
      ⟨cut.apply d.maze, split.quarters ++ others, d.source, split :: d.splits⟩,
      fun count => .inr ⟨cut, ?_⟩⟩
    have hsplit := hsplit (used' + count)
    have hholes := hholes count
    rw [← Nat.add_assoc] at hsplit
    rw [Nat.add_assoc start] at hholes
    rw [step, fed]
    simp only [hp, hdone, hsplit, hholes]
    rfl

theorem Sound.fed {height width : Nat} {d : Division Script} (hd : d.Sound height width)
    (source : Script) : (d.fed source).Sound height width :=
  ⟨hd.sides, hd.inside, hd.isOpen, hd.apart⟩

/-- With an endless sequence of answers, a division comes to a maze after so many of them, or to a
chamber for which no acceptable pair is ever drawn. -/
theorem ends_or_retries {height width : Nat} (answers : Nat → Int) {d : Division Script}
    (hd : d.Sound height width) (start : Nat) :
    (∃ count m, (d.fed (stretch answers start count)).run.maze = .ok m) ∨
      ∃ used taken e, (d.fed (stretch answers start used)).After taken
        (fed e (stretch answers (start + used) 0)) ∧ e.Retries answers (start + used) := by
  induction hn : d.area using Nat.strongRecOn generalizing d start with
  | ind n ih =>
      by_cases hretries : d.Retries answers start
      · exact .inr ⟨0, 0, d, .none _, hretries⟩
      · cases hp : d.pending with
        | nil =>
            refine .inl ⟨0, d.maze, ?_⟩
            rw [run_eq, step, fed, hp]
        | cons chamber others =>
            obtain ⟨used, e, hnext⟩ := exists_next_fed hp hretries
            have hless := area_of_next (hd.fed _) (hnext 0)
            have he := sound_of_next (hd.fed _) (hnext 0)
            rcases ih e.area (hn ▸ hless) (d := e) ⟨he.sides, he.inside, he.isOpen, he.apart⟩
                (start + used) rfl with ⟨count, m, hrun⟩ | ⟨used', taken, f, hafter, hf⟩
            · refine .inl ⟨used + count, m, ?_⟩
              rw [run_of_next (hnext count)]
              exact hrun
            · rw [Nat.add_assoc] at hafter hf
              exact .inr ⟨used + used', taken + 1, f, .more (hnext used') hafter, hf⟩

/-! ## Every moment of a generation -/

/-- What holds of a division at the moment when so many chambers have been taken from its list. -/
structure Orderly {σ : Type} [Source σ] (d : Division σ) (height width taken : Nat) : Prop where
  sound : d.Sound height width
  /-- No access of the next step leaves the maze, and no write the chamber that is divided. -/
  accesses : d.step? = some d.step
  /-- Whatever has been written to the first chamber, the others are still open. -/
  waiting : ∀ chamber others m, d.pending = chamber :: others →
    Relation.ReflTransGen chamber.Writes d.maze m →
    ∀ c ∈ others, ∀ row col, c.contains row col = true → m.isOpen row col = true
  opening : d.maze.openBorder? height width = some (d.maze.openBorder height width)
  acceptable : ∀ c ∈ d.pending, c.isDone = false →
    ∃ col < c.right - c.left - 1, ∃ row < c.bottom - c.top - 1,
      (c.splitAt col row).isAcceptable = true
  shrinks : ∀ e, d.Next e → e.area < d.area
  length_le : d.pending.length ≤ d.area
  taken_le : taken + d.area ≤ (width - 2) * (height - 2)

theorem orderly_of_after {σ : Type} [Source σ] {height width taken : Nat} (hh : 3 ≤ height)
    (hw : 3 ≤ width) {source : σ} {d : Division σ}
    (h : (fresh height width source).After taken d) : d.Orderly height width taken := by
  have hfresh := sound_fresh hh hw source
  have hd := sound_of_steps hfresh h.steps
  have htaken := h.area_le hfresh
  rw [area_fresh] at htaken
  exact
    { sound := hd
      accesses := step?_eq hd
      waiting := fun _ _ _ hp hm _ hc _ _ hcell => hd.isOpen_of_writes hp hm hc hcell
      opening := Maze.openBorder?_eq hd.sides hh
      acceptable := fun _ _ hdone => Chamber.exists_acceptable hdone
      shrinks := fun _ hnext => area_of_next hd hnext
      length_le := hd.length_le_area
      taken_le := htaken }

end Division

namespace Generator

variable {σ : Type} [Source σ] {width height : Int}

/-- A generation ends when no chamber is left, with a maze, or with a draw that is not answered. -/
theorem exists_end_of_generate (hw : 3 ≤ width) (hh : 3 ≤ height) (source : σ) :
    ∃ taken d, (Division.fresh height.toNat width.toNat source).After taken d ∧
      (d.pending = [] ∧ (generate width height source).maze =
          .ok (some (d.maze.openBorder height.toNat width.toNat)) ∨
        ∃ range splits, d.step = .dry range (generate width height source).source splits ∧
          (generate width height source).maze = .error range ∧ 0 < range ∧
          Source.draw range (generate width height source).source = none) := by
  have hgenerate := generate_eq_completed hw hh source
  obtain ⟨taken, d, hafter, ⟨hp, hrun⟩ | ⟨range, splits, hstep, hrun⟩⟩ :=
    Division.exists_after_of_run (Division.fresh height.toNat width.toNat source)
  · refine ⟨taken, d, hafter, .inl ⟨hp, ?_⟩⟩
    rw [hgenerate, completed, hrun]
  · have hsource : (generate width height source).source =
        (Division.fresh height.toNat width.toNat source).run.source := by
      rw [hgenerate, completed, hrun]
    have hmaze : (generate width height source).maze = .error range := by
      rw [hgenerate, completed, hrun]
    have hdry := (asked_generate (P := fun _ => True) (fun _ _ _ => trivial) width height
      (s := source) trivial).2 range hmaze
    rw [← hsource] at hstep
    exact ⟨taken, d, hafter, .inr ⟨range, splits, hstep, hmaze, hdry⟩⟩

/-- An endless sequence of answers makes a maze, or one chamber is tried forever. -/
theorem maze_or_retries (hw : 3 ≤ width) (hh : 3 ≤ height) (answers : Nat → Int) :
    (∃ count m, (generate width height (stretch answers 0 count)).maze = .ok (some m)) ∨
      ∃ used taken d,
        (Division.fresh height.toNat width.toNat (stretch answers 0 used)).After taken d ∧
        d.source.answers = [] ∧ d.Retries answers used := by
  have hfresh : (Division.fresh height.toNat width.toNat (stretch answers 0 0)).Sound
      height.toNat width.toNat :=
    Division.sound_fresh (by omega) (by omega) _
  rcases Division.ends_or_retries answers hfresh 0 with
    ⟨count, m, hrun⟩ | ⟨used, taken, d, hafter, hretries⟩
  · refine .inl ⟨count, m.openBorder height.toNat width.toNat, ?_⟩
    have hrun : (Division.fresh height.toNat width.toNat (stretch answers 0 count)).run.maze =
        .ok m := hrun
    rw [generate_eq_completed hw hh, completed, hrun]
  · rw [Nat.zero_add] at hafter hretries
    exact .inr ⟨used, taken, _, hafter, rfl, hretries⟩

/-- At every moment of a generation its chambers are in order: they lie inside the border, share no
cell and are open; the cells are accessed where they are; and every chamber that is taken costs a
cell of the interior, which bounds their number. No range that is asked for is empty. A generation
therefore ends with a maze or with a draw that its source does not answer. An endless sequence of
answers makes a maze, unless it never gives an acceptable pair to a chamber that has one. -/
theorem generate_ends_or_retries (hw : 3 ≤ width) (hh : 3 ≤ height) (source : σ) :
    (∀ taken d, (Division.fresh height.toNat width.toNat source).After taken d →
      d.Orderly height.toNat width.toNat taken) ∧
    (generate width height (Recorded.fresh source)).unrecorded = generate width height source ∧
    (∀ draw ∈ (generate width height (Recorded.fresh source)).source.history, 0 < draw.1) ∧
    (∃ taken d, (Division.fresh height.toNat width.toNat source).After taken d ∧
      (d.pending = [] ∧ (generate width height source).maze =
          .ok (some (d.maze.openBorder height.toNat width.toNat)) ∨
        ∃ range splits, d.step = .dry range (generate width height source).source splits ∧
          (generate width height source).maze = .error range ∧ 0 < range ∧
          Source.draw range (generate width height source).source = none)) ∧
    ∀ answers : Nat → Int,
      (∃ count m, (generate width height (stretch answers 0 count)).maze = .ok (some m)) ∨
      ∃ used taken d,
        (Division.fresh height.toNat width.toNat (stretch answers 0 used)).After taken d ∧
        d.source.answers = [] ∧ d.Retries answers used := by
  have hranges := (asked_generate Recorded.keeps_sensible width height
    (Recorded.sensible_fresh source)).1
  exact ⟨fun taken d h => Division.orderly_of_after (by omega) (by omega) h,
    generate_unrecorded .., hranges, exists_end_of_generate hw hh source,
    maze_or_retries hw hh⟩

/-- In a maze of six columns and six rows, an endless sequence of ones is tried forever. -/
theorem generate_ends_or_retries_six_by_six :
    (generate 6 6 (Recorded.fresh (⟨[1, 1, 1]⟩ : Script))).source.history =
        [(2, 1), (2, 1), (2, 1)] ∧
      (generate 6 6 (⟨[1, 1, 1]⟩ : Script)).maze = .error 2 ∧
      (Division.fresh 6 6 (⟨[]⟩ : Script)).Retries (fun _ => 1) 0 ∧
      (Division.fresh 6 6 (⟨[1, 1, 1]⟩ : Script)).Orderly 6 6 0 ∧
      ∀ draw ∈ (generate 6 6 (Recorded.fresh (⟨[1, 1, 1]⟩ : Script))).source.history,
        0 < draw.1 := by
  obtain ⟨horderly, -, hranges, -, -⟩ :=
    generate_ends_or_retries (by decide : (3 : Int) ≤ 6) (by decide : (3 : Int) ≤ 6)
      (⟨[1, 1, 1]⟩ : Script)
  refine ⟨by decide +kernel, by decide +kernel, ?_, horderly 0 _ (.none _), hranges⟩
  exact ⟨Maze.interior 6 6, [], rfl, rfl, fun _ => rfl⟩

end Generator

end Labyrinth
