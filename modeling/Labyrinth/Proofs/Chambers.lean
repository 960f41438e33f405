import Labyrinth.Generator
import Labyrinth.Proofs.Cuts
import Mathlib.Logic.Relation

/-!
# The chambers that wait

What a division is made of at every moment: a maze whose sides do not change, and
chambers that lie inside its border, share no cell, and are open throughout. Each
step keeps this. Dropping a chamber only forgets one. Dividing a chamber puts its
quarters in its place, and a cut writes nothing outside the chamber it divides, so
the other chambers stay as they were.

A maze that has been generated is the end of a sequence of such steps, with its
border opened. `exists_divided_of_generate` says so, and everything proved about
generated mazes starts from there: an invariant is shown for one step, and this
carries it to the end.
-/

namespace Labyrinth

namespace Chamber

/-- A chamber with at least one cell, all of them inside the border of a maze. -/
structure Inside (c : Chamber) (height width : Nat) : Prop where
  top_pos : 0 < c.top
  left_pos : 0 < c.left
  top_le : c.top ≤ c.bottom
  left_le : c.left ≤ c.right
  bottom_lt : c.bottom + 1 < height
  right_lt : c.right + 1 < width

def Apart (a b : Chamber) : Prop :=
  ∀ row col, a.contains row col = true → b.contains row col = true → False

theorem contains_iff {c : Chamber} {row col : Nat} :
    c.contains row col = true ↔
      c.top ≤ row ∧ row ≤ c.bottom ∧ c.left ≤ col ∧ col ≤ c.right := by
  simp only [contains, Bool.and_eq_true, decide_eq_true_eq, and_assoc]

end Chamber

/-! ## Quarters -/

namespace Split.Fits

/-- Where the cells of a quarter lie in the chamber. -/
theorem contains_of_quarter {s : Split} (hs : s.Fits) {q : Chamber} (hq : q ∈ s.quarters)
    {row col : Nat} (hcell : q.contains row col = true) :
    s.chamber.contains row col = true ∧ col ≠ s.column ∧ row ≠ s.row := by
  have h₁ := hs.left_lt
  have h₂ := hs.column_lt
  have h₃ := hs.top_lt
  have h₄ := hs.row_lt
  rw [Chamber.contains_iff] at hcell ⊢
  simp only [quarters, List.mem_cons, List.not_mem_nil, or_false] at hq
  rcases hq with rfl | rfl | rfl | rfl <;> dsimp only at hcell <;> omega

theorem inside_of_quarter {s : Split} (hs : s.Fits) {height width : Nat}
    (hc : s.chamber.Inside height width) {q : Chamber} (hq : q ∈ s.quarters) :
    q.Inside height width := by
  obtain ⟨h₁, h₂, h₃, h₄, -⟩ := hs
  obtain ⟨h₅, h₆, h₇, h₈, h₉, h₁₀⟩ := hc
  simp only [quarters, List.mem_cons, List.not_mem_nil, or_false] at hq
  rcases hq with rfl | rfl | rfl | rfl <;> constructor <;> dsimp only <;> omega

theorem apart_quarters {s : Split} (hs : s.Fits) : s.quarters.Pairwise Chamber.Apart := by
  obtain ⟨h₁, h₂, h₃, h₄, -⟩ := hs
  have happart : ∀ a b : Chamber, (a.right < b.left ∨ b.right < a.left ∨ a.bottom < b.top ∨
      b.bottom < a.top) → a.Apart b := by
    intro a b h row col ha hb
    rw [Chamber.contains_iff] at ha hb
    omega
  simp only [quarters, List.pairwise_cons, List.mem_cons, List.not_mem_nil, or_false,
    forall_eq_or_imp, forall_eq, IsEmpty.forall_iff, implies_true, List.Pairwise.nil, and_true]
  refine ⟨⟨?_, ?_, ?_⟩, ⟨?_, ?_⟩, ?_⟩ <;> apply happart <;> dsimp only <;> omega

end Split.Fits

/-! ## A cut stays in its chamber -/

theorem Split.contains_of_inSection {s : Split} (hs : s.Fits) {row col k : Nat}
    (h : s.InSection row col k) : s.chamber.contains row col = true := by
  obtain ⟨h₁, h₂, h₃, h₄, -⟩ := hs
  rw [Chamber.contains_iff]
  match k with
  | 0 | 1 | 2 | 3 => simp only [InSection] at h; omega
  | k + 4 => exact False.elim h

theorem Split.contains_of_closes {s : Split} (hs : s.Fits) {m : Maze} {row col : Nat}
    (h : s.Closes m row col) : s.chamber.contains row col = true := by
  obtain ⟨h₁, h₂, h₃, h₄, -⟩ := hs
  rw [Chamber.contains_iff]
  rcases h with ⟨rfl, ht, hb, -⟩ | ⟨rfl, hl, hr, -⟩ <;> omega

namespace Cut

/-- The setting of every cut: a chamber of a maze, open throughout and inside the border. -/
structure Applies (cut : Cut) (m : Maze) (height width : Nat) : Prop where
  sides : m.HasSides height width
  inside : cut.split.chamber.Inside height width
  proper : cut.Proper
  isOpen : ∀ row col, cut.split.chamber.contains row col = true → m.isOpen row col = true

namespace Applies

variable {cut : Cut} {m : Maze} {height width : Nat}

theorem isOpen_apply_iff (h : cut.Applies m height width) {row col : Nat} :
    (cut.apply m).isOpen row col = true ↔
      (m.isOpen row col = true ∧ ¬ cut.split.Closes m row col) ∨
        ((row, col) ∈ cut.holes ∧ row < height ∧ col < width) :=
  isOpen_apply h.sides h.inside.top_pos h.inside.left_pos h.proper.fits row col

theorem contains_of_hole (h : cut.Applies m height width) {row col : Nat}
    (hhole : (row, col) ∈ cut.holes) : cut.split.chamber.contains row col = true := by
  obtain ⟨k, -, hk⟩ := h.proper.inSection_of_mem hhole
  exact Split.contains_of_inSection h.proper.fits hk

theorem isOpen_of_apply (h : cut.Applies m height width) {row col : Nat}
    (ho : (cut.apply m).isOpen row col = true) : m.isOpen row col = true := by
  rcases h.isOpen_apply_iff.1 ho with ⟨ho, -⟩ | ⟨hhole, -⟩
  · exact ho
  · exact h.isOpen row col (h.contains_of_hole hhole)

/-- A cut does not touch the cells outside the chamber it divides. -/
theorem isOpen_outside (h : cut.Applies m height width) {row col : Nat}
    (hout : cut.split.chamber.contains row col = false) :
    (cut.apply m).isOpen row col = m.isOpen row col := by
  rw [Bool.eq_iff_iff]
  refine ⟨h.isOpen_of_apply, fun ho => h.isOpen_apply_iff.2 (.inl ⟨ho, fun hclosed => ?_⟩)⟩
  rw [Split.contains_of_closes h.proper.fits hclosed] at hout
  cases hout

/-- A cut leaves open what lies off its two walls. -/
theorem isOpen_clear (h : cut.Applies m height width) {row col : Nat}
    (hrow : row ≠ cut.split.row) (hcol : col ≠ cut.split.column)
    (ho : m.isOpen row col = true) : (cut.apply m).isOpen row col = true := by
  refine h.isOpen_apply_iff.2 (.inl ⟨ho, ?_⟩)
  rintro (⟨h, -⟩ | ⟨h, -⟩)
  · exact hcol h
  · exact hrow h

/-- A hole is open, whatever the walls did to its cell. -/
theorem isOpen_hole (h : cut.Applies m height width) {row col : Nat}
    (hhole : (row, col) ∈ cut.holes) : (cut.apply m).isOpen row col = true := by
  have hcell := Chamber.contains_iff.1 (h.contains_of_hole hhole)
  have h₁ := h.inside.bottom_lt
  have h₂ := h.inside.right_lt
  exact h.isOpen_apply_iff.2 (.inr ⟨hhole, by omega, by omega⟩)

/-- Where the walls cross, the cell is closed, as no end of either and no section is there. -/
theorem isOpen_crossing (h : cut.Applies m height width) :
    (cut.apply m).isOpen cut.split.row cut.split.column = false := by
  obtain ⟨h₁, h₂, h₃, h₄, -⟩ := h.proper.fits
  rw [← Bool.not_eq_true, h.isOpen_apply_iff]
  rintro (⟨-, hopen⟩ | ⟨hhole, -⟩)
  · exact hopen (.inl ⟨rfl, by omega, by omega, Split.isColumnGap_of_between h₃ h₄⟩)
  · obtain ⟨k, hk, hin⟩ := h.proper.inSection_of_mem hhole
    obtain rfl | rfl | rfl | rfl : k = 0 ∨ k = 1 ∨ k = 2 ∨ k = 3 := by omega
    all_goals
      simp only [Split.InSection] at hin
      omega

end Applies

end Cut

/-! ## One step -/

namespace Division

variable {σ : Type} [Source σ]

theorem pending_of_finished {d : Division σ} (h : d.step = .finished) : d.pending = [] := by
  unfold step at h
  split at h
  · next hp => exact hp
  · split at h
    · cases h
    · split at h
      · cases h
      · split at h <;> cases h

theorem step_eq_dropped {d e : Division σ} (h : d.step = .dropped e) :
    ∃ chamber others, d.pending = chamber :: others ∧ chamber.isDone = true ∧
      e = { d with pending := others } := by
  unfold step at h
  split at h
  · cases h
  · next chamber others hp =>
      split at h
      · next hdone => exact ⟨chamber, others, hp, hdone, (Step.dropped.inj h).symm⟩
      · split at h
        · cases h
        · split at h <;> cases h

theorem step_eq_divided {d e : Division σ} {cut : Cut} (h : d.step = .divided cut e) :
    ∃ chamber others source, d.pending = chamber :: others ∧ chamber.isDone = false ∧
      cut.split.chamber = chamber ∧ cut.Proper ∧
      e = ⟨cut.apply d.maze, cut.split.quarters ++ others, source, cut.split :: d.splits⟩ := by
  unfold step at h
  split at h
  · cases h
  · next chamber others hp =>
      split at h
      · cases h
      · next hdone =>
          have hdone : chamber.isDone = false := by simpa using hdone
          split at h
          · cases h
          · next split source hsplit =>
              split at h
              · cases h
              · next cut' source' hholes =>
                  obtain ⟨rfl, rfl⟩ := Step.divided.inj h
                  have hfits := fits_of_drawSplit hdone hsplit
                  obtain ⟨hsame, hproper⟩ := proper_of_drawHoles hfits hholes
                  have hchamber : cut'.split.chamber = chamber := by
                    rw [hsame, chamber_of_drawSplit hsplit]
                  refine ⟨chamber, others, source', hp, hdone, hchamber, hproper, ?_⟩
                  rw [hsame]

/-- One step of a division leads from `d` to `e`. -/
def Next (d e : Division σ) : Prop :=
  d.step = .dropped e ∨ ∃ cut, d.step = .divided cut e

/-- What holds of a division at every moment. -/
structure Sound (height width : Nat) (d : Division σ) : Prop where
  sides : d.maze.HasSides height width
  inside : ∀ c ∈ d.pending, c.Inside height width
  isOpen : ∀ c ∈ d.pending, ∀ row col, c.contains row col = true →
    d.maze.isOpen row col = true
  apart : d.pending.Pairwise Chamber.Apart

theorem sound_of_dropped {height width : Nat} {d e : Division σ} (hd : d.Sound height width)
    (h : d.step = .dropped e) : e.Sound height width := by
  obtain ⟨chamber, others, hp, -, rfl⟩ := step_eq_dropped h
  have hothers : ∀ c ∈ others, c ∈ d.pending := fun c hc => by
    rw [hp]
    exact List.mem_cons_of_mem _ hc
  have hapart := hd.apart
  rw [hp] at hapart
  exact
    { sides := hd.sides
      inside := fun c hc => hd.inside c (hothers c hc)
      isOpen := fun c hc => hd.isOpen c (hothers c hc)
      apart := hapart.of_cons }

omit [Source σ] in
theorem Sound.applies {height width : Nat} {d : Division σ} (hd : d.Sound height width)
    {cut : Cut} (hcut : cut.Proper) (hmem : cut.split.chamber ∈ d.pending) :
    cut.Applies d.maze height width :=
  ⟨hd.sides, hd.inside _ hmem, hcut, hd.isOpen _ hmem⟩

theorem sound_of_divided {height width : Nat} {d e : Division σ} {cut : Cut}
    (hd : d.Sound height width) (h : d.step = .divided cut e) : e.Sound height width := by
  obtain ⟨chamber, others, source, hp, -, rfl, hcut, rfl⟩ := step_eq_divided h
  have hmem : cut.split.chamber ∈ d.pending := by rw [hp]; exact List.mem_cons_self
  have happlies := hd.applies hcut hmem
  have hothers : ∀ c ∈ others, c ∈ d.pending := fun c hc => by
    rw [hp]
    exact List.mem_cons_of_mem _ hc
  have hapart := hd.apart
  rw [hp, List.pairwise_cons] at hapart
  refine ⟨Cut.hasSides_apply hd.sides, fun c hc => ?_, fun c hc row col hcell => ?_, ?_⟩
  · rcases List.mem_append.1 hc with hq | ho
    · exact hcut.fits.inside_of_quarter happlies.inside hq
    · exact hd.inside c (hothers c ho)
  · -- A quarter lies off the walls, and what the cut writes stays inside the divided chamber.
    rcases List.mem_append.1 hc with hq | ho
    · obtain ⟨hcell, hcol, hrow⟩ := hcut.fits.contains_of_quarter hq hcell
      exact happlies.isOpen_clear hrow hcol (hd.isOpen _ hmem row col hcell)
    · have hout : cut.split.chamber.contains row col = false := by
        rw [← Bool.not_eq_true]
        exact fun hsplit => hapart.1 c ho row col hsplit hcell
      show (cut.apply d.maze).isOpen row col = true
      rw [happlies.isOpen_outside hout]
      exact hd.isOpen c (hothers c ho) row col hcell
  · refine List.pairwise_append.2 ⟨hcut.fits.apart_quarters, hapart.2, ?_⟩
    intro q hq c hc row col hrow hcol
    exact hapart.1 c hc row col (hcut.fits.contains_of_quarter hq hrow).1 hcol

theorem sound_of_next {height width : Nat} {d e : Division σ} (hd : d.Sound height width)
    (h : d.Next e) : e.Sound height width := by
  rcases h with h | ⟨cut, h⟩
  · exact sound_of_dropped hd h
  · exact sound_of_divided hd h

theorem sound_of_steps {height width : Nat} {d e : Division σ} (hd : d.Sound height width)
    (h : Relation.ReflTransGen Next d e) : e.Sound height width := by
  induction h with
  | refl => exact hd
  | tail _ hstep ih => exact sound_of_next ih hstep

/-- What every step from a sound division keeps is kept by a sequence of steps. -/
theorem invariant_of_steps {P : Division σ → Prop} {height width : Nat} {d e : Division σ}
    (hstep : ∀ d e : Division σ, d.Sound height width → P d → d.Next e → P e)
    (hd : d.Sound height width) (hP : P d) (h : Relation.ReflTransGen Next d e) : P e := by
  induction h with
  | refl => exact hP
  | tail hsteps hnext ih => exact hstep _ _ (sound_of_steps hd hsteps) ih hnext

/-- What every cut of a maze keeps is kept by a sequence of steps, the maze being changed by cuts
alone. -/
theorem maze_of_steps {P : Maze → Prop} {height width : Nat} {d e : Division σ}
    (hcut : ∀ (cut : Cut) (m : Maze), cut.Applies m height width → P m → P (cut.apply m))
    (hd : d.Sound height width) (hP : P d.maze) (h : Relation.ReflTransGen Next d e) :
    P e.maze := by
  refine invariant_of_steps (P := fun d => P d.maze) (fun d e hsound hP hnext => ?_) hd hP h
  rcases hnext with hdropped | ⟨cut, hdivided⟩
  · obtain ⟨chamber, others, -, -, rfl⟩ := step_eq_dropped hdropped
    exact hP
  · obtain ⟨chamber, others, source, hp, -, rfl, hproper, rfl⟩ := step_eq_divided hdivided
    have hmem : cut.split.chamber ∈ d.pending := by rw [hp]; exact List.mem_cons_self
    exact hcut cut d.maze (hsound.applies hproper hmem) hP

/-! ## Whole runs -/

theorem run_eq (d : Division σ) :
    d.run = match d.step with
      | .finished => ⟨.ok d.maze, d.source, d.splits.reverse⟩
      | .dropped after => after.run
      | .divided _ after => after.run
      | .dry range source splits => ⟨.error range, source, splits.reverse⟩ := by
  rw [run]
  split
  all_goals
    next heq => rw [heq]

theorem run_of_next {d e : Division σ} (h : d.Next e) : d.run = e.run := by
  rcases h with h | ⟨cut, h⟩
  · rw [run_eq, h]
  · rw [run_eq, h]

/-- A run goes on from every moment of it as it did from its beginning. -/
theorem run_of_steps {d e : Division σ} (h : Relation.ReflTransGen Next d e) : d.run = e.run := by
  induction h with
  | refl => rfl
  | tail _ hnext ih => exact ih.trans (run_of_next hnext)

/-- When so many chambers more have been taken from the list, a division has become another. -/
inductive After : Division σ → Nat → Division σ → Prop
  | none (d : Division σ) : d.After 0 d
  | more {d e f : Division σ} {taken : Nat} :
      d.Next e → e.After taken f → d.After (taken + 1) f

theorem After.steps {d e : Division σ} {taken : Nat} (h : d.After taken e) :
    Relation.ReflTransGen Next d e := by
  induction h with
  | none d => exact .refl
  | more hnext _ ih => exact .head hnext ih

/-- A run takes chambers from the list until there is none or its source is dry. -/
theorem exists_after_of_run (d : Division σ) :
    ∃ taken e, d.After taken e ∧
      (e.pending = [] ∧ d.run.maze = .ok e.maze ∨
        ∃ range splits, e.step = .dry range d.run.source splits ∧ d.run.maze = .error range) := by
  fun_induction run d with
  | case1 d hfinished => exact ⟨0, d, .none d, .inl ⟨pending_of_finished hfinished, rfl⟩⟩
  | case2 d after hdropped ih =>
      obtain ⟨taken, e, hafter, hend⟩ := ih
      exact ⟨taken + 1, e, .more (.inl hdropped) hafter, hend⟩
  | case3 d cut after hdivided ih =>
      obtain ⟨taken, e, hafter, hend⟩ := ih
      exact ⟨taken + 1, e, .more (.inr ⟨cut, hdivided⟩) hafter, hend⟩
  | case4 d range source splits hdry =>
      exact ⟨0, d, .none d, .inr ⟨range, splits, hdry, rfl⟩⟩

/-- A division that ends with a maze went there step by step. -/
theorem exists_steps_of_run {d : Division σ} {m : Maze} (h : d.run.maze = .ok m) :
    ∃ e : Division σ, Relation.ReflTransGen Next d e ∧ e.pending = [] ∧ e.maze = m := by
  obtain ⟨taken, e, hafter, ⟨hp, hrun⟩ | ⟨range, splits, -, hrun⟩⟩ := exists_after_of_run d
  · rw [h] at hrun
    exact ⟨e, hafter.steps, hp, (Except.ok.inj hrun).symm⟩
  · rw [h] at hrun
    cases hrun

/-- A division that has not begun: the whole interior waits. -/
def fresh (height width : Nat) (source : σ) : Division σ :=
  ⟨Maze.bordered height width, [Maze.interior height width], source, []⟩

end Division

namespace Maze

theorem toLists_bordered (height width : Nat) :
    (bordered height width).toLists = (List.range height).map fun row =>
      (List.range width).map fun col =>
        0 < row && row < height - 1 && 0 < col && col < width - 1 := by
  rw [bordered, Table.toLists_ofLists]

theorem hasSides_bordered {height width : Nat} (hh : 0 < height) :
    (bordered height width).HasSides height width := by
  refine Table.hasSides_of_toLists hh ?_ fun row hrow => ?_
  · rw [toLists_bordered, List.length_map, List.length_range]
  · rw [toLists_bordered] at hrow
    obtain ⟨i, -, rfl⟩ := List.mem_map.1 hrow
    rw [List.length_map, List.length_range]

/-- Before the first cut, all cells inside the border are open. -/
theorem isOpen_bordered {height width row col : Nat} :
    (bordered height width).isOpen row col = true ↔
      0 < row ∧ row < height - 1 ∧ 0 < col ∧ col < width - 1 := by
  rw [isOpen, Table.cell?_eq_bind, toLists_bordered, List.getElem?_map]
  by_cases hrow : row < height
  · rw [List.getElem?_range hrow, Option.map_some, Option.bind_some, List.getElem?_map]
    by_cases hcol : col < width
    · rw [List.getElem?_range hcol, Option.map_some, beq_iff_eq, Option.some.injEq]
      simp only [Bool.and_eq_true, decide_eq_true_eq, and_assoc]
    · rw [List.getElem?_eq_none (by rw [List.length_range]; omega)]
      simp only [Option.map_none, beq_iff_eq, reduceCtorEq, false_iff]
      omega
  · rw [List.getElem?_eq_none (by rw [List.length_range]; omega)]
    simp only [Option.map_none, Option.bind_none, beq_iff_eq, reduceCtorEq, false_iff]
    omega

theorem inside_interior {height width : Nat} (hh : 3 ≤ height) (hw : 3 ≤ width) :
    (interior height width).Inside height width := by
  constructor <;> dsimp only [interior] <;> omega

end Maze

namespace Division

theorem sound_fresh {σ : Type} {height width : Nat} (hh : 3 ≤ height) (hw : 3 ≤ width)
    (source : σ) :
    (fresh height width source).Sound height width := by
  refine ⟨Maze.hasSides_bordered (by omega), fun c hc => ?_, fun c hc row col hcell => ?_, ?_⟩
  · rw [List.mem_singleton.1 hc]
    exact Maze.inside_interior hh hw
  · rw [List.mem_singleton.1 hc, Chamber.contains_iff] at hcell
    dsimp only [Maze.interior] at hcell
    exact Maze.isOpen_bordered.2 (by omega)
  · exact List.pairwise_singleton ..

end Division

/-- From every moment of its division, a generated maze is what is left when all chambers are done,
with the border opened. -/
theorem Generator.exists_divided_of_steps {σ : Type} [Source σ] {width height : Int} {source : σ}
    {m : Maze} (h : (generate width height source).maze = .ok (some m)) {d : Division σ}
    (hd : Relation.ReflTransGen Division.Next
      (Division.fresh height.toNat width.toNat source) d) :
    3 ≤ height ∧ 3 ≤ width ∧ ∃ e : Division σ, Relation.ReflTransGen Division.Next d e ∧
      e.pending = [] ∧ m = e.maze.openBorder height.toNat width.toNat := by
  unfold generate at h
  split at h
  · cases h
  · next hsides =>
      refine ⟨by omega, by omega, ?_⟩
      unfold divide at h
      dsimp only at h
      split at h
      · cases h
      · next divided hrun =>
          have hrun : d.run.maze = .ok divided := by
            rw [← Division.run_of_steps hd]
            exact hrun
          obtain ⟨e, hsteps, hp, rfl⟩ := Division.exists_steps_of_run hrun
          exact ⟨e, hsteps, hp, (Option.some.inj (Except.ok.inj h)).symm⟩

/-- A generated maze is a divided one, all chambers done, with its border opened. -/
theorem Generator.exists_divided_of_generate {σ : Type} [Source σ] {width height : Int}
    {source : σ} {m : Maze} (h : (generate width height source).maze = .ok (some m)) :
    3 ≤ height ∧ 3 ≤ width ∧ ∃ e : Division σ,
      Relation.ReflTransGen Division.Next
        (Division.fresh height.toNat width.toNat source) e ∧
      e.pending = [] ∧ m = e.maze.openBorder height.toNat width.toNat :=
  exists_divided_of_steps h .refl

end Labyrinth
