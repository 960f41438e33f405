import Labyrinth.Chance.Recorded
import Labyrinth.Proofs.Chambers

/-!
# What a maze asks of its source

A source is asked for numbers below a range and never looked at otherwise. Two things
follow. Recording the draws changes nothing: with the record forgotten, a run is the one
that was not recorded. And the ranges can be followed apart from the answers.
`Drawn.Asked` is the rule for this: what every draw below a positive range keeps of a
source is kept by the drawing of a whole cut, because no range that a cut asks for is 0,
and a drawing that comes to no value has asked for one that its source cannot answer.
-/

namespace Labyrinth

variable {σ α β : Type}

/-! ## Drawing a split

The loop that draws a split, one round at a time. Its two draws make the source
smaller, which is what a proof about the whole loop goes by. -/

section Split

variable [Source σ]

theorem remaining_lt_of_drawBelow {range answer : Nat} {s s' : σ}
    (h : drawBelow range s = .drew answer s') : Source.remaining s' < Source.remaining s :=
  Source.remaining_draw (drawBelow_eq_drew_iff.1 h)

/-- The split of a chamber that two draws come to. -/
def Chamber.splitAt (c : Chamber) (col row : Nat) : Split :=
  ⟨c, c.left + 1 + col, c.top + 1 + row⟩

theorem drawSplit_eq (c : Chamber) (s : σ) :
    drawSplit c s =
      (drawBelow (c.right - c.left - 1) s).andThen fun col s =>
        (drawBelow (c.bottom - c.top - 1) s).andThen fun row s =>
          if (c.splitAt col row).isAcceptable then .drew (c.splitAt col row) s
          else drawSplit c s := by
  rw [drawSplit]
  split
  · next hcol =>
      rw [hcol]
      rfl
  · next hcol =>
      rw [hcol, Drawn.andThen]
      split
      · next hrow =>
          rw [hrow]
          rfl
      · next hrow =>
          rw [hrow]
          rfl

end Split

/-! ## Forgetting a record -/

def Drawn.unrecorded : Drawn (Recorded σ) α → Drawn σ α
  | .drew value rest => .drew value rest.source
  | .dry range rest => .dry range rest.source

namespace Drawn

theorem andThen_unrecorded {d : Drawn (Recorded σ) α}
    {next : α → Recorded σ → Drawn (Recorded σ) β} {next' : α → σ → Drawn σ β}
    (h : ∀ value s, d = .drew value s → (next value s).unrecorded = next' value s.source) :
    (d.andThen next).unrecorded = d.unrecorded.andThen next' := by
  cases d with
  | drew value s => exact h value s rfl
  | dry range s => rfl

theorem map_unrecorded (d : Drawn (Recorded σ) α) (f : α → β) :
    (d.map f).unrecorded = d.unrecorded.map f :=
  andThen_unrecorded fun _ _ _ => rfl

end Drawn

namespace Division

def unrecorded (d : Division (Recorded σ)) : Division σ :=
  ⟨d.maze, d.pending, d.source.source, d.splits⟩

def Step.unrecorded : Step (Recorded σ) → Step σ
  | .finished => .finished
  | .dropped after => .dropped after.unrecorded
  | .divided cut after => .divided cut after.unrecorded
  | .dry range source splits => .dry range source.source splits

def Result.unrecorded (r : Result (Recorded σ)) : Result σ :=
  ⟨r.maze, r.source.source, r.splits⟩

end Division

def Generator.Result.unrecorded (r : Generator.Result (Recorded σ)) : Generator.Result σ :=
  ⟨r.maze, r.source.source, r.events⟩

section Unrecorded

variable [Source σ]

theorem drawBelow_unrecorded (range : Nat) (s : Recorded σ) :
    (drawBelow range s).unrecorded = drawBelow range s.source := by
  have hdraw : Source.draw range s = (Source.draw range s.source).map
      fun drawn => (drawn.1, (⟨drawn.2, (range, drawn.1) :: s.draws⟩ : Recorded σ)) := rfl
  rw [drawBelow, drawBelow, hdraw]
  cases Source.draw range s.source with
  | none => rfl
  | some p => rfl

theorem drawSplit_unrecorded (c : Chamber) (s : Recorded σ) :
    (drawSplit c s).unrecorded = drawSplit c s.source := by
  induction hn : Source.remaining s using Nat.strongRecOn generalizing s with
  | ind n ih =>
      rw [drawSplit_eq c s, drawSplit_eq c s.source, ← drawBelow_unrecorded]
      refine Drawn.andThen_unrecorded fun col afterCol hcol => ?_
      rw [← drawBelow_unrecorded]
      refine Drawn.andThen_unrecorded fun row afterRow hrow => ?_
      have hcol := remaining_lt_of_drawBelow hcol
      have hrow := remaining_lt_of_drawBelow hrow
      split
      · rfl
      · exact ih _ (by omega) afterRow rfl

theorem pierce_unrecorded (sections : List Section) (s : Recorded σ) :
    (pierce sections s).unrecorded = pierce sections s.source := by
  induction sections generalizing s with
  | nil => rfl
  | cons wall rest ih =>
      rw [pierce, pierce, ← drawBelow_unrecorded]
      refine Drawn.andThen_unrecorded fun place s _ => ?_
      rw [Drawn.map_unrecorded, ih]

theorem drawHoles_unrecorded (split : Split) (s : Recorded σ) :
    (drawHoles split s).unrecorded = drawHoles split s.source := by
  rw [drawHoles, drawHoles, ← drawBelow_unrecorded]
  refine Drawn.andThen_unrecorded fun closed s _ => ?_
  rw [Drawn.map_unrecorded, pierce_unrecorded]

theorem Division.step_unrecorded (d : Division (Recorded σ)) :
    d.step.unrecorded = d.unrecorded.step := by
  obtain ⟨maze, pending, source, splits⟩ := d
  cases pending with
  | nil => rfl
  | cons chamber others =>
      unfold step unrecorded
      dsimp only
      split
      · rfl
      · rw [← drawSplit_unrecorded]
        cases drawSplit chamber source with
        | dry range rest => rfl
        | drew split rest =>
            rw [Drawn.unrecorded]
            dsimp only
            rw [← drawHoles_unrecorded]
            cases drawHoles split rest with
            | dry range rest => rfl
            | drew cut rest => rfl

end Unrecorded

/-! ## Whole runs -/

namespace Division

variable [Source σ]

theorem run_unrecorded (d : Division (Recorded σ)) : d.run.unrecorded = d.unrecorded.run := by
  fun_induction run d with
  | case1 d hstep =>
      rw [run_eq, ← step_unrecorded, hstep]
      rfl
  | case2 d after hstep ih =>
      rw [run_eq d.unrecorded, ← step_unrecorded, hstep]
      exact ih
  | case3 d cut after hstep ih =>
      rw [run_eq d.unrecorded, ← step_unrecorded, hstep]
      exact ih
  | case4 d range source splits hstep =>
      rw [run_eq, ← step_unrecorded, hstep]
      rfl

end Division

namespace Generator

/-- What a generation makes of a division that has come to its end. -/
def completed (height width : Nat) (r : Division.Result σ) : Result σ :=
  match r.maze with
  | .error range => ⟨.error range, r.source, r.splits.map .split⟩
  | .ok divided =>
    let maze := divided.openBorder height width
    ⟨.ok (some maze), r.source, r.splits.map .split ++ [finalEvent maze height width]⟩

theorem generate_eq_completed [Source σ] {width height : Int} (hw : 3 ≤ width) (hh : 3 ≤ height)
    (source : σ) :
    generate width height source = completed height.toNat width.toNat
      (Division.fresh height.toNat width.toNat source).run := by
  rw [generate, if_neg (by omega)]
  rfl

theorem completed_unrecorded (height width : Nat) (r : Division.Result (Recorded σ)) :
    (completed height width r).unrecorded = completed height width r.unrecorded := by
  obtain ⟨maze, source, splits⟩ := r
  cases maze with
  | error range => rfl
  | ok divided => rfl

/-- Recording the draws of a generation changes nothing else about it. -/
theorem generate_unrecorded [Source σ] (width height : Int) (s : Recorded σ) :
    (generate width height s).unrecorded = generate width height s.source := by
  by_cases hsides : width < 3 ∨ height < 3
  · rw [generate, generate, if_pos hsides, if_pos hsides]
    rfl
  · have hw : 3 ≤ width := by omega
    have hh : 3 ≤ height := by omega
    rw [generate_eq_completed hw hh, generate_eq_completed hw hh, completed_unrecorded,
      Division.run_unrecorded]
    rfl

end Generator

/-! ## The rule of the draws -/

/-- A draw below a positive range keeps a property of the source. -/
def Source.Keeps [Source σ] (P : σ → Prop) : Prop :=
  ∀ {range answer : Nat} {s s' : σ}, 0 < range → Source.draw range s = some (answer, s') →
    P s → P s'

/-- Every range that was asked for is positive, and a drawing that ran dry asked for one that its
source cannot answer. The ranges show only in what the draws keep. -/
def Drawn.Asked [Source σ] (P : σ → Prop) : Drawn σ α → Prop
  | .drew _ rest => P rest
  | .dry range rest => P rest ∧ 0 < range ∧ Source.draw range rest = none

section Asked

variable [Source σ] {P : σ → Prop}

theorem asked_drawBelow (hP : Source.Keeps P) {range : Nat} (hr : 0 < range) {s : σ} (hs : P s) :
    (drawBelow range s).Asked P := by
  unfold drawBelow
  cases h : Source.draw range s with
  | none => exact ⟨hs, hr, h⟩
  | some p => exact hP hr h hs

theorem Drawn.Asked.andThen {d : Drawn σ α} {next : α → σ → Drawn σ β} (hd : d.Asked P)
    (h : ∀ value s, d = .drew value s → P s → (next value s).Asked P) :
    (d.andThen next).Asked P := by
  cases d with
  | drew value s => exact h value s rfl hd
  | dry range s => exact hd

theorem Drawn.Asked.map {d : Drawn σ α} (hd : d.Asked P) (f : α → β) : (d.map f).Asked P :=
  hd.andThen fun _ _ _ hs => hs

theorem asked_drawSplit (hP : Source.Keeps P) {c : Chamber} (hc : c.isDone = false) {s : σ}
    (hs : P s) : (drawSplit c s).Asked P := by
  have hspan := Chamber.isDone_eq_false_iff.1 hc
  induction hn : Source.remaining s using Nat.strongRecOn generalizing s with
  | ind n ih =>
      rw [drawSplit_eq]
      refine (asked_drawBelow hP (by omega) hs).andThen fun col afterCol hcol hs => ?_
      refine (asked_drawBelow hP (by omega) hs).andThen fun row afterRow hrow hs => ?_
      have hcol := remaining_lt_of_drawBelow hcol
      have hrow := remaining_lt_of_drawBelow hrow
      split
      · exact hs
      · exact ih _ (by omega) hs rfl

theorem asked_pierce (hP : Source.Keeps P) {sections : List Section}
    (hpos : ∀ wall ∈ sections, 0 < wall.length) {s : σ} (hs : P s) :
    (pierce sections s).Asked P := by
  induction sections generalizing s with
  | nil => exact hs
  | cons wall rest ih =>
      refine (asked_drawBelow hP (hpos wall List.mem_cons_self) hs).andThen fun place s _ hs => ?_
      exact (ih (fun other hmem => hpos other (List.mem_cons_of_mem _ hmem)) hs).map _

theorem asked_drawHoles (hP : Source.Keeps P) {split : Split} (hsplit : split.Fits) {s : σ}
    (hs : P s) : (drawHoles split s).Asked P := by
  refine (asked_drawBelow hP (by decide) hs).andThen fun closed s _ hs => ?_
  exact (asked_pierce hP (fun wall hmem => hsplit.length_pos (List.mem_of_mem_eraseIdx hmem))
    hs).map _

namespace Division

def Step.Asked (P : σ → Prop) : Step σ → Prop
  | .finished => True
  | .dropped after => P after.source
  | .divided _ after => P after.source
  | .dry range source _ => P source ∧ 0 < range ∧ Source.draw range source = none

theorem asked_step (hP : Source.Keeps P) {d : Division σ} (hs : P d.source) :
    d.step.Asked P := by
  unfold step
  split
  · trivial
  · split
    · exact hs
    · next chamber others _ hdone =>
        have hdone := Bool.eq_false_iff.2 hdone
        have hsplit := asked_drawSplit hP hdone hs
        split
        · next heq =>
            rw [heq] at hsplit
            exact hsplit
        · next split source heq =>
            rw [heq] at hsplit
            have hholes := asked_drawHoles hP (fits_of_drawSplit hdone heq) hsplit
            split
            · next heq =>
                rw [heq] at hholes
                exact hholes
            · next heq =>
                rw [heq] at hholes
                exact hholes

/-- What every draw keeps, a whole division keeps; and if it comes to no maze, it has asked for a
range that is positive and that its source does not answer. -/
theorem asked_run (hP : Source.Keeps P) {d : Division σ} (hs : P d.source) :
    P d.run.source ∧
      ∀ range, d.run.maze = .error range → 0 < range ∧ Source.draw range d.run.source = none := by
  fun_induction run d with
  | case1 d hstep =>
      refine ⟨hs, fun range h => ?_⟩
      cases h
  | case2 d after hstep ih =>
      have hasked := asked_step hP hs
      rw [hstep] at hasked
      exact ih hasked
  | case3 d cut after hstep ih =>
      have hasked := asked_step hP hs
      rw [hstep] at hasked
      exact ih hasked
  | case4 d range source splits hstep =>
      have hasked := asked_step hP hs
      rw [hstep] at hasked
      refine ⟨hasked.1, fun range h => ?_⟩
      cases h
      exact hasked.2

end Division

namespace Generator

theorem asked_generate (hP : Source.Keeps P) (width height : Int) {s : σ} (hs : P s) :
    P (generate width height s).source ∧
      ∀ range, (generate width height s).maze = .error range →
        0 < range ∧ Source.draw range (generate width height s).source = none := by
  by_cases hsides : width < 3 ∨ height < 3
  · rw [generate, if_pos hsides]
    refine ⟨hs, fun range h => ?_⟩
    cases h
  · obtain ⟨hkept, hdry⟩ := Division.asked_run hP
      (d := Division.fresh height.toNat width.toNat s) hs
    rw [generate_eq_completed (by omega) (by omega), completed]
    split
    · next range hrun =>
        refine ⟨hkept, fun range' h => ?_⟩
        cases h
        exact hdry range hrun
    · refine ⟨hkept, fun range h => ?_⟩
      cases h

end Generator

end Asked

/-! ## Ranges on record -/

namespace Recorded

/-- All ranges that were asked for are positive. -/
def Sensible (s : Recorded σ) : Prop :=
  ∀ draw ∈ s.history, 0 < draw.1

theorem sensible_fresh (s : σ) : (fresh s).Sensible := by
  intro draw hdraw
  cases hdraw

theorem keeps_sensible [Source σ] : Source.Keeps (Sensible (σ := σ)) := by
  intro range answer s s' hr h hs draw hdraw
  obtain ⟨⟨_, rest⟩, -, heq⟩ := Option.map_eq_some_iff.1 h
  obtain ⟨rfl, rfl⟩ := Prod.mk.inj heq
  rw [history, List.reverse_cons, List.mem_append, List.mem_singleton] at hdraw
  rcases hdraw with hdraw | rfl
  · exact hs draw hdraw
  · exact hr

end Recorded

end Labyrinth
