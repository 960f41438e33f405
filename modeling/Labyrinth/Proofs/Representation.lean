import Labyrinth.Proofs.Depicted
import Labyrinth.Proofs.RangeStatements

/-!
# What every draft is

Whatever a document says, and wherever it stops, the draft that is left has grid and
visits of the same sides, colours that are colours and paths that never turn back.
`Represented` says so. Settings and rows cannot break it; a visit brings a colour that
was read, and a path brings moves that were checked.

Two more things are known of a draft by the lines it comes from. It has a grid exactly
if one of the lines that were carried out states a size. And what is registered at
some point of a document is registered for the rest of it.
-/

namespace Labyrinth

/-! ## Colours -/

namespace Color

/-- The components of a colour lie within 0 and 255. -/
structure InRange (c : Color) : Prop where
  red : 0 ≤ c.red ∧ c.red ≤ 255
  green : 0 ≤ c.green ∧ c.green ≤ 255
  blue : 0 ≤ c.blue ∧ c.blue ≤ 255

theorem inRange_lightGray : lightGray.InRange :=
  ⟨by decide, by decide, by decide⟩

theorem inRange_of_parse {text : Text} {c : Color} (h : parse text = .ok c) : c.InRange := by
  have hcomponent : ∀ {n : Nat}, n ≤ 255 → 0 ≤ (n : Int) ∧ (n : Int) ≤ 255 :=
    fun hn => ⟨Int.natCast_nonneg _, Int.ofNat_le.2 hn⟩
  unfold parse at h
  split at h
  · cases h
  · split at h
    · cases h
    · split at h
      · next hle =>
          obtain rfl := Except.ok.inj h
          exact ⟨hcomponent hle.1, hcomponent hle.2.1, hcomponent hle.2.2⟩
      · cases h

end Color

namespace Draft

open Outcome in
/-- What a line draws, it draws in a colour that was read. -/
theorem inRange_of_understand {d : Draft} {line : Text} {s : Segment}
    (h : d.understand line = .ok (.visit s)) : s.color.InRange := by
  obtain ⟨statement, hstated, h⟩ := understand_eq_ok h
  have hread := (Statement.ofLine?_eq_some_iff.1 hstated).2
  cases statement with
  | setting s => cases h
  | row index cells =>
      rw [resolve] at h
      split at h <;> cases h
  | path id body =>
      obtain ⟨p, points, heq, -⟩ := resolvePath_eq_ok h
      cases heq
  | range id first last color =>
      obtain ⟨points, heq, -⟩ := resolveRange_eq_ok_iff.1 (mapError_eq_ok.1 h)
      obtain ⟨_, _, _, c, hrange, hcolor⟩ := Statement.exists_range_of_readRange hread
      cases heq
      cases hrange
      rcases hcolor with rfl | ⟨text, hcolor⟩
      · exact Color.inRange_lightGray
      · exact Color.inRange_of_parse hcolor
  | chain color points =>
      obtain ⟨c, _, hchain, text, hcolor⟩ := Statement.exists_chain_of_readChain hread
      rw [resolve] at h
      split at h
      · cases h
      · cases h
        cases hchain
        exact Color.inRange_of_parse hcolor

end Draft

/-- All visits of a table have colours within 0 and 255. -/
def Tinted (visits : Table (Array Visit)) : Prop :=
  ∀ row col cell, visits.cell? row col = some cell → ∀ v ∈ cell, v.color.InRange

theorem tinted_filled (height width : Int) : Tinted (.filled height width #[]) := by
  intro row col cell hcell v hv
  rw [Table.eq_of_cell?_filled hcell] at hv
  exact absurd hv (Array.not_mem_empty v)

theorem tinted_lined {visits : Table (Array Visit)} (h : Tinted visits) {color : Color}
    (hcolor : color.InRange) (line : List (Coordinate × Shape)) :
    Tinted (lined visits color line) := by
  induction line generalizing visits with
  | nil => exact h
  | cons e line ih =>
      refine ih fun row col cell hcell v hv => ?_
      rw [Table.cell?_modifyCell] at hcell
      split at hcell
      · obtain ⟨before, hbefore, rfl⟩ := Option.map_eq_some_iff.1 hcell
        rcases Array.mem_push.1 hv with hv | rfl
        · exact h row col before hbefore v hv
        · exact hcolor
      · exact h row col cell hcell v hv

theorem tinted_applySetting {d : Draft} (h : Tinted d.description.visits) (number : Nat)
    (s : Setting) : Tinted (d.applySetting number s).description.visits := by
  rcases d.applySetting_cases number s with ⟨height, width, rfl⟩ | ⟨m, c, rfl⟩ | ⟨change, heq⟩
  · exact tinted_filled height width
  · cases m <;> exact h
  · rw [heq]
    exact h

theorem tinted_execute {d : Draft} (hd : d.description.Framed) (h : Tinted d.description.visits)
    (number : Nat) (line : Text) : Tinted (d.execute number line).state.description.visits := by
  -- What a line was carried out to be no longer tells its colour, what it was understood as does.
  unfold Draft.execute
  cases hunderstood : d.understand line with
  | error e => exact h
  | ok action =>
      dsimp only
      cases Draft.understood_of_understand hunderstood with
      | setting _ => exact tinted_applySetting h number _
      | row _ hin =>
          rw [Draft.perform_row hd hin]
          exact h
      | path _ htraced =>
          rw [Draft.perform_path hd htraced]
          exact h
      | visit _ _ hin =>
          rw [Draft.perform_visit hd hin]
          split
          · exact h
          · exact tinted_lined h (Draft.inRange_of_understand hunderstood) _

namespace Document

theorem tinted_carryOut {d : Draft} (hd : d.description.Framed) (h : Tinted d.description.visits)
    (entry : Text × Nat) : Tinted (carryOut d entry).state.description.visits := by
  by_cases hblank : normalized entry.1 = []
  · rw [carryOut_of_blank hblank]
    exact h
  · rw [carryOut_of_statement hblank]
    exact tinted_execute hd h entry.2 (normalized entry.1)

end Document

/-! ## What holds of every draft -/

/-- Grid and visits fit, every visit has a colour, and no path turns back. -/
structure Draft.Represented (d : Draft) : Prop where
  framed : d.description.Framed
  tinted : Tinted d.description.visits
  walks : ∀ p ∈ d.paths.paths, Move.Walk.Sound p.moves

namespace Document

theorem walks_of_carried {d d' : Draft} {number : Nat} {line : Text} {f : Option Fault}
    (h : d.Carried number line d' f) (hd : ∀ p ∈ d.paths.paths, Move.Walk.Sound p.moves) :
    ∀ p ∈ d'.paths.paths, Move.Walk.Sound p.moves := by
  rcases Draft.registered_of_carried h with heq | ⟨_, _, p, _, htraced, heq⟩
  · rw [heq]
    exact hd
  · rw [heq]
    intro q hq
    rcases List.mem_append.1 hq with hq | hq
    · exact hd q hq
    · rw [List.mem_singleton.1 hq]
      obtain ⟨_, _, -, -, hparse⟩ := htraced.origin
      exact Move.Walk.sound_of_parse hparse

theorem represented_of_reached {d : Draft} (h : Reached d) : d.Represented := by
  have htinted := (h.induction (P := fun d => Tinted d.description.visits) (tinted_filled 0 0)
    (fun entry hframed hd => tinted_carryOut hframed hd entry) fun _ hd => hd).1
  have hwalks := (h.invariant (P := fun d => ∀ p ∈ d.paths.paths, Move.Walk.Sound p.moves)
    (fun p hp => absurd hp List.not_mem_nil) (fun _ hcarried hd => walks_of_carried hcarried hd)
    fun _ hd => hd).1
  exact ⟨h.framed, htinted, hwalks⟩

/-! ## What is known from the lines -/

/-- The lines that are carried out: all, or those before the first that fails. -/
def carriedOut (d : Draft) : List (Text × Nat) → List Text
  | [] => []
  | entry :: rest =>
    match carryOut d entry with
    | ⟨d', none⟩ => entry.1 :: carriedOut d' rest
    | ⟨_, some _⟩ => []

/-- Only a size gives a draft without rows a grid, and none takes it away. -/
theorem height_each_eq_zero_iff {d : Draft} (hd : d.description.Framed)
    (entries : List (Text × Nat)) :
    (Attempt.each carryOut d entries).state.grid.height = 0 ↔
      d.grid.height = 0 ∧ ∀ line ∈ carriedOut d entries, ¬ StatesSize line := by
  induction entries generalizing d with
  | nil => exact ⟨fun h => ⟨h, fun line hline => absurd hline List.not_mem_nil⟩, And.left⟩
  | cons entry rest ih =>
      have hframed := framed_carryOut hd entry
      by_cases hsize : StatesSize entry.1
      · obtain ⟨height, width, hread⟩ := hsize
        have hdone := carryOut_of_setting hread d entry.2
        have hpos := (Setting.sides_of_read hread).1
        have hheight := (carryOut_size hread hdone).1.height_eq
        rw [hdone] at hframed
        rw [Attempt.each, carriedOut, hdone]
        refine (ih hframed).trans ⟨fun h => ?_, fun h => ?_⟩
        · exact absurd (hheight.symm.trans h.1) (Nat.ne_of_gt hpos)
        · exact absurd ⟨height, width, hread⟩ (h.2 entry.1 List.mem_cons_self)
      · have hheight : (carryOut d entry).state.grid.height = d.grid.height :=
          (hasSides_carryOut hd hsize hd.hasSides entry.2).height_eq
        rw [Attempt.each, carriedOut, ← hheight]
        cases hcarry : carryOut d entry with
        | mk e fault =>
            rw [hcarry] at hframed
            cases fault with
            | none =>
                rw [List.forall_mem_cons]
                exact (ih hframed).trans (and_congr_right fun _ => (and_iff_right hsize).symm)
            | some stop =>
                exact ⟨fun h => ⟨h, fun line hline => absurd hline List.not_mem_nil⟩, And.left⟩

theorem body_prefix {before lines : List Text} (h : before <+: lines) :
    body before <+: body lines := by
  obtain ⟨after, rfl⟩ := h
  cases before with
  | nil => exact List.nil_prefix
  | cons header rest =>
      rw [List.cons_append]
      cases hheader : checkHeader header with
      | error r =>
          rw [body_of_badHeader hheader]
          exact List.nil_prefix
      | ok _ =>
          rw [body_of_header hheader, body_of_header hheader]
          exact List.prefix_append ..

/-- The drafts that the lines of a document leave: when they have been gone through, to the last
or to one that fails, and when the document has ended there. -/
inductive Leaves (lines : List Text) : Draft → Prop
  | through : Leaves lines (afterLines lines)
  | ended : Leaves lines (compileLines lines).state

theorem Leaves.of_done {lines : List Text} {d : Draft} (h : compileLines lines = .done d) :
    Leaves lines d := by
  have hended : Leaves lines (compileLines lines).state := .ended
  rw [h] at hended
  exact hended

theorem Leaves.reached {lines : List Text} {d : Draft} (h : Leaves lines d) : Reached d := by
  cases h with
  | through => exact .lines (body lines)
  | ended => exact .ended lines

/-- The end opens cells of the grid and changes nothing else. -/
theorem Leaves.exists_withGrid {lines : List Text} {d : Draft} (h : Leaves lines d) :
    ∃ g : Grid, d = (afterLines lines).withGrid g ∧ g.height = (afterLines lines).grid.height := by
  cases h with
  | through => exact ⟨_, rfl, rfl⟩
  | ended =>
      rcases state_compileLines lines with h | h
      · rw [h]
        exact ⟨_, rfl, rfl⟩
      · rw [h]
        have hframed : (afterLines lines).description.Framed := framed_each _
        exact ⟨_, rfl, (Grid.hasSides_opened hframed.hasSides _).height_eq⟩

theorem paths_afterLines {before lines : List Text} (h : before <+: lines) :
    (afterLines before).paths.paths <+: (afterLines lines).paths.paths := by
  obtain ⟨after, hafter⟩ := body_prefix h
  rw [afterLines, afterLines, ← hafter, numbered, numbered, List.zipIdx_append,
    Attempt.each_append]
  rcases Attempt.andThen_cases (Attempt.each carryOut {} ((body before).zipIdx 2))
    (fun d => Attempt.each carryOut d (after.zipIdx (2 + (body before).length))) with
    ⟨-, h⟩ | ⟨-, -, h⟩
  · rw [h]
    exact paths_each (framed_each _) _
  · simp only [h, List.prefix_refl]

/-- What is registered after some lines is registered after more of them. -/
theorem Leaves.get_of_get {before lines : List Text} {b d : Draft} (hbefore : before <+: lines)
    (hb : Leaves before b) (hd : Leaves lines d) {id : Int} {p : Path}
    (hget : b.paths.get id = .ok p) : d.paths.get id = .ok p := by
  obtain ⟨g, rfl, -⟩ := hb.exists_withGrid
  obtain ⟨g', rfl, -⟩ := hd.exists_withGrid
  exact Registry.get_mono (paths_afterLines hbefore) hget

theorem height_leaves_eq_zero_iff {lines : List Text} {d : Draft} (h : Leaves lines d) :
    d.grid.height = 0 ↔ ∀ line ∈ carriedOut {} (numbered (body lines)), ¬ StatesSize line := by
  obtain ⟨g, rfl, hheight⟩ := h.exists_withGrid
  rw [Draft.grid_withGrid, hheight, afterLines, height_each_eq_zero_iff Description.framed_empty]
  exact and_iff_right rfl

/-- Whatever a document says and wherever it stops, the draft that is left is sound. It has a grid
and visits exactly if a size was carried out, it knows every path that was registered on the way,
and it accepts every range of one if the numbers fit the path and the stretch is in the grid. -/
theorem representation_of_leaves {lines : List Text} {d : Draft} (h : Leaves lines d) :
    d.Represented ∧
      (d.grid.HasSides 0 0 ↔ ∀ line ∈ carriedOut {} (numbered (body lines)), ¬ StatesSize line) ∧
      (d.description.visits.HasSides 0 0 ↔
        ∀ line ∈ carriedOut {} (numbered (body lines)), ¬ StatesSize line) ∧
      (∀ before b id p, before <+: lines → Leaves before b → b.paths.get id = .ok p →
        d.paths.get id = .ok p) ∧
      ∀ line number id first last p, StatesRange line id first last → d.paths.get id = .ok p →
        0 ≤ first → first ≤ last → last ≤ p.moves.length → 1 ≤ last → d.Covers p first last →
          ∃ e, carryOut d (line, number) = .done e := by
  have hd := represented_of_reached h.reached
  have hsized := height_leaves_eq_zero_iff h
  refine ⟨hd, ?_, ?_, fun before b id p hbefore hb => hb.get_of_get hbefore h, ?_⟩
  · rw [← hsized]
    exact hd.framed.hasSides.hasSides_zero_iff
  · rw [← hsized]
    exact hd.framed.visits.hasSides_zero_iff
  · intro line number id first last p hline hget hfirst hle hlast hpos hin
    have hwalk := hd.walks p (Registry.mem_of_get hget)
    exact carryOut_range hd.framed hline hget hwalk hfirst hle hpos hlast hin number

/-- A path is registered in a grid of four columns, which a second size cuts to three. A row that is
too long ends the document. The first two moves of the path are still in the grid. -/
theorem representation_of_leaves_two_by_three :
    ∃ (lines : List Text) (d e : Draft), d = (compileLines lines).state ∧ d.Represented ∧
      d.grid.height = 2 ∧ d.grid.width = 3 ∧ d.paths.size = 1 ∧
      (compileLines lines).fault ≠ none ∧
      carryOut d ("V: P(1, 0, 02);".toList, 6) = .done e := by
  let lines := ["[Version: 1.0]", "[size:2,4]", "P1: c(0,0) r(3) d;", "[size:2,3]",
    "r1:wwwp;"].map String.toList
  obtain ⟨hheight, hwidth, hsize, hfault, hget⟩ :
      (compileLines lines).state.grid.height = 2 ∧ (compileLines lines).state.grid.width = 3 ∧
        (compileLines lines).state.paths.size = 1 ∧ (compileLines lines).fault ≠ none ∧
        (compileLines lines).state.paths.get 1 = .ok ⟨1, ⟨0, 0⟩, "rrrd".toList⟩ := by
    decide +kernel
  have hleaves : Leaves lines (compileLines lines).state := .ended
  obtain ⟨hd, -, -, -, hranges⟩ := representation_of_leaves hleaves
  have hline : StatesRange "V: P(1, 0, 02);".toList 1 0 2 := by
    refine .plain (a := "1".toList) (b := "0".toList) (c := "02".toList) ?_ ?_ ?_ ?_
    · decide +kernel
    · exact ⟨by decide, by decide⟩
    · exact ⟨by decide, by decide⟩
    · exact ⟨by decide, by decide⟩
  have hcovers : (compileLines lines).state.Covers ⟨1, ⟨0, 0⟩, "rrrd".toList⟩ 0 2 := by
    intro k _ hk
    rw [Table.contains, hheight, hwidth]
    have hcases : k = 0 ∨ k = 1 ∨ k = 2 := by omega
    rcases hcases with rfl | rfl | rfl <;> decide
  obtain ⟨e, he⟩ := hranges _ 6 1 0 2 _ hline hget (by decide) (by decide) (by decide) (by decide)
    hcovers
  exact ⟨lines, _, e, rfl, hd, hheight, hwidth, hsize, hfault, he⟩

end Document

end Labyrinth
