import Labyrinth.Proofs.Statements
import Labyrinth.Proofs.Writes

/-!
# What a line does to a draft

A line is understood against the draft and then performed. `Understood` lists what
the checks of the first leave to be relied on, one constructor an action, and the
lemmas after it say what the second then comes to: writes that were checked do not
fail, so an action ends where its fold ends. Two things go wrong only after the
first write or too late for a check: a row that is too long and a walk that has no
line.

The invariant that makes the checks sufficient is `Framed`. The checks look at the
sides of the grid, while a visit is written to another table, and both are only as
good as their rows are long.
-/

namespace Labyrinth

/-- Grid and visits are rectangular tables of the same sides. -/
structure Description.Framed (d : Description) : Prop where
  grid : d.grid.Rectangular
  visits : d.visits.HasSides d.grid.height d.grid.width

namespace Description

theorem framed_empty : ({} : Description).Framed :=
  ⟨by simp [Table.Rectangular, Table.toLists],
    rfl, rfl, by simp [Table.Rectangular, Table.toLists]⟩

theorem framed_resize (d : Description) (height width : Nat) : (d.resize height width).Framed := by
  cases height with
  | zero => exact ⟨framed_empty.grid, framed_empty.visits⟩
  | succ n =>
      have hsides : ∀ {α : Type} (cell : α),
          (Table.filled (n + 1 : Nat) width cell).HasSides (n + 1) width := by
        intro α cell
        exact Table.hasSides_filled (by omega) cell
      have hgrid := hsides CellKind.wall
      refine ⟨hgrid.rectangular, ?_⟩
      rw [resize, hgrid.height_eq, hgrid.width_eq]
      exact hsides #[]

theorem sides_resize (d : Description) (height width : Nat) :
    (d.resize height width).grid.height = height ∧ (d.resize height width).grid.width ≤ width := by
  refine ⟨Table.height_filled .., ?_⟩
  cases height with
  | zero => exact Nat.zero_le _
  | succ n =>
      have hpos : 0 < ((n + 1 : Nat) : Int) := by omega
      exact Nat.le_of_eq (Table.hasSides_filled hpos CellKind.wall).width_eq

theorem Framed.grid_changed {d : Description} (hd : d.Framed) {g : Grid}
    (hg : g.HasSides d.grid.height d.grid.width) : ({ d with grid := g }).Framed :=
  ⟨hg.rectangular, by rw [hg.height_eq, hg.width_eq]; exact hd.visits⟩

theorem Framed.hasSides {d : Description} (hd : d.Framed) :
    d.grid.HasSides d.grid.height d.grid.width :=
  ⟨rfl, rfl, hd.grid⟩

end Description

/-! ## Understanding -/

namespace Draft

/-- What is known of a path that a draft has resolved: its number is still free, it starts where
the draft locates its origin, and it stays in the grid. -/
structure Traces (d : Draft) (id : Nat) (body : Text) (p : Path) (points : List Coordinate) :
    Prop where
  id_eq : p.id = id
  free : d.paths.contains p.id = false
  walked : p.trajectory = .ok points
  inside : ∀ c ∈ points, d.grid.contains c = true
  origin : ∃ origin clause, Origin.read id body = .ok (origin, clause) ∧
    d.locate id origin = .ok p.origin ∧
    Move.Walk.parse clause (some d.repeatLimit) = .ok p.moves

/-- What is known of the points of a range that a draft has resolved: they are cut out of the
trajectory of a path with moves enough, they are two or more, and they are in the grid. -/
structure Ranges (d : Draft) (id first last : Int) (points : List Coordinate) : Prop where
  fits : ∃ p, d.paths.get id = .ok p ∧ last ≤ p.moves.length
  cut : ∃ trajectory, d.paths.trajectory id = .ok trajectory ∧
    points = (trajectory.take (last + 1).toNat).drop (first - 1).toNat
  long : 2 ≤ points.length
  inside : ∀ c ∈ points, d.grid.contains c = true

/-- What is known of the action that a line asks for. -/
inductive Understood (d : Draft) (line : Text) : Action → Prop
  | setting {s : Setting} (read : Setting.read line = .ok s) : Understood d line (.setting s)
  | row {index : Nat} {cells : Text} (stated : Statement.ofLine? line = some (.row index cells))
      (inside : index < d.grid.height) : Understood d line (.row index cells)
  | path {id : Nat} {body : Text} {p : Path} {points : List Coordinate}
      (stated : Statement.ofLine? line = some (.path id body))
      (traced : d.Traces id body p points) : Understood d line (.path p points)
  | visit {statement : Statement} {s : Segment} (stated : Statement.ofLine? line = some statement)
      (drawing : statement.form = .range ∨ statement.form = .chain)
      (inside : ∀ c ∈ s.points, d.grid.contains c = true) : Understood d line (.visit s)

/-- Why a line that is not blank is refused before it writes anything. -/
inductive Refused (d : Draft) (line : Text) : Fault → Prop
  | unexpected : Refused d line (.reason (.unexpectedStatement line))
  | sizeless (subject : String) : Refused d line (.reason (.undefinedSize subject))
  | unread {form : Form} {r : Reason} (formed : Form.of? line = some form)
      (read : Statement.read line form = .error r) : Refused d line (.reason r)
  | unresolved {s : Statement} {e : Fault} (stated : Statement.ofLine? line = some s)
      (resolved : d.resolve s = .error e) : Refused d line e

theorem refused_of_understand {d : Draft} {line : Text} {e : Fault}
    (h : d.understand line = .error e) : d.Refused line e := by
  have hread : ∀ form, Form.of? line = some form →
      understand.readAs d line form = .error e → d.Refused line e := by
    intro form hform h
    unfold understand.readAs at h
    split at h
    · next r hr =>
        cases h
        exact .unread hform hr
    · next s hs => exact .unresolved (Statement.ofLine?_of_read hform hs) h
  unfold understand at h
  split at h
  · cases h
    exact .unexpected
  · next form hform =>
      split at h
      · exact hread form hform h
      · split at h
        · cases h
          exact .sizeless _
        · exact hread form hform h

theorem understand_eq_ok {d : Draft} {line : Text} {action : Action}
    (h : d.understand line = .ok action) :
    ∃ s, Statement.ofLine? line = some s ∧ d.resolve s = .ok action := by
  have hread : ∀ form, Form.of? line = some form → understand.readAs d line form = .ok action →
      ∃ s, Statement.ofLine? line = some s ∧ d.resolve s = .ok action := by
    intro form hform h
    unfold understand.readAs at h
    split at h
    · cases h
    · next s hs => exact ⟨s, Statement.ofLine?_of_read hform hs, h⟩
  unfold understand at h
  split at h
  · cases h
  · next form hform =>
      split at h
      · exact hread form hform h
      · split at h
        · cases h
        · exact hread form hform h

theorem understand_of_setting {line : Text} {s : Setting} (d : Draft)
    (h : Setting.read line = .ok s) : d.understand line = .ok (.setting s) := by
  obtain ⟨hform, hread⟩ := Statement.ofLine?_eq_some_iff.1 (Statement.ofLine?_of_setting h)
  unfold understand
  rw [hform]
  simp only [Statement.form] at hread ⊢
  simp only [Form.subject?, understand.readAs, hread, resolve]

/-- Once there is a grid, what a line states is all there is to resolve. -/
theorem understand_of_stated {d : Draft} {line : Text} {s : Statement}
    (h : Statement.ofLine? line = some s) (hsize : d.grid.height ≠ 0) :
    d.understand line = d.resolve s := by
  obtain ⟨hform, hread⟩ := Statement.ofLine?_eq_some_iff.1 h
  have hreads : understand.readAs d line s.form = d.resolve s := by
    rw [understand.readAs, hread]
  unfold understand
  rw [hform]
  dsimp only
  split
  · exact hreads
  · rw [if_neg hsize]
    exact hreads

theorem understand_of_row {d : Draft} {line cells : Text} {index : Nat}
    (h : Statement.ofLine? line = some (.row index cells)) (hin : index < d.grid.height) :
    d.understand line = .ok (.row index cells) := by
  rw [understand_of_stated h (by omega), resolve, if_pos hin]

open Outcome in
theorem resolvePath_eq_ok {d : Draft} {id : Nat} {body : Text} {action : Action}
    (h : d.resolvePath (some d.repeatLimit) id body = .ok action) :
    ∃ p points, action = .path p points ∧ d.Traces id body p points := by
  unfold resolvePath at h
  split at h
  · cases h
  · next hfree =>
      obtain ⟨⟨origin, clause⟩, horigin, h⟩ := bind_eq_ok.1 h
      obtain ⟨start, hstart, h⟩ := bind_eq_ok.1 h
      obtain ⟨moves, hmoves, h⟩ := bind_eq_ok.1 h
      obtain ⟨points, hpoints, h⟩ := bind_eq_ok.1 h
      split at h
      · cases h
      · next hin =>
          cases h
          exact ⟨_, _, rfl, rfl, Bool.eq_false_iff.2 hfree, mapError_eq_ok.1 hpoints,
            firstOutside?_eq_none_iff.1 hin, origin, clause, mapError_eq_ok.1 horigin,
            mapError_eq_ok.1 hstart, mapError_eq_ok.1 hmoves⟩

open Outcome in
theorem resolvePath_of_traces {d : Draft} {id : Nat} {body : Text} {p : Path}
    {points : List Coordinate} (h : d.Traces id body p points) :
    d.resolvePath (some d.repeatLimit) id body = .ok (.path p points) := by
  obtain ⟨id', start, moves⟩ := p
  obtain ⟨rfl, hfree, hwalked, hinside, origin, clause, hread, hlocate, hparse⟩ := h
  unfold resolvePath
  rw [if_neg (Bool.eq_false_iff.1 hfree)]
  refine bind_eq_ok.2 ⟨_, mapError_eq_ok.2 hread, bind_eq_ok.2 ⟨_, mapError_eq_ok.2 hlocate,
    bind_eq_ok.2 ⟨_, mapError_eq_ok.2 hparse, bind_eq_ok.2 ⟨_, mapError_eq_ok.2 hwalked, ?_⟩⟩⟩⟩
  rw [firstOutside?_eq_none_iff.2 hinside]
  rfl

open Outcome in
theorem resolveRange_eq_ok_iff {d : Draft} {id first last : Int} {color : Color} {action : Action} :
    d.resolveRange id first last color = .ok action ↔
      ∃ points, action = .visit ⟨color, points⟩ ∧ d.Ranges id first last points := by
  unfold resolveRange
  constructor
  · intro h
    obtain ⟨p, hget, h⟩ := bind_eq_ok.1 h
    split at h
    · cases h
    · next hfits =>
        obtain ⟨trajectory, htrajectory, h⟩ := bind_eq_ok.1 h
        simp only at h
        split at h
        · cases h
        · next hlong =>
            split at h
            · cases h
            · next hin =>
                cases h
                exact ⟨_, rfl, ⟨p, mapError_eq_ok.1 hget, Int.not_lt.1 hfits⟩,
                  ⟨trajectory, mapError_eq_ok.1 htrajectory, rfl⟩, Nat.not_lt.1 hlong,
                  firstOutside?_eq_none_iff.1 hin⟩
  · rintro ⟨_, rfl, ⟨p, hget, hfits⟩, ⟨trajectory, htrajectory, rfl⟩, hlong, hin⟩
    refine bind_eq_ok.2 ⟨p, mapError_eq_ok.2 hget, ?_⟩
    rw [if_neg (Int.not_lt.2 hfits)]
    refine bind_eq_ok.2 ⟨trajectory, mapError_eq_ok.2 htrajectory, ?_⟩
    simp only
    rw [if_neg (Nat.not_lt.2 hlong), firstOutside?_eq_none_iff.2 hin]
    rfl

theorem checkChain_eq_ok {d : Draft} {previous : Option Coordinate} {points : List Coordinate}
    (h : d.checkChain previous points = .ok ()) : ∀ c ∈ points, d.grid.contains c = true := by
  induction points generalizing previous with
  | nil => exact fun c hc => absurd hc List.not_mem_nil
  | cons c points ih =>
      unfold checkChain at h
      split at h
      · cases h
      · next hc =>
          have hrest : d.checkChain (some c) points = .ok () := by
            split at h
            · split at h
              · exact h
              · cases h
            · exact h
          intro x hx
          rcases List.mem_cons.1 hx with rfl | hx
          · simpa using hc
          · exact ih hrest x hx

open Outcome in
theorem understood_of_understand {d : Draft} {line : Text} {action : Action}
    (h : d.understand line = .ok action) : d.Understood line action := by
  obtain ⟨s, hstated, h⟩ := understand_eq_ok h
  cases s with
  | setting s =>
      cases h
      obtain ⟨s', hs', heq⟩ := map_eq_ok.1 (Statement.ofLine?_eq_some_iff.1 hstated).2
      cases heq
      exact .setting hs'
  | row index cells =>
      rw [resolve] at h
      split at h
      · next hin => cases h; exact .row hstated hin
      · cases h
  | path id body =>
      obtain ⟨p, points, rfl, htraced⟩ := resolvePath_eq_ok h
      exact .path hstated htraced
  | range id first last color =>
      obtain ⟨points, rfl, hranges⟩ := resolveRange_eq_ok_iff.1 (mapError_eq_ok.1 h)
      exact .visit hstated (.inl rfl) hranges.inside
  | chain color points =>
      rw [resolve] at h
      split at h
      · cases h
      · next hchain => cases h; exact .visit hstated (.inr rfl) (checkChain_eq_ok hchain)

/-! ## Performing -/

def withGrid (d : Draft) (g : Grid) : Draft :=
  { d with description := { d.description with grid := g } }

theorem grid_withGrid (d : Draft) (g : Grid) : (d.withGrid g).grid = g :=
  rfl

theorem marker_withGrid (d : Draft) (g : Grid) :
    (d.withGrid g).description.marker = d.description.marker := by
  funext m
  cases m <;> rfl

def withVisits (d : Draft) (visits : Table (Array Visit)) : Draft :=
  { d with description := { d.description with visits } }

theorem perform_row {d : Draft} {index : Nat} (hd : d.description.Framed)
    (hin : index < d.grid.height) (number : Nat) (cells : Text) :
    d.perform number (.row index cells) =
      ⟨d.withGrid (d.grid.withRow index (cells.take d.grid.width).zipIdx),
        if hasCode (cells.drop d.grid.width) then
          some (.reason (.rowTooLong index (d.grid.width - 1)))
        else none⟩ := by
  have hin' : index < d.description.grid.height := hin
  simp only [perform, writing, each_writeRowCell hd.grid hin']
  rfl

theorem perform_path {d : Draft} {id : Nat} {body : Text} {p : Path} {points : List Coordinate}
    (hd : d.description.Framed) (hp : d.Traces id body p points) (number : Nat) :
    d.perform number (.path p points) =
      .done { d.withGrid (d.grid.opened points) with paths := ⟨d.paths.paths ++ [p]⟩ } := by
  simp only [perform, writing, Attempt.embed, each_writeCell hd.grid hp.inside,
    Attempt.done, Attempt.andThen, register, Registry.register, hp.free, Bool.false_eq_true, if_false]
  rfl

theorem perform_visit {d : Draft} {s : Segment} (hd : d.description.Framed)
    (hin : ∀ c ∈ s.points, d.grid.contains c = true) (number : Nat) :
    d.perform number (.visit s) =
      match Line.shapes s.points with
      | .error e => .failed d (.ofLine e)
      | .ok shapes =>
        .done (d.withVisits (lined d.description.visits s.color (s.points.zip shapes))) := by
  simp only [perform, writing, Description.annotate]
  cases Line.shapes s.points with
  | error e => rfl
  | ok shapes =>
      have hline : ∀ e ∈ s.points.zip shapes, d.description.visits.contains e.1 = true := by
        intro e he
        exact hd.visits.contains_congr hd.hasSides (hin e.1 (List.of_mem_zip he).1)
      simp only [Description.addLine_eq_done s.color hd.visits.rectangular hline]
      rfl

/-- What carrying out a line can come to: the draft after it, and the fault that stopped it. -/
inductive Carried (d : Draft) (number : Nat) (line : Text) : Draft → Option Fault → Prop
  | refused {e : Fault} (h : d.understand line = .error e) : Carried d number line d (some e)
  | setting {s : Setting} (read : Setting.read line = .ok s) :
      Carried d number line (d.applySetting number s) none
  | row {index : Nat} {cells : Text} (stated : Statement.ofLine? line = some (.row index cells))
      (inside : index < d.grid.height) :
      Carried d number line (d.withGrid (d.grid.withRow index (cells.take d.grid.width).zipIdx))
        none
  | longRow {index : Nat} {cells : Text}
      (stated : Statement.ofLine? line = some (.row index cells))
      (inside : index < d.grid.height) :
      Carried d number line (d.withGrid (d.grid.withRow index (cells.take d.grid.width).zipIdx))
        (some (.reason (.rowTooLong index (d.grid.width - 1))))
  | path {id : Nat} {body : Text} {p : Path} {points : List Coordinate}
      (stated : Statement.ofLine? line = some (.path id body))
      (traced : d.Traces id body p points) :
      Carried d number line
        { d.withGrid (d.grid.opened points) with paths := ⟨d.paths.paths ++ [p]⟩ } none
  | undrawn {s : Segment} {e : LineFault} (fault : Line.shapes s.points = .error e) :
      Carried d number line d (some (.ofLine e))
  | drawn {statement : Statement} {s : Segment} {shapes : List Shape}
      (stated : Statement.ofLine? line = some statement)
      (drawing : statement.form = .range ∨ statement.form = .chain) (shaped : Line.shapes s.points = .ok shapes)
      (inside : ∀ c ∈ s.points, d.grid.contains c = true) :
      Carried d number line
        (d.withVisits (lined d.description.visits s.color (s.points.zip shapes))) none

theorem carried_of_execute {d : Draft} (hd : d.description.Framed) (number : Nat) (line : Text) :
    d.Carried number line (d.execute number line).state (d.execute number line).fault := by
  unfold execute
  cases h : d.understand line with
  | error e => exact .refused h
  | ok action =>
      simp only
      cases understood_of_understand h with
      | setting hread => exact .setting hread
      | row hstated hin =>
          rw [perform_row hd hin]
          split
          · exact .longRow hstated hin
          · exact .row hstated hin
      | path hstated htraced =>
          rw [perform_path hd htraced]
          exact .path hstated htraced
      | visit hstated hdrawing hin =>
          rw [perform_visit hd hin]
          split
          · next e hshapes => exact .undrawn hshapes
          · next shapes hshapes => exact .drawn hstated hdrawing hshapes hin

/-- A setting states a size, sets a marker, or changes an option. -/
theorem applySetting_cases (d : Draft) (number : Nat) (s : Setting) :
    (∃ height width, s = .size height width) ∨ (∃ m c, s = .marker m c) ∨
      ∃ change, d.applySetting number s = d.mapSettings change := by
  cases s with
  | size height width => exact .inl ⟨height, width, rfl⟩
  | marker m c => exact .inr (.inl ⟨m, c, rfl⟩)
  | chars _ _ more => cases more <;> exact .inr (.inr ⟨_, by rw [applySetting]⟩)
  | ints _ _ more => cases more <;> exact .inr (.inr ⟨_, by rw [applySetting]⟩)
  | _ => exact .inr (.inr ⟨_, by rw [applySetting]⟩)

theorem grid_applySetting {d : Draft} {number : Nat} {s : Setting}
    (h : ∀ height width, s ≠ .size height width) : (d.applySetting number s).grid = d.grid := by
  rcases applySetting_cases d number s with ⟨height, width, rfl⟩ | ⟨m, c, rfl⟩ | ⟨change, heq⟩
  · exact absurd rfl (h height width)
  · cases m <;> rfl
  · rw [heq]
    rfl

/-- A line keeps the sides of the grid unless it states a size. -/
theorem sides_of_carried {d d' : Draft} {number : Nat} {line : Text} {f : Option Fault}
    (hd : d.description.Framed) (h : d.Carried number line d' f) :
    (d'.grid.height = d.grid.height ∧ d'.grid.width = d.grid.width) ∨
      ∃ height width, Setting.read line = .ok (.size height width) ∧
        d' = d.applySetting number (.size height width) := by
  have hsides : ∀ {g : Grid}, g.HasSides d.grid.height d.grid.width →
      (d.withGrid g).grid.height = d.grid.height ∧ (d.withGrid g).grid.width = d.grid.width :=
    fun hg => ⟨hg.height_eq, hg.width_eq⟩
  cases h with
  | refused _ => exact .inl ⟨rfl, rfl⟩
  | setting hread =>
      rename_i s
      by_cases hsize : ∃ height width, s = .size height width
      · obtain ⟨height, width, rfl⟩ := hsize
        exact .inr ⟨height, width, hread, rfl⟩
      · left
        rw [grid_applySetting fun height width heq => hsize ⟨height, width, heq⟩]
        exact ⟨rfl, rfl⟩
  | row _ _ => exact .inl (hsides (Grid.hasSides_withRow hd.hasSides ..))
  | longRow _ _ => exact .inl (hsides (Grid.hasSides_withRow hd.hasSides ..))
  | path _ _ => exact .inl (hsides (Grid.hasSides_opened hd.hasSides _))
  | undrawn _ => exact .inl ⟨rfl, rfl⟩
  | drawn _ _ _ _ => exact .inl ⟨rfl, rfl⟩

/-- Only settings statements set markers. -/
theorem markers_of_carried {d d' : Draft} {number : Nat} {line : Text} {f : Option Fault}
    (h : d.Carried number line d' f) (hline : ∀ s, Setting.read line ≠ .ok s) :
    d'.description.marker = d.description.marker ∧ d'.markerLines = d.markerLines := by
  cases h with
  | refused _ => exact ⟨rfl, rfl⟩
  | setting hread => exact absurd hread (hline _)
  | row _ _ => exact ⟨marker_withGrid .., rfl⟩
  | longRow _ _ => exact ⟨marker_withGrid .., rfl⟩
  | path _ _ => exact ⟨marker_withGrid .., rfl⟩
  | undrawn _ => exact ⟨rfl, rfl⟩
  | drawn _ _ _ _ => exact ⟨by funext m; cases m <;> rfl, rfl⟩

theorem framed_applySetting {d : Draft} (hd : d.description.Framed) (number : Nat) (s : Setting) :
    (d.applySetting number s).description.Framed := by
  rcases applySetting_cases d number s with ⟨height, width, rfl⟩ | ⟨m, c, rfl⟩ | ⟨change, h⟩
  · exact Description.framed_resize ..
  · cases m <;> exact ⟨hd.grid, hd.visits⟩
  · rw [h]
    exact ⟨hd.grid, hd.visits⟩

theorem framed_of_carried {d d' : Draft} {number : Nat} {line : Text} {f : Option Fault}
    (h : d.Carried number line d' f) (hd : d.description.Framed) : d'.description.Framed := by
  cases h with
  | refused _ => exact hd
  | setting _ => exact framed_applySetting hd ..
  | row _ _ => exact hd.grid_changed (Grid.hasSides_withRow hd.hasSides ..)
  | longRow _ _ => exact hd.grid_changed (Grid.hasSides_withRow hd.hasSides ..)
  | path _ _ => exact hd.grid_changed (Grid.hasSides_opened hd.hasSides _)
  | undrawn _ => exact hd
  | drawn _ _ _ _ => exact ⟨hd.grid, hasSides_lined hd.visits ..⟩

end Draft

end Labyrinth
