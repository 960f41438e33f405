import Labyrinth.Proofs.History
import Labyrinth.Proofs.Origins

/-!
# What a statement looks up and what it does

Before a statement acts on the grid it is resolved, and for that it looks few things up: the sides
of the grid, the markers, the path that it names, and whether its own number is free. On every
draft that agrees in these it resolves to the same action, whatever the cells are and whatever has
been visited. `AgreesFor` says that one draft agrees with another as far as a statement can see.

What it does then is one of three things, which `Does` lists. A row and a path change the grid, a
path is registered besides, and a range or a chain changes the visits. A line that states no
setting is carried out exactly if there is a grid and its statement does one of them.
-/

namespace Labyrinth

/-! ## Registries -/

namespace Registry

variable {r s : Registry}

/-- What a registry refers to is what any other refers to that knows the same path. -/
theorem resolve_congr {id offset : Int} {current : Option Int} {c : Coordinate}
    (hget : ∀ p, r.get id = .ok p → s.get id = .ok p) (h : r.resolve id offset current = .ok c) :
    s.resolve id offset current = .ok c := by
  unfold resolve at h ⊢
  split at h
  · cases h
  · next hself =>
      rw [if_neg hself]
      cases hp : r.get id with
      | error e =>
          rw [hp] at h
          cases h
      | ok p =>
          rw [hp] at h
          rw [hget p hp]
          exact h

theorem contains_eq_false_iff {id : Int} : r.contains id = false ↔ r.find? id = none := by
  rw [contains, Option.isSome_eq_false_iff, Option.isNone_iff_eq_none]

theorem find?_snoc (r : Registry) (p : Path) (id : Int) :
    (⟨r.paths ++ [p]⟩ : Registry).find? id =
      (r.find? id).or (if p.id = id then some p else none) := by
  rw [find?, List.find?_append, List.find?_singleton]
  simp only [decide_eq_true_eq]
  rfl

/-- A registered path is found under its own number and under no other. -/
theorem get_of_get_snoc {p q : Path} {id : Int} (hne : p.id ≠ id)
    (h : (⟨r.paths ++ [p]⟩ : Registry).get id = .ok q) : r.get id = .ok q := by
  rw [get_eq_ok_iff, find?_snoc, if_neg hne, Option.or_none] at h
  exact get_eq_ok_iff.2 h

theorem contains_snoc {p : Path} {id : Int} :
    (⟨r.paths ++ [p]⟩ : Registry).contains id = false ↔ r.contains id = false ∧ p.id ≠ id := by
  rw [contains_eq_false_iff, contains_eq_false_iff, find?_snoc, Option.or_eq_none_iff]
  exact and_congr_right fun _ => by rw [ite_eq_right_iff]; simp

end Registry

/-! ## Looking up -/

namespace Statement

/-- The number of another path that a statement refers to, because the path starts there or
because its moves have been visited. -/
def Names : Statement → Int → Prop
  | .path id body, other => ∃ (k offset : Nat) (clause : Text),
      Origin.read id body = .ok (.along k offset, clause) ∧ other = k
  | .range id _ _ _, other => other = id
  | _, _ => False

end Statement

namespace Draft

variable {d d' e : Draft} {s : Statement} {action : Action}

/-- What the statement looks up in the first draft is the same in the second. -/
structure AgreesFor (s : Statement) (d d' : Draft) : Prop where
  height : d'.grid.height = d.grid.height
  width : d'.grid.width = d.grid.width
  marker : d'.description.marker = d.description.marker
  named : ∀ id p, s.Names id → d.paths.get id = .ok p → d'.paths.get id = .ok p
  free : ∀ id body, s = .path id body → d.paths.contains id = false → d'.paths.contains id = false

namespace AgreesFor

theorem contains_eq (h : AgreesFor s d d') (c : Coordinate) :
    d'.grid.contains c = d.grid.contains c := by
  rw [Table.contains, Table.contains, h.height, h.width]

theorem repeatLimit_eq (h : AgreesFor s d d') : d'.repeatLimit = d.repeatLimit := by
  rw [repeatLimit, repeatLimit, h.height, h.width]

theorem checkChain_eq (h : AgreesFor s d d') (previous : Option Coordinate)
    (points : List Coordinate) : d'.checkChain previous points = d.checkChain previous points := by
  induction points generalizing previous with
  | nil => rfl
  | cons c points ih => simp only [checkChain, h.contains_eq, h.height, h.width, ih]

theorem traces {id : Nat} {body : Text} {p : Path} {points : List Coordinate}
    (h : AgreesFor (.path id body) d d') (hp : d.Traces id body p points) :
    d'.Traces id body p points := by
  obtain ⟨origin, clause, hread, hlocate, hparse⟩ := hp.origin
  refine ⟨hp.id_eq, ?_, hp.walked, fun c hc => ?_, origin, clause, hread, ?_, ?_⟩
  · have hfree := hp.free
    rw [hp.id_eq] at hfree ⊢
    exact h.free id body rfl hfree
  · rw [h.contains_eq]
    exact hp.inside c hc
  · cases origin with
    | marker m =>
        simp only [locate, h.marker]
        exact hlocate
    | point c => exact hlocate
    | along other offset =>
        have hresolved := Outcome.mapError_eq_ok.1 hlocate
        exact Outcome.mapError_eq_ok.2 (Registry.resolve_congr
          (fun q hq => h.named other q ⟨other, offset, clause, hread, rfl⟩ hq) hresolved)
  · rw [h.repeatLimit_eq]
    exact hparse

theorem ranges {id first last : Int} {color : Color} {points : List Coordinate}
    (h : AgreesFor (.range id first last color) d d') (hp : d.Ranges id first last points) :
    d'.Ranges id first last points := by
  have hget : ∀ p, d.paths.get id = .ok p → d'.paths.get id = .ok p := fun p => h.named id p rfl
  obtain ⟨⟨p, hp₁, hfits⟩, ⟨trajectory, htrajectory, hcut⟩, hlong, hin⟩ := hp
  refine ⟨⟨p, hget p hp₁, hfits⟩, ⟨trajectory, Registry.trajectory_congr hget htrajectory, hcut⟩,
    hlong, fun c hc => ?_⟩
  rw [h.contains_eq]
  exact hin c hc

open Outcome in
/-- A statement resolves to the same action where all that it looks up is the same. -/
theorem resolve (h : AgreesFor s d d') (hresolved : d.resolve s = .ok action) :
    d'.resolve s = .ok action := by
  cases s with
  | setting s => exact hresolved
  | row index cells =>
      rw [Draft.resolve] at hresolved ⊢
      rw [h.height]
      split at hresolved
      · next hin =>
          rw [if_pos hin]
          exact hresolved
      · cases hresolved
  | path id body =>
      obtain ⟨p, points, rfl, htraced⟩ := resolvePath_eq_ok hresolved
      exact resolvePath_of_traces (h.traces htraced)
  | range id first last color =>
      obtain ⟨points, rfl, hranges⟩ := resolveRange_eq_ok_iff.1 (mapError_eq_ok.1 hresolved)
      exact mapError_eq_ok.2 (resolveRange_eq_ok_iff.2 ⟨points, rfl, h.ranges hranges⟩)
  | chain color points =>
      simp only [Draft.resolve, h.checkChain_eq] at hresolved ⊢
      exact hresolved

end AgreesFor

/-! ## Acting -/

/-- What a statement on the grid does to a draft when it is carried out. -/
inductive Does (d : Draft) : Statement → Draft → Prop
  | row {index : Nat} {cells : Text} (inside : index < d.grid.height)
      (fits : hasCode (cells.drop d.grid.width) = false) :
      Does d (.row index cells)
        (d.withGrid (d.grid.withRow index (cells.take d.grid.width).zipIdx))
  | path {id : Nat} {body : Text} {p : Path} {points : List Coordinate}
      (traced : d.Traces id body p points) :
      Does d (.path id body)
        { d.withGrid (d.grid.opened points) with paths := ⟨d.paths.paths ++ [p]⟩ }
  | visit {statement : Statement} {s : Segment} {shapes : List Shape}
      (drawing : statement.form = .range ∨ statement.form = .chain)
      (resolved : d.resolve statement = .ok (.visit s)) (shaped : Line.shapes s.points = .ok shapes)
      (inside : ∀ c ∈ s.points, d.grid.contains c = true) :
      Does d statement (d.withVisits (lined d.description.visits s.color (s.points.zip shapes)))

theorem height_ne_zero_of_understand {line : Text} (h : d.understand line = .ok action)
    (hstated : Statement.ofLine? line = some s) (hs : s.form ≠ .setting) :
    d.grid.height ≠ 0 := by
  intro hzero
  obtain ⟨hform, -⟩ := Statement.ofLine?_eq_some_iff.1 hstated
  unfold understand at h
  rw [hform] at h
  cases s with
  | setting _ => exact hs rfl
  | _ =>
      simp only [Statement.form, Form.subject?, hzero, if_true] at h
      cases h

/-- What a statement is resolved to and performed as is what it does. -/
theorem does_iff (hd : d.description.Framed) (hs : s.form ≠ .setting) (number : Nat) :
    (∃ action, d.resolve s = .ok action ∧ d.perform number action = .done e) ↔ d.Does s e := by
  constructor
  · rintro ⟨action, hresolved, hdone⟩
    have hvisit : s.form = .range ∨ s.form = .chain → d.Does s e := by
      intro hdrawing
      obtain ⟨segment, -, rfl, hin⟩ := exists_segment_of_resolve hresolved hdrawing
      rw [perform_visit hd hin] at hdone
      split at hdone
      · cases hdone
      · next shapes hshapes =>
          cases hdone
          exact .visit hdrawing hresolved hshapes hin
    cases s with
    | setting _ => exact absurd rfl hs
    | row index cells =>
        rw [resolve] at hresolved
        split at hresolved
        · next hin =>
            cases hresolved
            rw [perform_row hd hin, Attempt.eq_done_iff] at hdone
            obtain ⟨rfl, hfault⟩ := hdone
            exact .row hin (by simpa using hfault)
        · cases hresolved
    | path id body =>
        obtain ⟨p, points, rfl, htraced⟩ := resolvePath_eq_ok hresolved
        rw [perform_path hd htraced] at hdone
        cases hdone
        exact .path htraced
    | range _ _ _ _ => exact hvisit (.inl rfl)
    | chain _ _ => exact hvisit (.inr rfl)
  · intro h
    cases h with
    | row hin hfits =>
        refine ⟨_, if_pos hin, ?_⟩
        rw [perform_row hd hin, hfits]
        rfl
    | path htraced => exact ⟨_, resolvePath_of_traces htraced, perform_path hd htraced number⟩
    | visit _ hresolved hshapes hin =>
        refine ⟨_, hresolved, ?_⟩
        rw [perform_visit hd hin, hshapes]

theorem Does.framed (h : d.Does s e) (hd : d.description.Framed) : e.description.Framed := by
  cases h with
  | row _ _ => exact hd.grid_changed (Grid.hasSides_withRow hd.hasSides ..)
  | path _ => exact hd.grid_changed (Grid.hasSides_opened hd.hasSides _)
  | visit _ _ _ _ => exact ⟨hd.grid, hasSides_lined hd.visits ..⟩

end Draft

namespace Document

/-- A line that states no setting is carried out if there is a grid and its statement can be
done. -/
theorem carryOut_eq_done_iff_does {d e : Draft} (hd : d.description.Framed) {line : Text}
    {s : Statement} (hstated : Statement.ofLine? (normalized line) = some s)
    (hs : s.form ≠ .setting) {number : Nat} :
    carryOut d (line, number) = .done e ↔ d.grid.height ≠ 0 ∧ d.Does s e := by
  constructor
  · intro h
    have hwritten : normalized line ≠ [] := by
      intro hblank
      rw [hblank] at hstated
      cases hstated
    obtain ⟨action, hunderstood⟩ := exists_understood_of_carryOut hwritten h
    obtain ⟨s', hstated', hresolved⟩ := Draft.understand_eq_ok hunderstood
    obtain rfl : s = s' := Option.some.inj (hstated.symm.trans hstated')
    rw [carryOut_of_understand hunderstood, Attempt.mapFault_eq_done] at h
    exact ⟨Draft.height_ne_zero_of_understand hunderstood hstated hs,
      (Draft.does_iff hd hs number).1 ⟨action, hresolved, h⟩⟩
  · rintro ⟨hsize, hdoes⟩
    obtain ⟨action, hresolved, hdone⟩ := (Draft.does_iff hd hs number).2 hdoes
    have hunderstood : d.understand (normalized line) = .ok action := by
      rw [Draft.understand_of_stated hstated hsize, hresolved]
    rw [carryOut_of_understand hunderstood, Attempt.mapFault_eq_done]
    exact hdone

end Document

end Labyrinth
