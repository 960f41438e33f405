import Labyrinth.Proofs.Effects

/-!
# Differences that no line sees

Two drafts may differ in ways that no later line finds out: in what has been visited, in the order
in which the paths were registered, in the lines that set the markers. What is carried out on one
of them is carried out on the other, and they go on to differ in no other way. So whatever is left
of the difference at the end was there from the start.

This is said once, for any relation between tables of visits that drawing lines keeps and any
relation between registries that know the same paths.
-/

namespace Labyrinth

/-- Relations between tables of visits and between registries that the lines of a document keep and
do not look at. -/
structure Unseen (R : Table (Array Visit) → Table (Array Visit) → Prop)
    (S : Registry → Registry → Prop) : Prop where
  refl : ∀ t, R t t
  lined : ∀ {t u}, R t u → ∀ color line, R (lined t color line) (lined u color line)
  find : ∀ {r s}, S r s → ∀ id, s.find? id = r.find? id
  snoc : ∀ {r s}, S r s → ∀ p, S ⟨r.paths ++ [p]⟩ ⟨s.paths ++ [p]⟩

variable {R : Table (Array Visit) → Table (Array Visit) → Prop} {S : Registry → Registry → Prop}

namespace Draft

/-- A draft that differs in the visits and the registry as the relations say, and in the lines that
set the markers. -/
inductive Resembles (R : Table (Array Visit) → Table (Array Visit) → Prop)
    (S : Registry → Registry → Prop) (d : Draft) : Draft → Prop
  | differing {visits : Table (Array Visit)} {paths : Registry} {markerLines : MarkerLines}
      (hvisits : R d.description.visits visits) (hpaths : S d.paths paths) :
      Resembles R S d { d.withVisits visits with paths, markerLines }

variable {d d' e : Draft}

namespace Resembles

theorem grid_eq (h : Resembles R S d d') : d'.grid = d.grid := by
  obtain ⟨-, -⟩ := h
  rfl

theorem marker_eq (h : Resembles R S d d') : d'.description.marker = d.description.marker := by
  obtain ⟨-, -⟩ := h
  funext m
  cases m <;> rfl

theorem agreesFor (hunseen : Unseen R S) (h : Resembles R S d d') (s : Statement) :
    AgreesFor s d d' where
  height := congrArg Table.height h.grid_eq
  width := congrArg Table.width h.grid_eq
  marker := h.marker_eq
  named := by
    obtain ⟨-, hpaths⟩ := h
    intro id p _ hget
    rw [Registry.get_eq_ok_iff] at hget ⊢
    exact (hunseen.find hpaths id).trans hget
  free := by
    obtain ⟨-, hpaths⟩ := h
    intro id _ _ hfree
    rw [Registry.contains_eq_false_iff] at hfree ⊢
    exact (hunseen.find hpaths id).trans hfree

theorem applySetting (hunseen : Unseen R S) (h : Resembles R S d d') (number number' : Nat)
    (s : Setting) : Resembles R S (d.applySetting number s) (d'.applySetting number' s) := by
  obtain ⟨hvisits, hpaths⟩ := h
  cases s with
  | size height width => exact .differing (hunseen.refl _) hpaths
  | marker m c => cases m <;> exact .differing hvisits hpaths
  | chars _ _ more => cases more <;> exact .differing hvisits hpaths
  | ints _ _ more => cases more <;> exact .differing hvisits hpaths
  | _ => exact .differing hvisits hpaths

/-- What a statement does to one of two drafts that resemble each other it does to the other. -/
theorem does (hunseen : Unseen R S) (h : Resembles R S d d') {s : Statement} (hdoes : d.Does s e) :
    ∃ e', d'.Does s e' ∧ Resembles R S e e' := by
  have hagrees := h.agreesFor hunseen s
  have hgrid := h.grid_eq
  cases hdoes with
  | row hin hfits =>
      rw [← hgrid] at hin hfits
      refine ⟨_, .row hin hfits, ?_⟩
      obtain ⟨hvisits, hpaths⟩ := h
      exact .differing hvisits hpaths
  | path htraced =>
      refine ⟨_, .path (hagrees.traces htraced), ?_⟩
      obtain ⟨hvisits, hpaths⟩ := h
      exact .differing hvisits (hunseen.snoc hpaths _)
  | visit hdrawing hresolved hshapes hin =>
      rw [← hgrid] at hin
      refine ⟨_, .visit hdrawing (hagrees.resolve hresolved) hshapes hin, ?_⟩
      obtain ⟨hvisits, hpaths⟩ := h
      exact .differing (hunseen.lined hvisits _ _) hpaths

end Resembles

end Draft

namespace Document

variable {d d' e : Draft}

/-- A line that is carried out on a draft is carried out on one that resembles it. -/
theorem resembles_carryOut (hunseen : Unseen R S) (h : Draft.Resembles R S d d')
    (hd : d.description.Framed) (hd' : d'.description.Framed) {line : Text} {number : Nat}
    (hdone : carryOut d (line, number) = .done e) (number' : Nat) :
    ∃ e', carryOut d' (line, number') = .done e' ∧ Draft.Resembles R S e e' := by
  by_cases hblank : normalized line = []
  · rw [carryOut_of_blank hblank] at hdone ⊢
    cases hdone
    exact ⟨d', rfl, h⟩
  · obtain ⟨action, hunderstood⟩ := exists_understood_of_carryOut hblank hdone
    obtain ⟨s, hstated, hresolved⟩ := Draft.understand_eq_ok hunderstood
    by_cases hs : s.form = .setting
    · cases s with
      | setting s =>
          obtain ⟨s', hread, heq⟩ :=
            Outcome.map_eq_ok.1 (Statement.ofLine?_eq_some_iff.1 hstated).2
          cases heq
          rw [carryOut_of_setting hread] at hdone ⊢
          cases hdone
          exact ⟨_, rfl, h.applySetting hunseen number number' s⟩
      | _ => cases hs
    · obtain ⟨hsize, hdoes⟩ := (carryOut_eq_done_iff_does hd hstated hs).1 hdone
      obtain ⟨e', hdoes', he⟩ := h.does hunseen hdoes
      rw [← h.grid_eq] at hsize
      exact ⟨e', (carryOut_eq_done_iff_does hd' hstated hs).2 ⟨hsize, hdoes'⟩, he⟩

/-- So are all lines after it, under whatever numbers. -/
theorem resembles_each (hunseen : Unseen R S) {lines : List Text} (h : Draft.Resembles R S d d')
    (hd : d.description.Framed) (hd' : d'.description.Framed) {number : Nat}
    (hdone : Attempt.each carryOut d (lines.zipIdx number) = .done e) (number' : Nat) :
    ∃ e', Attempt.each carryOut d' (lines.zipIdx number') = .done e' ∧
      Draft.Resembles R S e e' := by
  induction lines generalizing d d' number number' with
  | nil =>
      cases hdone
      exact ⟨d', rfl, h⟩
  | cons line lines ih =>
      rw [List.zipIdx_cons, Attempt.each_cons_eq_done] at hdone
      obtain ⟨m, hline, hrest⟩ := hdone
      obtain ⟨m', hline', hm⟩ := resembles_carryOut hunseen h hd hd' hline number'
      obtain ⟨e', hrest', he⟩ :=
        ih hm (framed_of_carryOut hd hline) (framed_of_carryOut hd' hline') hrest (number' + 1)
      refine ⟨e', ?_, he⟩
      rw [List.zipIdx_cons, Attempt.each_cons_eq_done]
      exact ⟨m', hline', hrest'⟩

theorem resembles_finish (h : Draft.Resembles R S d d') (hd : d.description.Framed)
    (hd' : d'.description.Framed) (hdone : finish d = .done e) :
    ∃ e', finish d' = .done e' ∧ Draft.Resembles R S e e' := by
  have hcases := finish_cases hd'
  rw [h.grid_eq, h.marker_eq] at hcases
  rcases finish_cases hd with ⟨hzero, hend⟩ | ⟨hsize, hin, hend⟩ | ⟨-, m, c, -, -, hend⟩
  · rw [hend] at hdone
    cases hdone
    rcases hcases with ⟨-, hend'⟩ | ⟨hsize, -⟩ | ⟨hsize, -⟩
    · exact ⟨d', hend', h⟩
    · exact absurd hzero hsize
    · exact absurd hzero hsize
  · rw [hend] at hdone
    cases hdone
    rcases hcases with ⟨hzero, -⟩ | ⟨-, -, hend'⟩ | ⟨-, m, c, hm, hc, -⟩
    · exact absurd hzero hsize
    · have hopenings : openings d' = openings d := by rw [openings, openings, h.marker_eq]
      rw [hopenings] at hend'
      obtain ⟨hvisits, hpaths⟩ := h
      exact ⟨_, hend', .differing hvisits hpaths⟩
    · rw [hin m c hm] at hc
      cases hc
  · rw [hend] at hdone
    cases hdone

/-- A document that goes on from a draft to its end goes on from one that resembles it. -/
theorem resembles_end (hunseen : Unseen R S) {lines : List Text} (h : Draft.Resembles R S d d')
    (hd : d.description.Framed) (hd' : d'.description.Framed) {number : Nat} {m : Draft}
    (hdone : Attempt.each carryOut d (lines.zipIdx number) = .done m) (hend : finish m = .done e)
    (number' : Nat) :
    ∃ m' e', Attempt.each carryOut d' (lines.zipIdx number') = .done m' ∧ finish m' = .done e' ∧
      Draft.Resembles R S e e' := by
  obtain ⟨m', hdone', hm⟩ := resembles_each hunseen h hd hd' hdone number'
  obtain ⟨e', hend', he⟩ :=
    resembles_finish hm (framed_of_each hd hdone) (framed_of_each hd' hdone') hend
  exact ⟨m', e', hdone', hend', he⟩

end Document

end Labyrinth
