import Labyrinth.Document
import Labyrinth.Proofs.Drafts

/-!
# Documents from line to line

A document is a loop over its lines and an end. The end has three outcomes, which
`finish_cases` lists, and a property that every line and the end preserve holds of
every draft that is reached, `Reached.invariant`. A line that fails counts: the
draft it leaves behind is reached like any other.
-/

namespace Labyrinth

namespace Document

theorem carryOut_of_blank {d : Draft} {entry : Text × Nat} (h : normalized entry.1 = []) :
    carryOut d entry = .done d := by
  simp only [carryOut, h, List.isEmpty_nil, if_true]

theorem carryOut_of_statement {d : Draft} {entry : Text × Nat} (h : normalized entry.1 ≠ []) :
    carryOut d entry =
      (d.execute entry.2 (normalized entry.1)).mapFault fun e => ⟨entry.2, e⟩ := by
  simp only [carryOut, List.isEmpty_iff, if_neg h]

theorem carryOut_of_understand {d : Draft} {line : Text} {action : Action}
    (h : d.understand (normalized line) = .ok action) (number : Nat) :
    carryOut d (line, number) = (d.perform number action).mapFault fun e => ⟨number, e⟩ := by
  have hwritten : normalized line ≠ [] := by
    intro hblank
    rw [hblank] at h
    cases h
  rw [carryOut_of_statement hwritten, Draft.execute, h]

/-- A line that is not blank is carried out only if it is understood. -/
theorem exists_understood_of_carryOut {d e : Draft} {line : Text} {number : Nat}
    (hwritten : normalized line ≠ []) (h : carryOut d (line, number) = .done e) :
    ∃ action, d.understand (normalized line) = .ok action := by
  rw [carryOut_of_statement hwritten, Draft.execute] at h
  cases hunderstood : d.understand (normalized line) with
  | error fault =>
      rw [hunderstood] at h
      cases h
  | ok action => exact ⟨action, rfl⟩

/-- What holds of a draft, and of whatever the line can make of it, holds after the line. -/
theorem state_carryOut {P : Draft → Prop} {d : Draft} {entry : Text × Nat}
    (hframed : d.description.Framed) (hd : P d)
    (h : ∀ d' f, d.Carried entry.2 (normalized entry.1) d' f → P d') :
    P (carryOut d entry).state := by
  by_cases hblank : normalized entry.1 = []
  · rw [carryOut_of_blank hblank]
    exact hd
  · rw [carryOut_of_statement hblank]
    exact h _ _ (Draft.carried_of_execute hframed entry.2 (normalized entry.1))

/-- A line that is carried out is blank, or it did what it states. -/
theorem carryOut_eq_done {d e : Draft} (hd : d.description.Framed) {entry : Text × Nat}
    (h : carryOut d entry = .done e) :
    normalized entry.1 = [] ∧ e = d ∨ d.Carried entry.2 (normalized entry.1) e none := by
  by_cases hblank : normalized entry.1 = []
  · rw [carryOut_of_blank hblank] at h
    cases h
    exact .inl ⟨hblank, rfl⟩
  · rw [carryOut_of_statement hblank, Attempt.eq_done_iff] at h
    have hcarried := Draft.carried_of_execute hd entry.2 (normalized entry.1)
    have hstate : (d.execute entry.2 (normalized entry.1)).state = e := h.1
    have hfault : (d.execute entry.2 (normalized entry.1)).fault = none :=
      Option.map_eq_none_iff.1 h.2
    rw [hstate, hfault] at hcarried
    exact .inr hcarried

theorem framed_carryOut {d : Draft} (hd : d.description.Framed) (entry : Text × Nat) :
    (carryOut d entry).state.description.Framed :=
  state_carryOut (P := fun d => d.description.Framed) hd hd
    fun _ _ h => Draft.framed_of_carried h hd

theorem framed_of_carryOut {d e : Draft} {entry : Text × Nat} (hd : d.description.Framed)
    (h : carryOut d entry = .done e) : e.description.Framed := by
  have hframed := framed_carryOut hd entry
  rw [h] at hframed
  exact hframed

theorem framed_of_each {d e : Draft} {entries : List (Text × Nat)} (hd : d.description.Framed)
    (h : Attempt.each carryOut d entries = .done e) : e.description.Framed :=
  Attempt.of_each_eq_done (P := fun d : Draft => d.description.Framed)
    (fun _ _ hdone hd => framed_of_carryOut hd hdone) h hd

/-- The points that are opened at the end. -/
def openings (d : Draft) : List Coordinate :=
  [Marker.entrance, Marker.exit].filterMap d.description.marker

theorem mem_openings {d : Draft} {c : Coordinate} :
    c ∈ openings d ↔ d.description.entrance = some c ∨ d.description.exit = some c := by
  simp only [openings, List.mem_filterMap, List.mem_cons, List.not_mem_nil, or_false,
    exists_eq_or_imp, exists_eq_left]
  rfl

/-- Opening the markers of a draft opens entrance and exit and no other cell. -/
theorem cell?_openings {d : Draft}
    (hin : ∀ m c, d.description.marker m = some c → d.grid.contains c = true) (row col : Nat) :
    (d.grid.opened (openings d)).cell? row col =
      if d.description.entrance = some ⟨row, col⟩ ∨ d.description.exit = some ⟨row, col⟩ then
        (d.grid.cell? row col).map fun _ => .path
      else d.grid.cell? row col := by
  have hopenings : ∀ c ∈ openings d, d.grid.contains c = true := by
    intro c hc
    rcases mem_openings.1 hc with hc | hc
    · exact hin .entrance c hc
    · exact hin .exit c hc
  rw [Grid.cell?_opened hopenings]
  simp only [mem_openings]

theorem checkMarker_cases (d : Draft) (m : Marker) :
    (∀ c, d.description.marker m = some c → d.grid.contains c = true) ∧
        checkMarker d m = .done d ∨
      ∃ c, d.description.marker m = some c ∧ d.grid.contains c = false ∧
        checkMarker d m = .failed d
          ⟨d.markerLines.get m, .reason (.markerOutside m c d.grid.height d.grid.width)⟩ := by
  unfold checkMarker
  cases hm : d.description.marker m with
  | none =>
      refine .inl ⟨fun c hc => ?_, rfl⟩
      cases hc
  | some c =>
      simp only
      split
      · next hc =>
          refine .inl ⟨fun c' hc' => ?_, rfl⟩
          rw [← Option.some.inj hc']
          exact hc
      · next hc => exact .inr ⟨c, rfl, Bool.eq_false_iff.2 hc, rfl⟩

theorem each_checkMarker (d : Draft) (markers : List Marker) :
    (∀ m ∈ markers, ∀ c, d.description.marker m = some c → d.grid.contains c = true) ∧
        Attempt.each checkMarker d markers = .done d ∨
      ∃ m c, d.description.marker m = some c ∧ d.grid.contains c = false ∧
        Attempt.each checkMarker d markers = .failed d
          ⟨d.markerLines.get m, .reason (.markerOutside m c d.grid.height d.grid.width)⟩ := by
  induction markers with
  | nil => exact .inl ⟨fun m hm => absurd hm List.not_mem_nil, rfl⟩
  | cons m markers ih =>
      unfold Attempt.each
      rcases checkMarker_cases d m with ⟨hin, hdone⟩ | ⟨c, hm, hc, hfailed⟩
      · rw [hdone]
        rcases ih with ⟨hall, heach⟩ | ⟨m', c', hm', hc', heach⟩
        · refine .inl ⟨fun m' hm' => ?_, heach⟩
          rcases List.mem_cons.1 hm' with rfl | hm'
          · exact hin
          · exact hall m' hm'
        · exact .inr ⟨m', c', hm', hc', heach⟩
      · rw [hfailed]
        exact .inr ⟨m, c, hm, hc, rfl⟩

theorem each_openMarker {d : Draft} {markers : List Marker} (hd : d.description.Framed)
    (hin : ∀ m ∈ markers, ∀ c, d.description.marker m = some c → d.grid.contains c = true) :
    Attempt.each openMarker d markers =
      .done (d.withGrid (d.grid.opened (markers.filterMap d.description.marker))) := by
  induction markers generalizing d with
  | nil => rfl
  | cons m markers ih =>
      have hrest := fun m' hm' => hin m' (List.mem_cons_of_mem m hm')
      unfold Attempt.each openMarker
      cases hm : d.description.marker m with
      | none =>
          rw [List.filterMap_cons_none hm]
          exact ih hd hrest
      | some c =>
          have hc := hin m List.mem_cons_self c hm
          have hsides : (d.grid.opened [c]).HasSides d.grid.height d.grid.width :=
            Grid.hasSides_opened hd.hasSides _
          have hnext := ih (d := d.withGrid (d.grid.opened [c])) (hd.grid_changed hsides)
            fun m' hm' c' hc' => hsides.contains_congr hd.hasSides
              (hrest m' hm' c' (by cases m' <;> exact hc'))
          rw [Draft.marker_withGrid] at hnext
          -- Opening a cell keeps the sides, so the other markers stay inside.
          rw [List.filterMap_cons_some hm]
          simp only [Draft.writing, Draft.writeCell_eq_done hd.grid hc]
          exact hnext

/-- The three ends of a document whose lines have all been carried out. -/
theorem finish_cases {d : Draft} (hd : d.description.Framed) :
    d.grid.height = 0 ∧ finish d = .done d ∨
      d.grid.height ≠ 0 ∧
        (∀ m c, d.description.marker m = some c → d.grid.contains c = true) ∧
        finish d = .done (d.withGrid (d.grid.opened (openings d))) ∨
      d.grid.height ≠ 0 ∧ ∃ m c, d.description.marker m = some c ∧ d.grid.contains c = false ∧
        finish d = .failed d
          ⟨d.markerLines.get m, .reason (.markerOutside m c d.grid.height d.grid.width)⟩ := by
  unfold finish
  by_cases hsize : d.grid.height = 0
  · exact .inl ⟨hsize, if_pos hsize⟩
  · right
    rw [if_neg hsize]
    rcases each_checkMarker d Marker.all with ⟨hin, hdone⟩ | ⟨m, c, hm, hc, hfailed⟩
    · have hall : ∀ m c, d.description.marker m = some c → d.grid.contains c = true := by
        intro m
        exact hin m (by cases m <;> simp [Marker.all])
      refine .inl ⟨hsize, hall, ?_⟩
      rw [hdone]
      exact each_openMarker hd fun m _ => hall m
    · refine .inr ⟨hsize, m, c, hm, hc, ?_⟩
      rw [hfailed]
      rfl

/-- A document with a grid that ends well has its markers inside, and their cells opened. -/
theorem finish_eq_done {e d : Draft} (hframed : e.description.Framed) (h : finish e = .done d)
    (hsize : 0 < d.grid.height) :
    (∀ m c, e.description.marker m = some c → e.grid.contains c = true) ∧
      d = e.withGrid (e.grid.opened (openings e)) := by
  rcases finish_cases hframed with ⟨hzero, hend⟩ | ⟨-, hin, hend⟩ | ⟨-, m, c, -, -, hend⟩
  · rw [hend] at h
    cases h
    omega
  · rw [hend] at h
    cases h
    exact ⟨hin, rfl⟩
  · rw [hend] at h
    cases h

/-- The end changes the grid and nothing else, and keeps its sides. -/
theorem exists_withGrid_of_finish {e d : Draft} (hframed : e.description.Framed)
    (h : finish e = .done d) :
    ∃ g : Grid, g.HasSides e.grid.height e.grid.width ∧ d = e.withGrid g := by
  rcases finish_cases hframed with ⟨-, hend⟩ | ⟨-, -, hend⟩ | ⟨-, m, c, -, -, hend⟩
  · rw [hend] at h
    cases h
    exact ⟨_, hframed.hasSides, rfl⟩
  · rw [hend] at h
    cases h
    exact ⟨_, Grid.hasSides_opened hframed.hasSides _, rfl⟩
  · rw [hend] at h
    cases h

theorem height_of_finish {e d : Draft} (hframed : e.description.Framed) (h : finish e = .done d) :
    d.grid.height = e.grid.height := by
  obtain ⟨g, hg, rfl⟩ := exists_withGrid_of_finish hframed h
  exact hg.height_eq

/-- A document without lines, one with a bad header, and one whose lines are carried out. -/
theorem compileLines_cases (lines : List Text) :
    lines = [] ∧ compileLines lines = .failed {} ⟨1, .reason .missingVersion⟩ ∨
      (∃ header rest r, lines = header :: rest ∧ checkHeader header = .error r ∧
        compileLines lines = .failed {} ⟨1, .reason r⟩) ∨
      ∃ header rest, lines = header :: rest ∧ checkHeader header = .ok () ∧
        compileLines lines = (Attempt.each carryOut {} (numbered rest)).andThen finish := by
  cases lines with
  | nil => exact .inl ⟨rfl, rfl⟩
  | cons header rest =>
      right
      cases hheader : checkHeader header with
      | error r => exact .inl ⟨header, rest, r, rfl, hheader, by simp only [compileLines, hheader]⟩
      | ok _ => exact .inr ⟨header, rest, rfl, hheader, by simp only [compileLines, hheader]⟩

theorem compileLines_eq_done {lines : List Text} {d : Draft} :
    compileLines lines = .done d ↔ ∃ header rest e, lines = header :: rest ∧
      checkHeader header = .ok () ∧ Attempt.each carryOut {} (numbered rest) = .done e ∧
      finish e = .done d := by
  constructor
  · intro h
    rcases compileLines_cases lines with
      ⟨-, hend⟩ | ⟨header, rest, r, -, -, hend⟩ | ⟨header, rest, hlines, hheader, hend⟩
    · rw [hend] at h
      cases h
    · rw [hend] at h
      cases h
    · rw [hend] at h
      obtain ⟨e, he, hend⟩ := Attempt.andThen_eq_done.1 h
      exact ⟨header, rest, e, hlines, hheader, he, hend⟩
  · rintro ⟨header, rest, e, rfl, hheader, he, hend⟩
    simp only [compileLines, hheader]
    exact Attempt.andThen_eq_done.2 ⟨e, he, hend⟩

/-- The lines that are carried out one by one: those behind a good header. -/
def body : List Text → List Text
  | [] => []
  | header :: rest =>
    match checkHeader header with
    | .error _ => []
    | .ok () => rest

theorem body_of_header {header : Text} (h : checkHeader header = .ok ()) (rest : List Text) :
    body (header :: rest) = rest := by
  rw [body, h]

theorem body_of_badHeader {header : Text} {r : Reason} (h : checkHeader header = .error r)
    (rest : List Text) : body (header :: rest) = [] := by
  rw [body, h]

/-- What the lines of a document leave of the draft before the end. -/
def afterLines (lines : List Text) : Draft :=
  (Attempt.each carryOut {} (numbered (body lines))).state

theorem framed_each (entries : List (Text × Nat)) :
    (Attempt.each carryOut {} entries).state.description.Framed :=
  Attempt.state_each (P := fun d : Draft => d.description.Framed)
    (fun _ entry _ hd => framed_carryOut hd entry) Description.framed_empty

/-- The end opens entrance and exit, or it changes nothing. -/
theorem state_compileLines (lines : List Text) :
    (compileLines lines).state = afterLines lines ∨
      (compileLines lines).state = (afterLines lines).withGrid
        ((afterLines lines).grid.opened (openings (afterLines lines))) := by
  unfold afterLines
  rcases compileLines_cases lines with
    ⟨rfl, h⟩ | ⟨header, rest, r, rfl, hheader, h⟩ | ⟨header, rest, rfl, hheader, h⟩
  · rw [h]
    exact .inl rfl
  · rw [h, body_of_badHeader hheader]
    exact .inl rfl
  · rw [h, body_of_header hheader]
    rcases Attempt.andThen_cases (Attempt.each carryOut {} (numbered rest)) finish with
      ⟨-, h⟩ | ⟨-, -, h⟩
    · rw [h]
      rcases finish_cases (framed_each (numbered rest)) with ⟨-, h⟩ | ⟨-, -, h⟩ | ⟨-, m, c, -, -, h⟩
      · rw [h]
        exact .inl rfl
      · rw [h]
        exact .inr rfl
      · rw [h]
        exact .inl rfl
    · rw [h]
      exact .inl rfl

/-- The drafts that a compilation reaches: after any lines behind the header, also if the last of
them failed, and at its end. -/
inductive Reached : Draft → Prop
  | lines (rest : List Text) : Reached (Attempt.each carryOut {} (numbered rest)).state
  | ended (lines : List Text) : Reached (compileLines lines).state

/-- What holds of the empty draft, survives every line and survives the end holds of every draft
that is reached. -/
theorem Reached.induction {P : Draft → Prop} (hempty : P {})
    (hline : ∀ {d : Draft} (entry : Text × Nat), d.description.Framed → P d →
      P (carryOut d entry).state)
    (hend : ∀ {d : Draft}, d.description.Framed → P d →
      P (d.withGrid (d.grid.opened (openings d)))) {d : Draft}
    (h : Reached d) : P d ∧ d.description.Framed := by
  have hlines : ∀ entries, P (Attempt.each carryOut {} entries).state ∧
      (Attempt.each carryOut {} entries).state.description.Framed := by
    intro entries
    refine Attempt.state_each (P := fun d => P d ∧ d.description.Framed) (fun d entry _ hd => ?_)
      ⟨hempty, Description.framed_empty⟩
    exact ⟨hline entry hd.2 hd.1, framed_carryOut hd.2 entry⟩
  cases h with
  | lines rest => exact hlines _
  | ended lines =>
      have hd := hlines (numbered (body lines))
      rcases state_compileLines lines with h | h
      · rw [h]
        exact hd
      · rw [h]
        exact ⟨hend hd.2 hd.1, hd.2.grid_changed (Grid.hasSides_opened hd.2.hasSides _)⟩

/-- The same for what survives because of what a line can make of a draft. -/
theorem Reached.invariant {P : Draft → Prop} (hempty : P {})
    (hline : ∀ {d d' : Draft} {number : Nat} {line : Text} {f : Option Fault},
      d.description.Framed → d.Carried number line d' f → P d → P d')
    (hend : ∀ {d : Draft}, d.description.Framed → P d →
      P (d.withGrid (d.grid.opened (openings d)))) {d : Draft}
    (h : Reached d) : P d ∧ d.description.Framed :=
  h.induction hempty
    (fun _ hframed hd => state_carryOut hframed hd fun _ _ hcarried => hline hframed hcarried hd)
    hend

theorem Reached.framed {d : Draft} (h : Reached d) : d.description.Framed :=
  (h.invariant (P := fun _ => True) trivial (fun _ _ _ => trivial) fun _ _ => trivial).2

/-- The lines before a line, the line, and the lines after it. -/
theorem each_numbered_split {before after : List Text} {line : Text} {d : Draft} :
    Attempt.each carryOut {} (numbered (before ++ line :: after)) = .done d ↔
      ∃ b e, Attempt.each carryOut {} (numbered before) = .done b ∧
        carryOut b (line, before.length + 2) = .done e ∧
        Attempt.each carryOut e (after.zipIdx (before.length + 3)) = .done d := by
  rw [numbered, List.zipIdx_append, List.zipIdx_cons, Attempt.each_append, Attempt.andThen_eq_done]
  simp only [Attempt.each_cons_eq_done, exists_and_left, Nat.add_comm 2]
  exact Iff.rfl

theorem reached_of_compile {text : Text} {d : Draft} (h : compile text = .done d) : Reached d := by
  have hreached := Reached.ended (Text.lines text)
  rw [← compile, h] at hreached
  exact hreached

theorem reached_of_done {rest : List Text} {d : Draft}
    (h : Attempt.each carryOut {} (numbered rest) = .done d) : Reached d := by
  have hreached := Reached.lines rest
  rw [h] at hreached
  exact hreached

end Document

end Labyrinth
