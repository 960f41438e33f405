import Mathlib.Data.List.Induction
import Labyrinth.Proofs.Refusals

/-!
# What a report says is true

A compilation that fails reports one line and one reason. Three kinds of lines are
reported: the header, the first line that could not be carried out, and the last
line that set a marker which turned out to lie outside. `Blamed` says for each of
the three what must be true of the document for the report to be right.

For the third kind the draft has to be right about the lines it remembers. That is
an induction over the lines from the front, so it goes along `rest ++ [line]`.
-/

namespace Labyrinth

theorem Kind.description_mem_ancestors {k : Kind} (h : k ≠ .description) :
    Kind.description ∈ k.ancestors := by
  cases k with
  | description => exact absurd rfl h
  | _ => decide

theorem Reason.kind_ne_description (r : Reason) : r.kind ≠ .description := by
  cases r with
  | registry e => cases e <;> exact fun h => nomatch h
  | _ => exact fun h => nomatch h

namespace Document

/-- What must be true of the lines of a document if a line is reported for a reason. -/
inductive Blamed : List Text → Nat → Reason → Prop
  | empty : Blamed [] 1 .missingVersion
  | header {header : Text} {rest : List Text} {r : Reason}
      (refused : checkHeader header = .error r) : Blamed (header :: rest) 1 r
  /-- Everything before the line was carried out, and the line was not. -/
  | statement {header line : Text} {before after : List Text} {d : Draft} {r : Reason}
      (accepted : checkHeader header = .ok ())
      (done : Attempt.each carryOut {} (numbered before) = .done d)
      (written : normalized line ≠ [])
      (failed : (d.execute (before.length + 2) (normalized line)).fault = some (.reason r)) :
      Blamed (header :: (before ++ line :: after)) (before.length + 2) r
  /-- Everything was carried out, and no line after the reported one set the marker again. -/
  | marker {header line : Text} {before after : List Text} {d : Draft} {m : Marker}
      {c : Coordinate} (accepted : checkHeader header = .ok ())
      (done : Attempt.each carryOut {} (numbered (before ++ line :: after)) = .done d)
      (sets : Setting.read (normalized line) = .ok (.marker m c))
      (last : ∀ later ∈ after, ∀ c', Setting.read (normalized later) ≠ .ok (.marker m c'))
      (outside : d.grid.contains c = false) :
      Blamed (header :: (before ++ line :: after)) (before.length + 2)
        (.markerOutside m c d.grid.height d.grid.width)

theorem Blamed.bounds {lines : List Text} {line : Nat} {r : Reason} (h : Blamed lines line r) :
    1 ≤ line ∧ line ≤ max 1 lines.length := by
  cases h with
  | empty => exact ⟨Nat.le_refl _, Nat.le_max_left ..⟩
  | header _ => exact ⟨Nat.le_refl _, Nat.le_max_left ..⟩
  | statement _ _ _ _ =>
      simp only [List.length_cons, List.length_append]
      omega
  | marker _ _ _ _ _ =>
      simp only [List.length_cons, List.length_append]
      omega

/-! ## The lines of the markers -/

/-- For every marker that is set, the draft knows the last line that set it. -/
def Remembers (rest : List Text) (d : Draft) : Prop :=
  ∀ m c, d.description.marker m = some c → ∃ before line after, rest = before ++ line :: after ∧
    d.markerLines.get m = before.length + 2 ∧ Setting.read (normalized line) = .ok (.marker m c) ∧
    ∀ later ∈ after, ∀ c', Setting.read (normalized later) ≠ .ok (.marker m c')

theorem numbered_snoc (rest : List Text) (line : Text) :
    numbered (rest ++ [line]) = numbered rest ++ [(line, rest.length + 2)] := by
  rw [numbered, List.zipIdx_append, Nat.add_comm 2]
  rfl

/-- A line that sets no marker `m` leaves it and what is remembered of it. -/
theorem marker_applySetting {d : Draft} {number : Nat} {s : Setting} {m : Marker}
    (h : ∀ c, s ≠ .marker m c) :
    (d.applySetting number s).description.marker m = d.description.marker m ∧
      (d.applySetting number s).markerLines.get m = d.markerLines.get m := by
  rcases Draft.applySetting_cases d number s with
    ⟨height, width, rfl⟩ | ⟨m', c, rfl⟩ | ⟨change, heq⟩
  · cases m <;> exact ⟨rfl, rfl⟩
  · have hne : m' ≠ m := by
      rintro rfl
      exact h c rfl
    cases m' <;> cases m <;> first | exact absurd rfl hne | exact ⟨rfl, rfl⟩
  · rw [heq]
    cases m <;> exact ⟨rfl, rfl⟩

theorem marker_carryOut {d : Draft} (hd : d.description.Framed) {line : Text} (number : Nat)
    {m : Marker} (h : ∀ c, Setting.read (normalized line) ≠ .ok (.marker m c)) :
    (carryOut d (line, number)).state.description.marker m = d.description.marker m ∧
      (carryOut d (line, number)).state.markerLines.get m = d.markerLines.get m := by
  by_cases hblank : normalized line = []
  · rw [carryOut_of_blank hblank]
    exact ⟨rfl, rfl⟩
  · rw [carryOut_of_statement hblank]
    cases hread : Setting.read (normalized line) with
    | ok s =>
        simp only [Draft.execute, Draft.understand_of_setting d hread]
        refine marker_applySetting fun c heq => h c ?_
        rw [hread, heq]
    | error r =>
        have hmarkers := Draft.markers_of_carried
          (Draft.carried_of_execute hd number (normalized line)) fun s hs => by
            rw [hread] at hs
            cases hs
        exact ⟨congrFun hmarkers.1 m, congrArg (·.get m) hmarkers.2⟩

theorem remembers_snoc {rest : List Text} {d : Draft} (hframed : d.description.Framed)
    (hd : Remembers rest d) (line : Text) :
    Remembers (rest ++ [line]) (carryOut d (line, rest.length + 2)).state := by
  intro m c hc
  by_cases hsets : ∃ c', Setting.read (normalized line) = .ok (.marker m c')
  · obtain ⟨c', hread⟩ := hsets
    have hblank : normalized line ≠ [] := by
      intro h
      rw [h] at hread
      cases hread
    have hstate : (carryOut d (line, rest.length + 2)).state =
        d.applySetting (rest.length + 2) (.marker m c') := by
      rw [carryOut_of_statement hblank]
      simp only [Draft.execute, Draft.understand_of_setting d hread]
      rfl
    -- Nothing comes after the line, so it is the last that set the marker.
    rw [hstate] at hc ⊢
    have hcc : c' = c := by cases m <;> exact Option.some.inj hc
    refine ⟨rest, line, [], rfl, by cases m <;> rfl, by rw [hread, hcc], ?_⟩
    exact fun later hlater => absurd hlater List.not_mem_nil
  · have hsets : ∀ c', Setting.read (normalized line) ≠ .ok (.marker m c') :=
      fun c' h => hsets ⟨c', h⟩
    obtain ⟨hmarker, hline⟩ := marker_carryOut hframed (rest.length + 2) hsets
    rw [hmarker] at hc
    obtain ⟨before, setter, after, rfl, hnumber, hread, hlast⟩ := hd m c hc
    refine ⟨before, setter, after ++ [line], by simp, by rw [hline, hnumber], hread, ?_⟩
    intro later hlater
    rcases List.mem_append.1 hlater with hlater | hlater
    · exact hlast later hlater
    · rw [List.mem_singleton.1 hlater]
      exact hsets

theorem remembers_each {rest : List Text} {d : Draft}
    (h : Attempt.each carryOut {} (numbered rest) = .done d) : Remembers rest d := by
  induction rest using List.reverseRecOn generalizing d with
  | nil =>
      cases h
      intro m c hc
      cases m <;> cases hc
  | append_singleton rest line ih =>
      rw [numbered_snoc, Attempt.each_append, Attempt.andThen_eq_done] at h
      obtain ⟨e, hrest, hlast⟩ := h
      rw [Attempt.each_singleton] at hlast
      have hremembers := remembers_snoc (reached_of_done hrest).framed (ih hrest) line
      rw [hlast] at hremembers
      exact hremembers

/-! ## Reports -/

/-- The sides that a line names, if it names any, are words. -/
def SizesAreWords (line : Text) : Prop :=
  ∀ height width, Setting.read (normalized line) = .ok (.size height width) →
    height < 2 ^ 63 ∧ width < 2 ^ 63

theorem countable_each {rest : List Text} (h : ∀ line ∈ rest, SizesAreWords line) :
    (Attempt.each carryOut {} (numbered rest)).state.Countable := by
  refine (Attempt.state_each (P := fun d : Draft => d.description.Framed ∧ d.Countable)
    (fun d entry hentry hd => ?_) ⟨Description.framed_empty, Draft.countable_empty⟩).2
  have hmem : entry.1 ∈ rest := List.fst_mem_of_mem_zipIdx hentry
  exact ⟨framed_carryOut hd.1 entry, state_carryOut hd.1 hd.2 fun _ _ hcarried =>
    Draft.countable_of_carried hd.1 hcarried hd.2 (h entry.1 hmem)⟩

/-- The lines before the one that failed, and the fault. -/
theorem exists_of_fault_lines {rest : List Text} {stop : Stop}
    (h : (Attempt.each carryOut {} (numbered rest)).fault = some stop) :
    ∃ before line after d f, rest = before ++ line :: after ∧
      Attempt.each carryOut {} (numbered before) = .done d ∧ normalized line ≠ [] ∧
      (d.execute (before.length + 2) (normalized line)).fault = some f ∧
      stop = ⟨before.length + 2, f⟩ := by
  obtain ⟨entries, entry, later, d, hsplit, hdone, hfault⟩ := Attempt.exists_of_fault_each h
  obtain ⟨before, others, rfl, rfl, hothers⟩ := List.zipIdx_eq_append_iff.1 hsplit
  obtain ⟨line, after, rfl, rfl, -⟩ := List.zipIdx_eq_cons_iff.1 hothers.symm
  by_cases hblank : normalized line = []
  · rw [carryOut_of_blank hblank] at hfault
    cases hfault
  · rw [carryOut_of_statement hblank, Nat.add_comm 2] at hfault
    obtain ⟨f, hf, rfl⟩ := Option.map_eq_some_iff.1 hfault
    exact ⟨before, line, after, d, f, rfl, hdone, hblank, hf, rfl⟩

theorem blamed_of_marker {header : Text} {rest : List Text} {d : Draft} {stop : Stop}
    (hheader : checkHeader header = .ok ())
    (hdone : Attempt.each carryOut {} (numbered rest) = .done d)
    (h : (finish d).fault = some stop) :
    ∃ r, stop.fault = .reason r ∧ Blamed (header :: rest) stop.line r := by
  rcases finish_cases (reached_of_done hdone).framed with
    ⟨-, hend⟩ | ⟨-, -, hend⟩ | ⟨-, m, c, hm, hc, hend⟩
  · rw [hend] at h
    cases h
  · rw [hend] at h
    cases h
  · rw [hend] at h
    cases h
    obtain ⟨before, line, after, rfl, hnumber, hread, hlast⟩ := remembers_each hdone m c hm
    refine ⟨_, rfl, ?_⟩
    simp only [hnumber]
    exact .marker hheader hdone hread hlast hc

theorem blamed_of_statement {header : Text} {rest : List Text} {stop : Stop}
    (hheader : checkHeader header = .ok ()) (hsizes : ∀ line ∈ rest, SizesAreWords line)
    (h : (Attempt.each carryOut {} (numbered rest)).fault = some stop) :
    ∃ r, stop.fault = .reason r ∧ Blamed (header :: rest) stop.line r := by
  obtain ⟨before, line, after, d, f, rfl, hdone, hblank, hf, rfl⟩ := exists_of_fault_lines h
  have hcountable := countable_each fun line hline => hsizes line (List.mem_append_left _ hline)
  rw [hdone] at hcountable
  have hcarried := Draft.carried_of_execute (reached_of_done hdone).framed (before.length + 2)
    (normalized line)
  rw [hf] at hcarried
  obtain ⟨r, rfl⟩ := Draft.isReason_of_carried hcountable hcarried
  exact ⟨r, rfl, .statement hheader hdone hblank hf⟩

theorem blamed_of_fault {lines : List Text} (hsizes : ∀ line ∈ lines.tail, SizesAreWords line)
    {stop : Stop} (h : (compileLines lines).fault = some stop) :
    ∃ r, stop.fault = .reason r ∧ Blamed lines stop.line r := by
  rcases compileLines_cases lines with
    ⟨rfl, hend⟩ | ⟨header, rest, r, rfl, hr, hend⟩ | ⟨header, rest, rfl, hheader, hend⟩
  · rw [hend] at h
    cases h
    exact ⟨_, rfl, .empty⟩
  · rw [hend] at h
    cases h
    exact ⟨r, rfl, .header hr⟩
  · rw [hend] at h
    rcases Attempt.andThen_cases (Attempt.each carryOut {} (numbered rest)) finish with
      ⟨hdone, hfinish⟩ | ⟨-, -, hfailed⟩
    · rw [hfinish] at h
      exact blamed_of_marker hheader hdone h
    · rw [hfailed] at h
      exact blamed_of_statement hheader hsizes h

/-- A compilation ends in a description or in a report, and what the report says is true. -/
theorem compile_reports (text : Text)
    (hsizes : ∀ line ∈ (Text.lines text).tail, SizesAreWords line) :
    (compile text).fault = none ∨
      ∃ line r report, (compile text).fault = some ⟨line, .reason r⟩ ∧
        Blamed (Text.lines text) line r ∧ 1 ≤ line ∧ line ≤ max 1 (Text.lines text).length ∧
        Stop.diagnostic? ⟨line, .reason r⟩ = some report ∧
        report.line = some (line : Int) ∧ report.reason = r.message ∧
        report.text = "Line " ++ toString line ++ ": " ++ report.reason ∧
        Kind.description ∈ report.kind.ancestors := by
  cases h : (compile text).fault with
  | none => exact .inl rfl
  | some stop =>
      right
      obtain ⟨line, f⟩ := stop
      obtain ⟨r, rfl, hblamed⟩ := blamed_of_fault hsizes h
      exact ⟨line, r, _, rfl, hblamed, hblamed.bounds.1, hblamed.bounds.2, rfl, rfl, rfl, rfl,
        Kind.description_mem_ancestors r.kind_ne_description⟩

theorem compile_reports_exit_outside :
    ∃ text : Text, (∀ line ∈ (Text.lines text).tail, SizesAreWords line) ∧
      ∃ r, Blamed (Text.lines text) 4 r := by
  let text := "[version:1.0]\n[size:2,3]\n[exit:c(0,0)]\n[exit:c(9,9)]\n".toList
  have hsizes : ∀ line ∈ (Text.lines text).tail, SizesAreWords line := by
    have hlines : (Text.lines text).tail =
        ["[size:2,3]".toList, "[exit:c(0,0)]".toList, "[exit:c(9,9)]".toList] := by decide +kernel
    rw [hlines]
    intro line hline height width hread
    simp only [List.mem_cons, List.not_mem_nil, or_false] at hline
    rcases hline with rfl | rfl | rfl
    · have hsize : Setting.read (normalized "[size:2,3]".toList) = .ok (.size 2 3) := by
        decide +kernel
      rw [hsize] at hread
      cases hread
      decide
    · have hmarker : Setting.read (normalized "[exit:c(0,0)]".toList) =
          .ok (.marker .exit ⟨0, 0⟩) := by decide +kernel
      rw [hmarker] at hread
      cases hread
    · have hmarker : Setting.read (normalized "[exit:c(9,9)]".toList) =
          .ok (.marker .exit ⟨9, 9⟩) := by decide +kernel
      rw [hmarker] at hread
      cases hread
  have hline : (compile text).fault.map Stop.line = some 4 := by decide +kernel
  refine ⟨text, hsizes, ?_⟩
  rcases compile_reports text hsizes with h | ⟨line, r, report, hfault, hblamed, -⟩
  · rw [h] at hline
    cases hline
  · rw [hfault] at hline
    obtain rfl : line = 4 := Option.some.inj hline
    exact ⟨r, hblamed⟩

end Document

end Labyrinth
