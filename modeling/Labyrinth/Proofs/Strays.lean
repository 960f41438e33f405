import Labyrinth.Proofs.Depicted
import Labyrinth.Proofs.Reports

/-!
# Markers that stray

A marker may be set again and again, and the size may change after it. So whether a marker is
inside the grid is known only when all lines have been carried out, and by then the line to blame
lies somewhere in the middle of the document. It is the one that set the marker last.

Which lines these are can be read off the document. The markers that stray from the grid are then
looked for in a fixed order, the entrance first and the current position last, and the first of
them is reported. This need not be the one that was set first: if an exit that strays stands above
an entrance that strays, the entrance is reported.
-/

namespace Labyrinth

namespace Document

/-! ## The last line that sets a marker -/

/-- The point at which a line sets a marker, if it sets this one. -/
def marker? (m : Marker) (line : Text) : Option Coordinate :=
  match Setting.read (normalized line) with
  | .ok (.marker m' c) => if m' = m then some c else none
  | _ => none

/-- Where the lines of a document set a marker last: the point and the number of the line. -/
def lastSet? (m : Marker) (lines : List Text) : Option (Coordinate × Nat) :=
  ((lines.zipIdx 1).filterMap fun (line, number) => (marker? m line).map (·, number)).getLast?

theorem marker?_eq_some_iff {m : Marker} {line : Text} {c : Coordinate} :
    marker? m line = some c ↔ Setting.read (normalized line) = .ok (.marker m c) := by
  unfold marker?
  split
  · next m' c' hread =>
      rw [hread]
      simp only [Option.ite_none_right_eq_some, Option.some.injEq, Except.ok.injEq,
        Setting.marker.injEq]
  · next hread =>
      constructor
      · intro h
        cases h
      · intro h
        exact absurd h (hread m c)

theorem marker?_eq_none_iff {m : Marker} {line : Text} :
    marker? m line = none ↔ ∀ c, Setting.read (normalized line) ≠ .ok (.marker m c) := by
  rw [Option.eq_none_iff_forall_ne_some]
  simp only [ne_eq, marker?_eq_some_iff]

/-- A header sets no marker. -/
theorem marker?_of_checkHeader {header : Text} (h : checkHeader header = .ok ()) (m : Marker) :
    marker? m header = none := by
  rw [marker?_eq_none_iff]
  intro c hread
  obtain ⟨value, hline, -⟩ := Setting.exists_of_read hread
  unfold checkHeader at h
  split at h
  · cases h
  · next hinner =>
      obtain ⟨rest, hrest, -⟩ := Option.bind_eq_some_iff.1 hinner
      rw [Text.eq_append_of_after? hrest] at hline
      cases m <;> simp [Setting.key, SettingKey.name, Marker.name] at hline

theorem lastSet?_snoc (m : Marker) (lines : List Text) (line : Text) :
    lastSet? m (lines ++ [line]) =
      ((marker? m line).map (·, lines.length + 1)).or (lastSet? m lines) := by
  simp only [lastSet?, List.zipIdx_append, List.zipIdx_singleton, List.filterMap_append,
    List.getLast?_append, Nat.add_comm 1]
  cases hm : marker? m line <;> simp [hm]

/-- A line that sets a marker last is a line of the document, and it sets that marker. -/
theorem exists_of_lastSet? {m : Marker} {lines : List Text} {c : Coordinate} {number : Nat}
    (h : lastSet? m lines = some (c, number)) :
    1 ≤ number ∧ ∃ line, lines[number - 1]? = some line ∧ marker? m line = some c := by
  obtain ⟨⟨line, n⟩, hentry, hset⟩ := List.mem_filterMap.1 (List.mem_of_getLast? h)
  obtain ⟨c', hc, heq⟩ := Option.map_eq_some_iff.1 hset
  cases heq
  obtain ⟨hle, -, hget⟩ := List.mem_zipIdx hentry
  exact ⟨hle, line, by simp [hget], hc⟩

/-- What a draft remembers of a marker is what the lines say. -/
theorem lastSet?_each {header : Text} {rest : List Text} {d : Draft}
    (hheader : checkHeader header = .ok ())
    (h : Attempt.each carryOut {} (numbered rest) = .done d) (m : Marker) :
    lastSet? m (header :: rest) =
      (d.description.marker m).map (·, d.markerLines.get m) := by
  induction rest using List.reverseRecOn generalizing d with
  | nil =>
      cases h
      have hnone := lastSet?_snoc m [] header
      rw [marker?_of_checkHeader hheader] at hnone
      cases m <;> exact hnone
  | append_singleton rest line ih =>
      rw [numbered_snoc, Attempt.each_append, Attempt.andThen_eq_done] at h
      obtain ⟨e, hrest, hline⟩ := h
      rw [Attempt.each_singleton] at hline
      rw [← List.cons_append, lastSet?_snoc, ih hrest]
      cases hm : marker? m line with
      | some c =>
          rw [carryOut_of_setting (marker?_eq_some_iff.1 hm)] at hline
          cases hline
          cases m <;> rfl
      | none =>
          obtain ⟨hmarker, hnumber⟩ :=
            marker_carryOut (reached_of_done hrest).framed (rest.length + 2)
              (marker?_eq_none_iff.1 hm)
          rw [hline] at hmarker hnumber
          have hmarker : d.description.marker m = e.description.marker m := hmarker
          have hnumber : d.markerLines.get m = e.markerLines.get m := hnumber
          rw [hmarker, hnumber]
          rfl

/-! ## Strays -/

/-- A marker outside the grid, with the point where it is and the line that set it last. -/
structure Stray where
  marker : Marker
  point : Coordinate
  line : Nat
  deriving DecidableEq, Repr

/-- The report of a stray. -/
def Stray.stop (g : Grid) (s : Stray) : Stop :=
  ⟨s.line, .reason (.markerOutside s.marker s.point g.height g.width)⟩

/-- The stray that a marker is, if the lines of a document have set it last outside a grid. -/
def stray? (g : Grid) (lines : List Text) (m : Marker) : Option Stray :=
  match lastSet? m lines with
  | some (c, number) => if g.contains c then none else some ⟨m, c, number⟩
  | none => none

/-- All strays, in the order in which the markers are checked. -/
def strays (g : Grid) (lines : List Text) : List Stray :=
  Marker.all.filterMap (stray? g lines)

theorem stray?_eq_some_iff {g : Grid} {lines : List Text} {m : Marker} {s : Stray} :
    stray? g lines m = some s ↔
      s.marker = m ∧ lastSet? m lines = some (s.point, s.line) ∧ g.contains s.point = false := by
  obtain ⟨m', c', number'⟩ := s
  unfold stray?
  split
  · next c number hset =>
      simp only [Option.ite_none_left_eq_some, Option.some.injEq, Stray.mk.injEq, hset,
        Prod.mk.injEq, Bool.not_eq_true]
      constructor
      · rintro ⟨hout, rfl, rfl, rfl⟩
        exact ⟨rfl, ⟨rfl, rfl⟩, hout⟩
      · rintro ⟨rfl, ⟨rfl, rfl⟩, hout⟩
        exact ⟨hout, rfl, rfl, rfl⟩
  · next hset => simp [hset]

/-- No two strays have been set by one line. -/
theorem pairwise_line_strays (g : Grid) (lines : List Text) :
    (strays g lines).Pairwise fun s t => s.line ≠ t.line := by
  have hall : Marker.all.Pairwise (· ≠ ·) := by decide
  refine List.Pairwise.filterMap _ (fun m m' hne s hs t ht heq => hne ?_) hall
  obtain ⟨-, hset, -⟩ := stray?_eq_some_iff.1 hs
  obtain ⟨-, hset', -⟩ := stray?_eq_some_iff.1 ht
  obtain ⟨-, line, hline, hread⟩ := exists_of_lastSet? hset
  obtain ⟨-, line', hline', hread'⟩ := exists_of_lastSet? hset'
  rw [heq, hline', Option.some.injEq] at hline
  rw [hline, marker?_eq_some_iff] at hread'
  rw [marker?_eq_some_iff, hread', Except.ok.injEq, Setting.marker.injEq] at hread
  exact hread.1.symm

/-! ## The end of a document -/

section Finish

variable {d : Draft} {lines : List Text}

/-- The first stray ends the checks. -/
theorem fault_each_checkMarker
    (h : ∀ m, lastSet? m lines = (d.description.marker m).map (·, d.markerLines.get m))
    (markers : List Marker) :
    (Attempt.each checkMarker d markers).fault =
      ((markers.filterMap (stray? d.grid lines)).head?).map (Stray.stop d.grid) := by
  induction markers with
  | nil => rfl
  | cons m markers ih =>
      rcases checkMarker_cases d m with ⟨hin, hdone⟩ | ⟨c, hm, hout, hfailed⟩
      · have hnone : stray? d.grid lines m = none := by
          rw [Option.eq_none_iff_forall_ne_some]
          intro s hs
          obtain ⟨-, hset, hout⟩ := stray?_eq_some_iff.1 hs
          rw [h, Option.map_eq_some_iff] at hset
          obtain ⟨c, hc, heq⟩ := hset
          rw [← (Prod.mk.inj heq).1, hin c hc] at hout
          cases hout
        rw [Attempt.each, hdone, List.filterMap_cons_none hnone]
        exact ih
      · have hsome : stray? d.grid lines m = some ⟨m, c, d.markerLines.get m⟩ := by
          rw [stray?_eq_some_iff, h, hm]
          exact ⟨rfl, rfl, hout⟩
        rw [Attempt.each, hfailed, List.filterMap_cons_some hsome]
        rfl

/-- What is reported at the end of a document is its first stray. A document without a size has no
grid to stray from. -/
theorem fault_finish (hd : d.description.Framed)
    (h : ∀ m, lastSet? m lines = (d.description.marker m).map (·, d.markerLines.get m)) :
    (finish d).fault =
      if d.grid.height = 0 then none
      else ((strays d.grid lines).head?).map (Stray.stop d.grid) := by
  rw [strays, ← fault_each_checkMarker h]
  unfold finish
  split
  · rfl
  · rcases each_checkMarker d Marker.all with ⟨hin, hdone⟩ | ⟨m, c, -, -, hfailed⟩
    · have hall : ∀ m, ∀ c, d.description.marker m = some c → d.grid.contains c = true :=
        fun m => hin m (by cases m <;> decide)
      have hopened := each_openMarker hd fun m (_ : m ∈ [.entrance, .exit]) => hall m
      have hend : (Attempt.done d).andThen (fun d => Attempt.each openMarker d [.entrance, .exit]) =
          Attempt.each openMarker d [.entrance, .exit] := rfl
      rw [hdone, hend, hopened]
      rfl
    · rw [hfailed]
      rfl

end Finish

/-- A document whose lines have all been carried out, and which has a size, is refused exactly if a
marker strays from the grid, and then the first stray in the order of the checks is reported
with the line that set it last. This is the first line that set a stray last if, and only if, the
strays that come later in that order have been set on later lines. -/
theorem strays_reported {text header : Text} {rest : List Text} {d : Draft}
    (hlines : Text.lines text = header :: rest) (hheader : checkHeader header = .ok ())
    (hdone : Attempt.each carryOut {} (numbered rest) = .done d) :
    (∀ m, d.description.marker m = (lastSet? m (Text.lines text)).map Prod.fst) ∧
    (compile text).fault =
      (if d.grid.height = 0 then none
        else ((strays d.grid (Text.lines text)).head?).map (Stray.stop d.grid)) ∧
    ∀ stop, (compile text).fault = some stop →
      (∃ r, stop.fault = .reason r ∧ r.kind = .outOfRange) ∧
      ((∀ s ∈ strays d.grid (Text.lines text), stop.line ≤ s.line) ↔
        ∀ s ∈ (strays d.grid (Text.lines text)).tail, stop.line < s.line) := by
  have hset : ∀ m, lastSet? m (Text.lines text) =
      (d.description.marker m).map (·, d.markerLines.get m) := by
    rw [hlines]
    exact lastSet?_each hheader hdone
  have hfault : (compile text).fault = (finish d).fault := by
    rw [compile, hlines]
    simp only [compileLines, hheader, hdone]
    rfl
  rw [fault_finish (reached_of_done hdone).framed hset] at hfault
  refine ⟨fun m => ?_, hfault, fun stop hstop => ?_⟩
  · rw [hset, Option.map_map]
    exact Option.map_id'.symm
  · have hapart := pairwise_line_strays d.grid (Text.lines text)
    rw [hfault, Option.ite_none_left_eq_some, Option.map_eq_some_iff] at hstop
    obtain ⟨-, s, hhead, rfl⟩ := hstop
    obtain ⟨others, heq⟩ := List.head?_eq_some_iff.1 hhead
    rw [heq, List.pairwise_cons] at hapart
    rw [heq, List.tail_cons]
    refine ⟨⟨_, rfl, rfl⟩, fun hleast t ht => ?_, fun hlater t ht => ?_⟩
    · exact Nat.lt_of_le_of_ne (hleast t (List.mem_cons_of_mem s ht)) (hapart.1 t ht)
    · rcases List.mem_cons.1 ht with rfl | ht
      · exact Nat.le_refl _
      · exact Nat.le_of_lt (hlater t ht)

/-- An exit that is set twice and a current position that strays only because the size changes. -/
theorem strays_reported_of_two :
    ∃ (text header : Text) (rest : List Text) (d : Draft) (stop : Stop),
      Text.lines text = header :: rest ∧ checkHeader header = .ok () ∧
      Attempt.each carryOut {} (numbered rest) = .done d ∧
      (compile text).fault = some stop ∧ stop.line = 6 ∧
      (strays d.grid (Text.lines text)).map Stray.line = [6, 7] ∧
      ∀ s ∈ strays d.grid (Text.lines text), stop.line ≤ s.line := by
  let text := ("[version:1.0]\n[exit:c(0,9)]\n[entrance:c(1,1)]\n[size:3,4]\n\n[EXIT: c(-1, 0)]\n" ++
    "[current-position:c(2,3)]\n[size:2,2]").toList
  let rest := (Text.lines text).tail
  let d := (Attempt.each carryOut {} (numbered rest)).state
  obtain ⟨hfault, hstrays⟩ : (Attempt.each carryOut {} (numbered rest)).fault = none ∧
      strays d.grid (Text.lines text) =
        [⟨.exit, ⟨-1, 0⟩, 6⟩, ⟨.currentPosition, ⟨2, 3⟩, 7⟩] := by
    decide +kernel
  have hlines : Text.lines text = "[version:1.0]".toList :: rest := by decide +kernel
  have hheader : checkHeader "[version:1.0]".toList = .ok () := by decide +kernel
  have hdone : Attempt.each carryOut {} (numbered rest) = .done d :=
    Attempt.eq_done_iff.2 ⟨rfl, hfault⟩
  have hsize : d.grid.height ≠ 0 := by decide +kernel
  obtain ⟨-, hreport, hleast⟩ := strays_reported hlines hheader hdone
  rw [if_neg hsize, hstrays] at hreport
  refine ⟨text, _, rest, d, _, hlines, hheader, hdone, hreport, rfl, by rw [hstrays]; rfl, ?_⟩
  rw [(hleast _ hreport).2, hstrays]
  simp [Stray.stop]

/-- An exit strays on the third line and an entrance on the fourth, and the fourth is reported. -/
theorem strays_reported_late :
    ∃ (text header : Text) (rest : List Text) (d : Draft) (stop : Stop),
      Text.lines text = header :: rest ∧ checkHeader header = .ok () ∧
      Attempt.each carryOut {} (numbered rest) = .done d ∧ d.grid.height ≠ 0 ∧
      (compile text).fault = some stop ∧
      ∃ s ∈ strays d.grid (Text.lines text), s.line < stop.line := by
  let text := "[version:1.0]\n[size:2,2]\n[exit:c(5,5)]\n[entrance:c(9,9)]\n".toList
  let rest := (Text.lines text).tail
  let d := (Attempt.each carryOut {} (numbered rest)).state
  obtain ⟨hfault, hstrays⟩ : (Attempt.each carryOut {} (numbered rest)).fault = none ∧
      strays d.grid (Text.lines text) =
        [⟨.entrance, ⟨9, 9⟩, 4⟩, ⟨.exit, ⟨5, 5⟩, 3⟩] := by
    decide +kernel
  have hreport : (compile text).fault =
      some ⟨4, .reason (.markerOutside .entrance ⟨9, 9⟩ 2 2)⟩ := by
    decide +kernel
  refine ⟨text, "[version:1.0]".toList, rest, d, _, by decide +kernel, by decide +kernel,
    Attempt.eq_done_iff.2 ⟨rfl, hfault⟩, by decide +kernel, hreport, ⟨.exit, ⟨5, 5⟩, 3⟩, ?_⟩
  rw [hstrays]
  decide

end Document

end Labyrinth
