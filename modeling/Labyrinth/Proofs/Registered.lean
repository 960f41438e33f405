import Labyrinth.Proofs.Reached

/-!
# Paths stay registered

The registry only grows at its end, and a number is given to one path. So what is
registered at some point of a document is found, as it is, for the rest of it, and a
line that states a path has been carried out exactly as the registry tells.
-/

namespace Labyrinth

/-! ## The registry -/

namespace Registry

theorem get_eq_ok_iff {r : Registry} {id : Int} {p : Path} :
    r.get id = .ok p ↔ r.find? id = some p := by
  unfold get
  cases r.find? id with
  | none =>
      constructor
      · intro h
        cases h
      · intro h
        cases h
  | some q => rw [Except.ok.injEq, Option.some.injEq]

theorem mem_of_get {r : Registry} {id : Int} {p : Path} (h : r.get id = .ok p) : p ∈ r.paths :=
  List.mem_of_find?_eq_some (get_eq_ok_iff.1 h)

/-- A path that was registered under a free number is found under it. -/
theorem get_snoc {r : Registry} {p : Path} (h : r.contains p.id = false) :
    (⟨r.paths ++ [p]⟩ : Registry).get p.id = .ok p := by
  have hnone : r.paths.find? (fun q => q.id = p.id) = none :=
    Option.isSome_eq_false_iff.1 h |> Option.isNone_iff_eq_none.1
  rw [get_eq_ok_iff, find?, List.find?_append, hnone, List.find?_singleton]
  simp only [decide_true, if_true, Option.none_or]

theorem get_mono {r s : Registry} {id : Int} {p : Path} (hkept : r.paths <+: s.paths)
    (h : r.get id = .ok p) : s.get id = .ok p := by
  rw [get_eq_ok_iff, find?] at h ⊢
  obtain ⟨later, hlater⟩ := hkept
  rw [← hlater, List.find?_append, h, Option.some_or]

theorem trajectory_of_get {r : Registry} {id : Int} {p : Path} {points : List Coordinate}
    (h : r.get id = .ok p) (hp : p.trajectory = .ok points) : r.trajectory id = .ok points := by
  simp only [trajectory, h, hp]
  rfl

theorem trajectory_congr {r s : Registry} {id : Int} {points : List Coordinate}
    (hget : ∀ p, r.get id = .ok p → s.get id = .ok p) (h : r.trajectory id = .ok points) :
    s.trajectory id = .ok points := by
  unfold trajectory at h
  cases hp : r.get id with
  | error e =>
      rw [hp] at h
      cases h
  | ok p =>
      rw [hp] at h
      exact trajectory_of_get (hget p hp) (Outcome.mapError_eq_ok.1 h)

theorem trajectory_mono {r s : Registry} {id : Int} {points : List Coordinate}
    (hkept : r.paths <+: s.paths) (h : r.trajectory id = .ok points) :
    s.trajectory id = .ok points :=
  trajectory_congr (fun _ => get_mono hkept) h

end Registry

/-! ## What a line registers -/

namespace Draft

/-- A line leaves the registry as it is or adds one path to it, which was traced. -/
theorem registered_of_carried {d d' : Draft} {number : Nat} {line : Text} {f : Option Fault}
    (h : d.Carried number line d' f) :
    d'.paths = d.paths ∨ ∃ id body p points, d.Traces id body p points ∧
      d'.paths = ⟨d.paths.paths ++ [p]⟩ := by
  cases h with
  | @setting s _ =>
      left
      rcases applySetting_cases d number s with ⟨_, _, rfl⟩ | ⟨_, _, rfl⟩ | ⟨change, heq⟩
      · rfl
      · rfl
      · rw [heq]
        rfl
  | path _ htraced => exact .inr ⟨_, _, _, _, htraced, rfl⟩
  | _ => exact .inl rfl

theorem paths_of_carried {d d' : Draft} {number : Nat} {line : Text} {f : Option Fault}
    (h : d.Carried number line d' f) : d.paths.paths <+: d'.paths.paths := by
  rcases registered_of_carried h with heq | ⟨_, _, p, _, -, heq⟩
  · simp only [heq, List.prefix_refl]
  · rw [heq]
    exact List.prefix_append ..

/-- A path statement that was carried out has registered the path it traced. -/
theorem get_of_carried {d d' : Draft} {number id : Nat} {line body : Text}
    (h : d.Carried number line d' none)
    (hline : Statement.ofLine? line = some (.path id body)) :
    ∃ p points, d.Traces id body p points ∧ d'.paths.get id = .ok p := by
  cases h with
  | setting hread =>
      rw [Statement.ofLine?_of_setting hread] at hline
      cases hline
  | row hstated _ =>
      rw [hstated] at hline
      cases hline
  | path hstated htraced =>
      rw [hstated] at hline
      cases hline
      have hget := Registry.get_snoc htraced.free
      rw [htraced.id_eq] at hget
      exact ⟨_, _, htraced, hget⟩
  | drawn hstated hdrawing _ _ =>
      rw [hstated] at hline
      cases hline
      rcases hdrawing with hdrawing | hdrawing <;> cases hdrawing

end Draft

/-! ## From line to line -/

namespace Document

/-- Paths that are registered stay registered, also if a line fails. -/
theorem paths_each {d : Draft} (hd : d.description.Framed) (entries : List (Text × Nat)) :
    d.paths.paths <+: (Attempt.each carryOut d entries).state.paths.paths := by
  refine (Attempt.state_each
    (P := fun e : Draft => e.description.Framed ∧ d.paths.paths <+: e.paths.paths)
    (fun e entry _ he => ⟨framed_carryOut he.1 entry, ?_⟩) ⟨hd, List.prefix_refl _⟩).2
  exact state_carryOut (P := fun e => d.paths.paths <+: e.paths.paths) he.1 he.2
    fun _ _ hcarried => he.2.trans (Draft.paths_of_carried hcarried)

theorem paths_of_each {d e : Draft} {entries : List (Text × Nat)} (hd : d.description.Framed)
    (h : Attempt.each carryOut d entries = .done e) : d.paths.paths <+: e.paths.paths := by
  have hpaths := paths_each hd entries
  rw [h] at hpaths
  exact hpaths

/-- A path statement that was carried out is known to the draft at the end. -/
theorem traces_of_each {earlier later : List Text} {line body : Text} {id : Nat} {d : Draft}
    (h : Attempt.each carryOut {} (numbered (earlier ++ line :: later)) = .done d)
    (hline : Statement.ofLine? (normalized line) = some (.path id body)) :
    ∃ b p points, Attempt.each carryOut {} (numbered earlier) = .done b ∧
      b.Traces id body p points ∧ d.paths.get id = .ok p := by
  obtain ⟨b, e, hearlier, hdone, hlater⟩ := each_numbered_split.1 h
  have hb := (reached_of_done hearlier).framed
  have he := framed_of_carryOut hb hdone
  rcases carryOut_eq_done hb hdone with ⟨hblank, -⟩ | hcarried
  · rw [hblank] at hline
    cases hline
  · obtain ⟨p, points, htraced, hget⟩ := Draft.get_of_carried hcarried hline
    exact ⟨b, p, points, hearlier, htraced, Registry.get_mono (paths_of_each he hlater) hget⟩

end Document

end Labyrinth
