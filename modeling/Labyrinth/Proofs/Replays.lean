import Labyrinth.Proofs.Chains
import Labyrinth.Proofs.Origins

/-!
# Walks in parts

A walk can be replayed in parts. Where one text stops another can go on, and the points of both
together are those of the one and then those of the other, except that the place where they
meet is not told twice. A reference to another path rests on this: it replays only the moves that it
counts, and still names a point of the whole trajectory.

Nothing of that needs the text to be a walk. A character that is no code stops it: there are no
points then, but there is a place, and it is where the moves before that character lead.
-/

namespace Labyrinth

/-! ## Where a text stops being a walk -/

namespace Move

/-- A character that no move is written with. -/
def IsStray (x : Char) : Prop :=
  ∀ m : Move, x ≠ m.code

theorem ofCode?_eq_none_iff {x : Char} : ofCode? x = none ↔ IsStray x := by
  rw [Option.eq_none_iff_forall_ne_some]
  exact forall_congr' fun m => not_congr ofCode?_eq_some_iff

theorem IsStray.ofText_eq {x : Char} (h : IsStray x) : ofText [x] = .error ⟨[x], "Move"⟩ := by
  simp only [ofText, ofCode?_eq_none_iff.2 h]

/-- A text spells moves to its end, or up to a first stray character. -/
theorem exists_spell_or_stray (s : Text) : (∃ moves, s = spell moves) ∨
    ∃ moves x rest, IsStray x ∧ s = spell moves ++ x :: rest := by
  induction s with
  | nil => exact .inl ⟨[], rfl⟩
  | cons c s ih =>
      cases hc : ofCode? c with
      | none => exact .inr ⟨[], c, s, ofCode?_eq_none_iff.1 hc, rfl⟩
      | some m =>
          obtain rfl := ofCode?_eq_some_iff.1 hc
          rcases ih with ⟨moves, rfl⟩ | ⟨moves, x, rest, hx, rfl⟩
          · exact .inl ⟨m :: moves, rfl⟩
          · exact .inr ⟨m :: moves, x, rest, hx, rfl⟩

end Move

namespace Coordinate

/-- Whatever the texts are, the second goes on where the first stopped. -/
theorem trajectory_append (c : Coordinate) (s t : Text) :
    c.trajectory (s ++ t) = (do
      let first ← c.trajectory s
      let second ← (c.destination s).trajectory t
      return first ++ second.tail) := by
  induction s generalizing c with
  | nil =>
      show c.trajectory t = (do
        let second ← c.trajectory t
        return [c] ++ second.tail)
      cases ht : c.trajectory t with
      | error e => rfl
      | ok points =>
          obtain ⟨rest, rfl⟩ := exists_eq_cons_of_trajectory ht
          rfl
  | cons x s ih =>
      rw [List.cons_append, trajectory, trajectory]
      cases hx : Move.ofCode? x with
      | none =>
          rw [(Move.ofCode?_eq_none_iff.1 hx).ofText_eq]
          rfl
      | some m =>
          obtain rfl := Move.ofCode?_eq_some_iff.1 hx
          simp only [Move.ofText_code, ih (c.step m), destination, Move.ofCode?_code]
          cases (c.step m).trajectory s with
          | error e => rfl
          | ok first =>
              cases ((c.step m).destination s).trajectory t with
              | error e => rfl
              | ok second => rfl

theorem destination_spell_append (c : Coordinate) (moves : List Move) (t : Text) :
    c.destination (Move.spell moves ++ t) = (c.destination (Move.spell moves)).destination t := by
  induction moves generalizing c with
  | nil => rfl
  | cons m moves ih =>
      have hnext := ih (c.step m)
      simp only [Move.spell, List.map_cons, List.cons_append] at hnext ⊢
      rw [destination, destination, Move.ofCode?_code]
      exact hnext

theorem destination_of_isStray (c : Coordinate) {x : Char} (hx : Move.IsStray x) (rest : Text) :
    c.destination (x :: rest) = c := by
  rw [destination, Move.ofCode?_eq_none_iff.2 hx]

/-- A stray character stops a walk where it stands. -/
theorem stops_at_stray (c : Coordinate) (moves : List Move) {x : Char} (hx : Move.IsStray x)
    (rest : Text) :
    c.trajectory (Move.spell moves ++ x :: rest) = .error ⟨[x], "Move"⟩ ∧
      c.destination (Move.spell moves ++ x :: rest) = c.destination (Move.spell moves) := by
  constructor
  · rw [trajectory_append, trajectory_spell, trajectory, hx.ofText_eq]
    rfl
  · rw [destination_spell_append, destination_of_isStray _ hx]

/-- Only a text that spells moves to its end has a trajectory. -/
theorem exists_trajectory_iff {c : Coordinate} {s : Text} :
    (∃ points, c.trajectory s = .ok points) ↔ ∃ moves, s = Move.spell moves := by
  constructor
  · rintro ⟨points, h⟩
    rcases Move.exists_spell_or_stray s with hs | ⟨moves, x, rest, hx, rfl⟩
    · exact hs
    · rw [(c.stops_at_stray moves hx rest).1] at h
      cases h
  · rintro ⟨moves, rfl⟩
    exact ⟨c.points moves, c.trajectory_spell moves⟩

/-- The points of a walk: neighbours one after the other, one more than there are moves, and
the last one is where the walk ends. -/
structure Walked (c : Coordinate) (moves : Text) (points : List Coordinate) : Prop where
  trajectory_eq : c.trajectory moves = .ok points
  neighbours : points.IsChain fun p q => q.isAdjacent p = true
  length_eq : points.length = moves.length + 1
  last_eq : points.getLast? = some (c.destination moves)

theorem walked_spell (c : Coordinate) (moves : List Move) :
    c.Walked (Move.spell moves) (c.points moves) where
  trajectory_eq := c.trajectory_spell moves
  neighbours := c.isChain_points moves
  length_eq := length_of_trajectory (c.trajectory_spell moves)
  last_eq := getLast?_of_trajectory (c.trajectory_spell moves)

/-- Two walks, of which the second starts where the first ends, are one. -/
theorem exists_walked_append (c : Coordinate) (a b : List Move) : ∃ first second,
    c.Walked (Move.spell a) first ∧ (c.destination (Move.spell a)).Walked (Move.spell b) second ∧
      c.Walked (Move.spell a ++ Move.spell b) (first ++ second.tail) := by
  have hwhole := c.walked_spell (a ++ b)
  rw [Move.spell, List.map_append, ← Move.spell, ← Move.spell] at hwhole
  have hparts := c.trajectory_append (Move.spell a) (Move.spell b)
  rw [hwhole.trajectory_eq, trajectory_spell, trajectory_spell] at hparts
  have hpoints : c.points (a ++ b) =
      c.points a ++ ((c.destination (Move.spell a)).points b).tail := Except.ok.inj hparts
  rw [hpoints] at hwhole
  exact ⟨_, _, c.walked_spell a, walked_spell _ b, hwhole⟩

end Coordinate

/-! ## Paths that are registered -/

namespace Registry

variable {r : Registry} {id : Int} {p : Path} {current : Option Int}

theorem exists_trajectory_iff (hget : r.get id = .ok p) :
    (∃ points, r.trajectory id = .ok points) ↔ ∃ moves, p.moves = Move.spell moves := by
  rw [← Coordinate.exists_trajectory_iff (c := p.origin)]
  constructor
  · rintro ⟨points, h⟩
    simp only [trajectory, hget] at h
    exact ⟨points, Outcome.mapError_eq_ok.1 h⟩
  · rintro ⟨points, h⟩
    exact ⟨points, trajectory_of_get hget h⟩

theorem resolve_of_outside (hget : r.get id = .ok p) (hcurrent : current ≠ some id) {k : Int}
    (hk : ¬ (0 ≤ k ∧ k ≤ p.moves.length)) :
    r.resolve id k current = .error (.offsetOutside id k p.moves.length) := by
  rw [resolve, if_neg hcurrent, hget]
  exact if_neg hk

/-- Only the moves that are counted are replayed. -/
theorem resolve_of_spell (hget : r.get id = .ok p) (hcurrent : current ≠ some id)
    {moves : List Move} (hp : p.moves = Move.spell moves) {k : Nat} (hk : k ≤ p.moves.length) :
    r.resolve id k current = .ok (p.origin.destination (p.firstMoves k)) := by
  have hfirst : p.firstMoves k = Move.spell (moves.take k) := by
    rw [p.firstMoves_natCast, hp, Move.spell, ← List.map_take, ← Move.spell]
  have htrajectory : p.trajectoryOf k = .ok (p.origin.points (moves.take k)) := by
    rw [Path.trajectoryOf, hfirst, Coordinate.trajectory_spell]
  have hrange : 0 ≤ (k : Int) ∧ (k : Int) ≤ p.moves.length :=
    ⟨Int.natCast_nonneg k, Int.ofNat_le.2 hk⟩
  rw [resolve, if_neg hcurrent, hget]
  simp only [if_pos hrange, htrajectory]

theorem exists_point (hget : r.get id = .ok p) (hcurrent : current ≠ some id)
    {points : List Coordinate} (hpoints : r.trajectory id = .ok points) {k : Nat}
    (hk : k ≤ p.moves.length) : ∃ c, points[k]? = some c ∧ r.resolve id k current = .ok c := by
  obtain ⟨moves, hp⟩ := (exists_trajectory_iff hget).1 ⟨points, hpoints⟩
  obtain ⟨points', htrajectory, hpoint⟩ := Path.exists_point hp hk
  rw [trajectory_of_get hget htrajectory] at hpoints
  obtain rfl := Except.ok.inj hpoints
  exact ⟨_, hpoint, resolve_of_spell hget hcurrent hp hk⟩

/-- A walk is told by its parts. The points of two texts of moves are those of the first and, from
where it ends, those of the second without the place where both meet. A stray character is refused
and leaves the walk where the moves before it lead. An offset of a registered path is therefore
a point of its trajectory, and an offset outside its moves is refused. A path has a trajectory
exactly if its moves are a walk, and whatever a document has registered is one. -/
theorem replayed_in_parts :
    (∀ (c : Coordinate) (a b : List Move), ∃ first second, c.Walked (Move.spell a) first ∧
      (c.destination (Move.spell a)).Walked (Move.spell b) second ∧
        c.Walked (Move.spell a ++ Move.spell b) (first ++ second.tail)) ∧
    (∀ (c : Coordinate) (a : List Move) (x : Char) (rest : Text), Move.IsStray x →
      c.trajectory (Move.spell a ++ x :: rest) = .error ⟨[x], "Move"⟩ ∧
        c.destination (Move.spell a ++ x :: rest) = c.destination (Move.spell a)) ∧
    (∀ (r : Registry) (id : Int) (p : Path) (current : Option Int),
      r.get id = .ok p → current ≠ some id →
        ((∃ points, r.trajectory id = .ok points) ↔ ∃ moves, p.moves = Move.spell moves) ∧
        (∀ points, r.trajectory id = .ok points → ∀ k : Nat, k ≤ p.moves.length →
          ∃ c, points[k]? = some c ∧ r.resolve id k current = .ok c) ∧
        ∀ k : Int, ¬ (0 ≤ k ∧ k ≤ p.moves.length) →
          r.resolve id k current = .error (.offsetOutside id k p.moves.length)) ∧
    ∀ (d : Draft) (id : Int) (p : Path), Document.Reached d → d.paths.get id = .ok p →
      ∃ points, d.paths.trajectory id = .ok points := by
  refine ⟨Coordinate.exists_walked_append, fun c a x rest hx => c.stops_at_stray a hx rest,
    fun r id p current hget hcurrent => ⟨exists_trajectory_iff hget, ?_, ?_⟩, ?_⟩
  · exact fun points hpoints k hk => exists_point hget hcurrent hpoints hk
  · exact fun k hk => resolve_of_outside hget hcurrent hk
  · intro d id p hreached hget
    obtain ⟨moves, hp, -⟩ := (Document.represented_of_reached hreached).walks p (mem_of_get hget)
    exact (exists_trajectory_iff hget).2 ⟨moves, hp⟩

/-- A capital is stray, and the fourth of three moves is not there. -/
theorem replayed_in_parts_of_three_moves :
    Move.IsStray 'R' ∧
      Coordinate.trajectory ⟨0, 0⟩ "rdRd".toList = .error ⟨['R'], "Move"⟩ ∧
      Coordinate.destination ⟨0, 0⟩ "rdRd".toList = ⟨1, 1⟩ ∧
      ∃ d points c, Document.Reached d ∧ d.paths.get 7 = .ok ⟨7, ⟨0, 0⟩, "rrd".toList⟩ ∧
        d.paths.trajectory 7 = .ok points ∧ points[2]? = some c ∧
        d.paths.resolve 7 2 none = .ok c ∧
        d.paths.resolve 7 4 none = .error (.offsetOutside 7 4 3) := by
  let text := "[version:1.0]\n[size:3,3]\np7: c(0,0) r(2) d;".toList
  obtain ⟨-, hstray, hregistered, hdocument⟩ := replayed_in_parts
  have hx : Move.IsStray 'R' := by
    intro m
    cases m <;> decide
  obtain ⟨herror, hplace⟩ := hstray ⟨0, 0⟩ [.right, .down] 'R' ['d'] hx
  have hreached : Document.Reached (Document.compile text).state := .ended (Text.lines text)
  have hget : (Document.compile text).state.paths.get 7 = .ok ⟨7, ⟨0, 0⟩, "rrd".toList⟩ := by
    decide +kernel
  obtain ⟨points, hpoints⟩ := hdocument _ 7 _ hreached hget
  obtain ⟨-, hpoint, houtside⟩ := hregistered _ 7 _ none hget nofun
  obtain ⟨c, hc, hresolved⟩ := hpoint points hpoints 2 (by decide)
  exact ⟨hx, herror, hplace, _, points, c, hreached, hget, hpoints, hc, hresolved,
    houtside 4 (by decide)⟩

end Registry

end Labyrinth
