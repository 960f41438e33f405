import Labyrinth.Proofs.Clauses
import Labyrinth.Proofs.Drafts
import Labyrinth.Proofs.Walks

/-!
# The limit on repeat counts

A path statement is read with a limit on its repeat counts, the longer side of the grid. The limit
is there so that an absurd count is refused before it is written out, and it is no rule of its own:
a walk that runs straight on for longer than that leaves the grid, wherever it starts and whatever
comes before, so it would have been refused for leaving.

It follows that a line does the same to a draft with the limit and without one, and that it is
refused with the limit exactly if it is refused without. Only the reason may be another.
-/

namespace Labyrinth

/-! ## Expanding with a limit and without -/

namespace Move.Clause

variable {clause : Text} {bound : Int} {moves : List Move}

theorem Token.admissible_none {t : Token} (h : t.Admissible (some bound)) : t.Admissible none := by
  cases t with
  | single m => trivial
  | repeated m count =>
      obtain ⟨hdigits, hshort, hpos, -, hword⟩ := h
      exact ⟨hdigits, hshort, hpos, fun b hb => absurd hb (Option.some_ne_none b).symm, hword⟩

/-- What can be expanded under a limit can be expanded without one. -/
theorem expand_none_of_some (h : expand clause (some bound) = .ok moves) :
    expand clause none = .ok moves := by
  obtain ⟨tokens, hclause, hall, hmoves⟩ := expand_eq_ok_iff.1 h
  exact expand_eq_ok_iff.2 ⟨tokens, hclause, fun t ht => Token.admissible_none (hall t ht), hmoves⟩

/-- A limit does no harm if the moves do not go straight on for longer than it allows. -/
theorem expand_some_of_none (h : expand clause none = .ok moves)
    (hruns : ∀ (m : Move) (n : Nat) (before after : List Move),
      moves = before ++ (List.replicate n m ++ after) → n ≤ bound) :
    expand clause (some bound) = .ok moves := by
  obtain ⟨tokens, hclause, hall, hmoves⟩ := expand_eq_ok_iff.1 h
  refine expand_eq_ok_iff.2 ⟨tokens, hclause, fun t ht => ?_, hmoves⟩
  cases t with
  | single m => trivial
  | repeated m count =>
      obtain ⟨hdigits, hshort, hpos, -, hword⟩ := hall _ ht
      refine ⟨hdigits, hshort, hpos, fun b hb => ?_, hword⟩
      cases hb
      -- the count is written out somewhere among the moves
      obtain ⟨before, after, rfl⟩ := List.append_of_mem ht
      refine hruns m _ (before.flatMap Token.moves) (after.flatMap Token.moves) ?_
      rw [hmoves, List.flatMap_append, List.flatMap_cons, Token.moves]

end Move.Clause

/-! ## Straight runs -/

namespace Coordinate

theorem foldl_step_replicate (c : Coordinate) (m : Move) (n : Nat) :
    (List.replicate n m).foldl step c = ⟨c.row + n * m.delta.1, c.col + n * m.delta.2⟩ := by
  induction n generalizing c with
  | zero => simp
  | succ n ih =>
      rw [List.replicate_succ, List.foldl_cons, ih]
      simp only [step, mk.injEq, Int.natCast_succ, Int.add_mul, Int.one_mul]
      omega

/-- Wherever a walk is after some of its moves is a point of it. -/
theorem foldl_step_mem_points (c : Coordinate) (before after : List Move) :
    before.foldl step c ∈ c.points (before ++ after) := by
  induction before generalizing c with
  | nil =>
      obtain ⟨rest, hpoints⟩ := c.exists_points_eq_cons after
      rw [List.nil_append, hpoints]
      exact List.mem_cons_self
  | cons m before ih =>
      rw [List.cons_append, points_cons]
      exact List.mem_cons_of_mem c (ih (c.step m))

/-- A walk inside a table goes straight on for less than the longer side of it. -/
theorem run_lt {α : Type} {t : Table α} (c : Coordinate) {m : Move} {n : Nat}
    {before after : List Move}
    (h : ∀ p ∈ c.points (before ++ (List.replicate n m ++ after)), t.contains p = true) :
    n < max t.height t.width := by
  have hstart := Table.contains_iff.1 (h _ (c.foldl_step_mem_points before _))
  have hstop := Table.contains_iff.1 (h _ (List.append_assoc before .. ▸
    c.foldl_step_mem_points (before ++ List.replicate n m) after))
  rw [List.foldl_append, foldl_step_replicate] at hstop
  cases m <;> simp only [Move.delta] at hstop <;> omega

end Coordinate

/-! ## Paths -/

namespace Draft

variable {d : Draft} {id : Nat} {body : Text} {action : Action}

open Outcome in
/-- For a path that is resolved it only matters what its moves are, not under which limit they
were read. -/
theorem resolvePath_of_resolvePath {limit limit' : Option Int}
    (h : d.resolvePath limit id body = .ok action)
    (hparse : ∀ {clause moves : Text} {start : Coordinate} {points : List Coordinate},
      Move.Walk.parse clause limit = .ok moves → start.trajectory moves = .ok points →
      (∀ c ∈ points, d.grid.contains c = true) → Move.Walk.parse clause limit' = .ok moves) :
    d.resolvePath limit' id body = .ok action := by
  unfold resolvePath at h ⊢
  split at h
  · cases h
  · next hfree =>
      rw [if_neg hfree]
      obtain ⟨⟨origin, clause⟩, horigin, h⟩ := bind_eq_ok.1 h
      obtain ⟨start, hstart, h⟩ := bind_eq_ok.1 h
      obtain ⟨moves, hmoves, h⟩ := bind_eq_ok.1 h
      obtain ⟨points, hpoints, h⟩ := bind_eq_ok.1 h
      refine bind_eq_ok.2 ⟨_, horigin, bind_eq_ok.2 ⟨start, hstart, bind_eq_ok.2 ⟨moves, ?_,
        bind_eq_ok.2 ⟨points, hpoints, h⟩⟩⟩⟩
      split at h
      · cases h
      · next hin =>
          exact mapError_eq_ok.2 (hparse (mapError_eq_ok.1 hmoves) (mapError_eq_ok.1 hpoints)
            (firstOutside?_eq_none_iff.1 hin))

/-- A walk inside the grid is read under the limit if it is read at all. -/
theorem parse_repeatLimit {clause text : Text} {start : Coordinate} {points : List Coordinate}
    (h : Move.Walk.parse clause none = .ok text) (hpoints : start.trajectory text = .ok points)
    (hin : ∀ c ∈ points, d.grid.contains c = true) :
    Move.Walk.parse clause (some d.repeatLimit) = .ok text := by
  obtain ⟨moves, hmoves, hgoes, rfl⟩ := Move.Walk.parse_eq_ok_iff.1 h
  rw [Coordinate.trajectory_spell] at hpoints
  cases hpoints
  refine Move.Walk.parse_eq_ok_iff.2 ⟨moves, ?_, hgoes, rfl⟩
  refine Move.Clause.expand_some_of_none hmoves fun m n before after hrun => ?_
  have hlt := start.run_lt (hrun ▸ hin)
  unfold repeatLimit
  omega

theorem parse_none_of_some {clause text : Text} {bound : Int}
    (h : Move.Walk.parse clause (some bound) = .ok text) :
    Move.Walk.parse clause none = .ok text := by
  obtain ⟨moves, hmoves, hgoes, rfl⟩ := Move.Walk.parse_eq_ok_iff.1 h
  exact Move.Walk.parse_eq_ok_iff.2 ⟨moves, Move.Clause.expand_none_of_some hmoves, hgoes, rfl⟩

/-- The limit refuses no path that would otherwise be resolved, and changes none. -/
theorem resolvePath_none_iff :
    d.resolvePath none id body = .ok action ↔
      d.resolvePath (some d.repeatLimit) id body = .ok action :=
  ⟨fun h => resolvePath_of_resolvePath h parse_repeatLimit,
    fun h => resolvePath_of_resolvePath h fun hparse _ _ => parse_none_of_some hparse⟩

/-! ## Lines -/

/-- What a line is understood as if the repeat counts of paths have the given limit. -/
def understandWithin (d : Draft) (limit : Option Int) (line : Text) : Except Fault Action :=
  match Statement.ofLine? line with
  | some (.path id body) =>
    if d.grid.height = 0 then d.understand line else d.resolvePath limit id body
  | _ => d.understand line

/-- Carries out a line that is not blank, with the given limit on the repeat counts of paths. -/
def executeWithin (d : Draft) (limit : Option Int) (number : Nat) (line : Text) :
    Attempt Draft Fault :=
  match d.understandWithin limit line with
  | .error e => .failed d e
  | .ok action => d.perform number action

theorem understandWithin_repeatLimit (d : Draft) (line : Text) :
    d.understandWithin (some d.repeatLimit) line = d.understand line := by
  unfold understandWithin
  split
  · next hstated =>
      split
      · rfl
      · next hsize => rw [understand_of_stated hstated hsize, resolve]
  · rfl

theorem understandWithin_none_iff {line : Text} :
    d.understandWithin none line = .ok action ↔ d.understand line = .ok action := by
  rw [← understandWithin_repeatLimit]
  unfold understandWithin
  split
  · split
    · exact Iff.rfl
    · exact resolvePath_none_iff
  · exact Iff.rfl

/-- A line is carried out with the longer side of the grid as the limit on repeat counts. Without
any limit it would be carried out just as well, or be refused just as well, and it would leave the
same draft. -/
theorem execute_without_limit (d : Draft) (number : Nat) (line : Text) :
    d.execute number line = d.executeWithin (some d.repeatLimit) number line ∧
      (d.executeWithin none number line).state = (d.execute number line).state ∧
      ((d.executeWithin none number line).fault = none ↔
        (d.execute number line).fault = none) := by
  unfold execute executeWithin
  rw [understandWithin_repeatLimit]
  refine ⟨rfl, ?_⟩
  cases hlimited : d.understand line with
  | ok action =>
      rw [understandWithin_none_iff.2 hlimited]
      exact ⟨rfl, Iff.rfl⟩
  | error e =>
      cases hfree : d.understandWithin none line with
      | ok action =>
          rw [understandWithin_none_iff.1 hfree] at hlimited
          cases hlimited
      | error e' =>
          exact ⟨rfl, iff_of_false (Option.some_ne_none e') (Option.some_ne_none e)⟩

end Draft

end Labyrinth
