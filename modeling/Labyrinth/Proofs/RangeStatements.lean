import Labyrinth.Proofs.Registered
import Labyrinth.Proofs.RowStatements
import Labyrinth.Proofs.Walks

/-!
# Range statements are accepted

A range statement names a registered path and two of its moves, and asks for the line
along the stretch between them. It can be refused because the numbers do not fit the
path, because the stretch has left the grid since the path was registered, or because
the stretch has no line. The last does not happen: a path is registered only if no move
of it undoes the one before, and then every stretch of it has a line.

So the first two are all that is to be asked, and a range that passes them is carried
out.
-/

namespace Labyrinth

/-! ## Reading a range -/

namespace Text

theorem fields_append {separator : Char} {s : Text} (h : separator ∉ s) (t : Text) :
    fields separator (s ++ separator :: t) = s :: fields separator t := by
  induction s with
  | nil => simp [fields]
  | cons c s ih =>
      have hc : c ≠ separator := fun heq => h (by rw [heq]; exact List.mem_cons_self)
      have hs := ih fun hmem => h (List.mem_cons_of_mem c hmem)
      rw [List.cons_append, fields, if_neg hc, hs]

theorem fields_of_not_mem {separator : Char} {s : Text} (h : separator ∉ s) :
    fields separator s = [s] := by
  induction s with
  | nil => rfl
  | cons c s ih =>
      have hc : c ≠ separator := fun heq => h (by rw [heq]; exact List.mem_cons_self)
      rw [fields, if_neg hc, ih fun hmem => h (List.mem_cons_of_mem c hmem)]

theorem fields_joined {separator : Char} {parts : List Text} (hne : parts ≠ [])
    (h : ∀ part ∈ parts, separator ∉ part) : fields separator (joined [separator] parts) = parts := by
  induction parts with
  | nil => exact absurd rfl hne
  | cons part parts ih =>
      have hpart := h part List.mem_cons_self
      cases parts with
      | nil => exact fields_of_not_mem hpart
      | cons next parts =>
          rw [joined, List.append_assoc, List.singleton_append, fields_append hpart,
            ih (List.cons_ne_nil _ _) fun p hp => h p (List.mem_cons_of_mem _ hp)]

end Text

namespace Numeral

/-- A text that writes an integer, with no more digits than can be read. -/
def Writes (s : Text) (n : Int) : Prop :=
  isInteger s = true ∧ integer s = .ok n

theorem not_mem_of_isDigits {s : Text} (hs : isDigits s = true) {c : Char}
    (hc : isDigit c = false) : c ∉ s := by
  intro hmem
  rw [isDigit_of_mem hs hmem] at hc
  cases hc

theorem eq_minus_or_isDigit_of_mem {s : Text} (hs : isInteger s = true) {c : Char} (hc : c ∈ s) :
    c = '-' ∨ isDigit c = true := by
  unfold isInteger at hs
  split at hs
  · exact (List.mem_cons.1 hc).imp_right (isDigit_of_mem hs)
  · exact .inr (isDigit_of_mem hs hc)

theorem Writes.comma_not_mem {s : Text} {n : Int} (h : Writes s n) : ',' ∉ s := by
  intro hmem
  rcases eq_minus_or_isDigit_of_mem h.1 hmem with heq | hdigit
  · exact absurd heq (by decide)
  · exact absurd hdigit (by decide)

end Numeral

theorem fields_of_writes {a b c : Text} {x y z : Int} (ha : Numeral.Writes a x)
    (hb : Numeral.Writes b y) (hc : Numeral.Writes c z) :
    Text.fields ',' (Text.joined [','] [a, b, c]) = [a, b, c] := by
  refine Text.fields_joined (List.cons_ne_nil _ _) fun part hpart => ?_
  simp only [List.mem_cons, List.not_mem_nil, or_false] at hpart
  rcases hpart with rfl | rfl | rfl
  · exact ha.comma_not_mem
  · exact hb.comma_not_mem
  · exact hc.comma_not_mem

theorem integers_of_writes {a b c : Text} {x y z : Int} (ha : Numeral.Writes a x)
    (hb : Numeral.Writes b y) (hc : Numeral.Writes c z) :
    integers [3] (Text.joined [','] [a, b, c]) = .ok [x, y, z] := by
  unfold integers
  simp only [fields_of_writes ha hb hc, List.all_cons, List.all_nil, ha.1, hb.1, hc.1,
    List.mapM_cons, List.mapM_nil, ha.2, hb.2, hc.2]
  rfl

namespace Statement

/-- The text of a range statement, with its fields as they are written. -/
def rangeText (fields : List Text) : Text :=
  "v:p(".toList ++ (Text.joined [','] fields ++ [')'] ++ [';'])

/-- A range of a path from one of its moves on to another is read as such. -/
theorem ofLine?_rangeText {a b c : Text} {id first last : Int} (ha : Numeral.Writes a id)
    (hb : Numeral.Writes b first) (hc : Numeral.Writes c last) (hfirst : 0 ≤ first)
    (hle : first ≤ last) :
    ofLine? (rangeText [a, b, c]) = some (.range id first last .lightGray) := by
  have hform : Form.of? (rangeText [a, b, c]) = some .range := rfl
  refine ofLine?_of_read hform ?_
  rw [read, readRange, rangeText]
  simp only [Text.after?_append, Option.bind_eq_bind, Option.bind_some, Text.before?_append,
    fields_of_writes ha hb hc, readRangeFields, integers_of_writes ha hb hc]
  exact if_neg (by omega)

end Statement

/-! ## The stretch of a path -/

namespace Coordinate

/-- The points that the moves `first` to `last` of a walk pass. Move `k` leads from point `k - 1`
to point `k`, so there is one point more than there are moves. -/
def stretch (c : Coordinate) (moves : List Move) (first last : Int) : List Coordinate :=
  ((c.points moves).take (last + 1).toNat).drop (first - 1).toNat

theorem two_le_length_stretch (c : Coordinate) {moves : List Move} {first last : Int}
    (hpos : 1 ≤ last) (hle : first ≤ last) (hlast : last ≤ moves.length) :
    2 ≤ (c.stretch moves first last).length := by
  rw [stretch, List.length_drop, List.length_take, length_points]
  omega

/-- The points of a stretch are numbered as in the whole walk. -/
theorem exists_of_mem_stretch {c x : Coordinate} {moves : List Move} {first last : Int}
    (hlast : last ≤ moves.length) (hx : x ∈ c.stretch moves first last) :
    ∃ k : Nat, first ≤ k + 1 ∧ k ≤ last ∧ x = c.destination ((Move.spell moves).take k) := by
  obtain ⟨i, hi⟩ := List.mem_iff_getElem?.1 hx
  rw [stretch, List.getElem?_drop, List.getElem?_take] at hi
  split at hi
  · next hlt =>
      rw [getElem?_points c (by omega)] at hi
      exact ⟨_, by omega, by omega, (Option.some.inj hi).symm⟩
  · cases hi

/-- A stretch is a walk of its own. -/
theorem stretch_eq_points (c : Coordinate) {moves : List Move} {first last : Int} (hpos : 1 ≤ last)
    (hle : first ≤ last) (hlast : last ≤ moves.length) :
    c.stretch moves first last = ((moves.take (first - 1).toNat).foldl step c).points
      ((moves.take last.toNat).drop (first - 1).toNat) := by
  have hlength : (moves.take last.toNat).length = last.toNat := by
    rw [List.length_take]
    omega
  rw [stretch, show (last + 1).toNat = last.toNat + 1 by omega, take_points,
    drop_points c (by omega), List.take_take, Nat.min_eq_left (by omega)]

/-- If no move of a walk undoes the one before, every stretch of it has a line. -/
theorem exists_shapes_stretch (c : Coordinate) {moves : List Move} (h : Move.GoesOn moves)
    {first last : Int} (hpos : 1 ≤ last) (hle : first ≤ last) (hlast : last ≤ moves.length) :
    ∃ shapes, Line.shapes (c.stretch moves first last) = .ok shapes := by
  rw [c.stretch_eq_points hpos hle hlast]
  refine Line.exists_shapes _ ?_ ((h.take last.toNat).drop (first - 1).toNat)
  rw [ne_eq, List.drop_eq_nil_iff, List.length_take]
  omega

end Coordinate

namespace Draft

variable {d : Draft} {id first last : Int} {color : Color} {p : Path}

/-- The points that the moves `first` to `last` of a path pass are in the grid. -/
def Covers (d : Draft) (p : Path) (first last : Int) : Prop :=
  ∀ k : Nat, first ≤ k + 1 → k ≤ last →
    d.grid.contains (p.origin.destination (p.moves.take k)) = true

theorem contains_of_covers {moves : List Move} (hp : p.moves = Move.spell moves)
    (hlast : last ≤ moves.length) (hin : d.Covers p first last) :
    ∀ c ∈ p.origin.stretch moves first last, d.grid.contains c = true := by
  intro c hc
  obtain ⟨k, hfirst, hle, rfl⟩ := Coordinate.exists_of_mem_stretch hlast hc
  rw [← hp]
  exact hin k hfirst hle

/-- A range of a path that can be drawn: the path has these moves, the numbers are of some of them,
and what they pass is in the grid. -/
structure Spans (d : Draft) (id first last : Int) (p : Path) (moves : List Move) : Prop where
  got : d.paths.get id = .ok p
  spelled : p.moves = Move.spell moves
  pos : 1 ≤ last
  ordered : first ≤ last
  fits : last ≤ moves.length
  inside : ∀ c ∈ p.origin.stretch moves first last, d.grid.contains c = true

namespace Spans

variable {moves : List Move}

theorem two_le_length (h : d.Spans id first last p moves) :
    2 ≤ (p.origin.stretch moves first last).length :=
  p.origin.two_le_length_stretch h.pos h.ordered h.fits

theorem trajectory_eq (h : d.Spans id first last p moves) :
    p.trajectory = .ok (p.origin.points moves) := by
  rw [Path.trajectory, h.spelled, Coordinate.trajectory_spell]

theorem height_ne_zero (h : d.Spans id first last p moves) : d.grid.height ≠ 0 := by
  obtain ⟨c, hc⟩ :=
    List.exists_mem_of_length_pos (Nat.lt_of_lt_of_le Nat.zero_lt_two h.two_le_length)
  have hinside := Table.contains_iff.1 (h.inside c hc)
  omega

/-- A part of a range that can be drawn can be drawn. -/
theorem part (h : d.Spans id first last p moves) {first' last' : Int} (hfirst : first ≤ first')
    (hle : first' ≤ last') (hlast : last' ≤ last) (hpos : 1 ≤ last') :
    d.Spans id first' last' p moves := by
  refine ⟨h.got, h.spelled, hpos, hle, Int.le_trans hlast h.fits, fun c hc => h.inside c ?_⟩
  have hfront : ((p.origin.points moves).take (last' + 1).toNat).Sublist
      ((p.origin.points moves).take (last + 1).toNat) :=
    List.take_sublist_take_left (by omega)
  have hback : (first - 1).toNat ≤ (first' - 1).toNat := by omega
  exact ((hfront.drop _).trans (List.drop_sublist_drop_left _ hback)).subset hc

theorem resolveRange_eq (h : d.Spans id first last p moves) (color : Color) :
    d.resolveRange id first last color =
      .ok (.visit ⟨color, p.origin.stretch moves first last⟩) := by
  have hfits : last ≤ p.moves.length := by
    rw [h.spelled, Move.spell, List.length_map]
    exact h.fits
  have htrajectory := Registry.trajectory_of_get h.got h.trajectory_eq
  exact resolveRange_eq_ok_iff.2 ⟨_, rfl, ⟨p, h.got, hfits⟩, ⟨_, htrajectory, rfl⟩,
    h.two_le_length, h.inside⟩

theorem understand_eq (h : d.Spans id first last p moves) {line : Text}
    (hstated : Statement.ofLine? line = some (.range id first last color)) :
    d.understand line = .ok (.visit ⟨color, p.origin.stretch moves first last⟩) := by
  rw [understand_of_stated hstated h.height_ne_zero, resolve, h.resolveRange_eq]
  rfl

end Spans

/-- A range is resolved only if it can be drawn. -/
theorem exists_spans (hwalks : ∀ p ∈ d.paths.paths, Move.Walk.Sound p.moves) (hle : first ≤ last)
    {action : Action} (h : d.resolveRange id first last color = .ok action) :
    ∃ p moves, d.Spans id first last p moves ∧
      action = .visit ⟨color, p.origin.stretch moves first last⟩ := by
  obtain ⟨_, rfl, ⟨p, hget, hfits⟩, ⟨trajectory, htrajectory, rfl⟩, hlong, hin⟩ :=
    resolveRange_eq_ok_iff.1 h
  obtain ⟨moves, hmoves, -⟩ := hwalks p (Registry.mem_of_get hget)
  have hpoints : d.paths.trajectory id = .ok (p.origin.points moves) := by
    refine Registry.trajectory_of_get hget ?_
    rw [Path.trajectory, hmoves, Coordinate.trajectory_spell]
  obtain rfl := Except.ok.inj (htrajectory.symm.trans hpoints)
  rw [hmoves, Move.spell, List.length_map] at hfits
  -- Up to move 0 there is one point at most.
  have hpos : 1 ≤ last := by
    rw [List.length_drop, List.length_take] at hlong
    omega
  exact ⟨p, moves, ⟨hget, hmoves, hpos, hle, hfits, hin⟩, rfl⟩

end Draft

/-! ## The line of a document -/

namespace Document

/-- A line that asks for the moves `first` to `last` of a path: three numbers, however they are
written, or whatever else is read as a range with a colour of its own. -/
inductive StatesRange (line : Text) (id first last : Int) : Prop
  | plain {a b c : Text} (written : normalized line = Statement.rangeText [a, b, c])
      (path : Numeral.Writes a id) (start : Numeral.Writes b first)
      (stop : Numeral.Writes c last) : StatesRange line id first last
  | colored {color : Color}
      (stated : Statement.ofLine? (normalized line) = some (.range id first last color)) :
      StatesRange line id first last

theorem StatesRange.exists_stated {line : Text} {id first last : Int}
    (h : StatesRange line id first last) (hfirst : 0 ≤ first) (hle : first ≤ last) :
    ∃ color, Statement.ofLine? (normalized line) = some (.range id first last color) := by
  cases h with
  | plain hwritten hpath hstart hstop =>
      rw [hwritten]
      exact ⟨_, Statement.ofLine?_rangeText hpath hstart hstop hfirst hle⟩
  | colored hstated => exact ⟨_, hstated⟩

/-- A range that can be drawn adds the line along its stretch. -/
theorem carryOut_of_spans {d : Draft} {line : Text} {id first last : Int} {color : Color} {p : Path}
    {moves : List Move} {shapes : List Shape} (hd : d.description.Framed)
    (hstated : Statement.ofLine? (normalized line) = some (.range id first last color))
    (h : d.Spans id first last p moves)
    (hshapes : Line.shapes (p.origin.stretch moves first last) = .ok shapes) (number : Nat) :
    carryOut d (line, number) = .done (d.withVisits
      (lined d.description.visits color ((p.origin.stretch moves first last).zip shapes))) := by
  rw [carryOut_of_understand (h.understand_eq hstated), Draft.perform_visit hd h.inside, hshapes]
  rfl

/-- No stretch of a registered path lacks a line, so a range that fits is carried out. -/
theorem carryOut_range {d : Draft} {line : Text} {id first last : Int} {p : Path}
    (hd : d.description.Framed) (h : StatesRange line id first last)
    (hget : d.paths.get id = .ok p) (hp : Move.Walk.Sound p.moves) (hfirst : 0 ≤ first)
    (hle : first ≤ last) (hpos : 1 ≤ last) (hlast : last ≤ p.moves.length)
    (hin : d.Covers p first last) (number : Nat) : ∃ e, carryOut d (line, number) = .done e := by
  obtain ⟨color, hstated⟩ := h.exists_stated hfirst hle
  obtain ⟨moves, hmoves, hgoes⟩ := hp
  rw [hmoves, Move.spell, List.length_map] at hlast
  have hspans : d.Spans id first last p moves :=
    ⟨hget, hmoves, hpos, hle, hlast, Draft.contains_of_covers hmoves hlast hin⟩
  obtain ⟨shapes, hshapes⟩ := p.origin.exists_shapes_stretch hgoes hpos hle hlast
  exact ⟨_, carryOut_of_spans hd hstated hspans hshapes number⟩

end Document

end Labyrinth
