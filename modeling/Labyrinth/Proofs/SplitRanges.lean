import Labyrinth.Proofs.Chains
import Labyrinth.Proofs.Likeness

/-!
# Ranges in two parts

A range of a path can be stated in two lines, one up to some move and one from the next move on.
That does not make the same visits: both lines have an end in the cell between the two
moves, so this cell gets two half-lines where it got one piece. But a cell shows the sides that are
reached, and the two half-lines reach what the piece did, one back to where the path came from
and one on to where it goes.

`Line.Broken` compares the whole line with its two parts piece by piece. So it does not matter how
often a path crosses itself: what the cell of the joint gets otherwise, it gets in the
same order.
-/

namespace Labyrinth

/-! ## Lines broken in two -/

theorem Sides.union_ofMoves (moves others : List Move) :
    (ofMoves moves).union (ofMoves others) = ofMoves (moves ++ others) := by
  simp only [union, ofMoves, List.contains_append]

namespace Line

/-- A line, and the two it comes apart into if it is broken in a cell. Each of them ends there with
a piece of its own, and the two pieces reach the sides that the piece of the whole reached. -/
inductive Broken : (whole first second : List (Coordinate × Shape)) → Prop
  | here {c : Coordinate} {joint first second : Shape} {line : List (Coordinate × Shape)}
      (arms : joint.arms = first.arms.union second.arms) :
      Broken ((c, joint) :: line) [(c, first)] ((c, second) :: line)
  | later {piece : Coordinate × Shape} {whole first second : List (Coordinate × Shape)}
      (rest : Broken whole first second) : Broken (piece :: whole) (piece :: first) second

theorem arms_of_bend {m n : Move} {s : Shape} (h : bend m n = .ok s) :
    s.arms = (Shape.halfLine m.opposite).arms.union (Shape.halfLine n).arms := by
  rw [Shape.arms_of_bend? (bend_eq_ok_iff.1 h), arms_halfLine, arms_halfLine,
    Sides.union_ofMoves]
  rfl

open Outcome in
theorem exists_broken_shapesAfter (c : Coordinate) {m n : Move} {moves rest : List Move}
    {whole : List Shape}
    (h : shapesAfter c ((c.step m).points (moves ++ n :: rest)) = .ok whole) :
    ∃ first second, shapesAfter c ((c.step m).points moves) = .ok first ∧
      Line.shapes ((moves.foldl Coordinate.step (c.step m)).points (n :: rest)) = .ok second ∧
      Broken (((c.step m).points (moves ++ n :: rest)).zip whole)
        (((c.step m).points moves).zip first)
        (((moves.foldl Coordinate.step (c.step m)).points (n :: rest)).zip second) := by
  induction moves generalizing c m whole with
  | nil =>
      rw [List.nil_append, shapesAfter_points_cons] at h
      obtain ⟨s, hs, h⟩ := bind_eq_ok.1 h
      obtain ⟨more, hmore, h⟩ := bind_eq_ok.1 h
      obtain rfl : s :: more = whole := Except.ok.inj h
      refine ⟨_, Shape.halfLine n :: more, shapesAfter_points_nil c m, ?_, ?_⟩
      · rw [List.foldl_nil, shapes_points_cons, hmore]
        rfl
      · rw [List.nil_append, List.foldl_nil, Coordinate.points_nil, Coordinate.points_cons]
        exact .here (arms_of_bend hs)
  | cons k moves ih =>
      rw [List.cons_append, shapesAfter_points_cons] at h
      obtain ⟨s, hs, h⟩ := bind_eq_ok.1 h
      obtain ⟨more, hmore, h⟩ := bind_eq_ok.1 h
      obtain rfl : s :: more = whole := Except.ok.inj h
      obtain ⟨first, second, hfirst, hsecond, hbroken⟩ := ih (c.step m) hmore
      refine ⟨s :: first, second, ?_, hsecond, ?_⟩
      · rw [shapesAfter_points_cons, hs, hfirst]
        rfl
      · rw [List.cons_append, Coordinate.points_cons, Coordinate.points_cons]
        exact .later hbroken

open Outcome in
/-- The line of a walk can be broken between any two of its moves. -/
theorem exists_broken (c : Coordinate) {moves rest : List Move} (hmoves : moves ≠ [])
    (hrest : rest ≠ []) {whole : List Shape}
    (h : Line.shapes (c.points (moves ++ rest)) = .ok whole) :
    ∃ first second, Line.shapes (c.points moves) = .ok first ∧
      Line.shapes ((moves.foldl Coordinate.step c).points rest) = .ok second ∧
      Broken ((c.points (moves ++ rest)).zip whole) ((c.points moves).zip first)
        (((moves.foldl Coordinate.step c).points rest).zip second) := by
  obtain ⟨m, moves, rfl⟩ := List.exists_cons_of_ne_nil hmoves
  obtain ⟨n, rest, rfl⟩ := List.exists_cons_of_ne_nil hrest
  rw [List.cons_append, shapes_points_cons] at h
  obtain ⟨more, hmore, h⟩ := bind_eq_ok.1 h
  obtain rfl : Shape.halfLine m :: more = whole := Except.ok.inj h
  obtain ⟨first, second, hfirst, hsecond, hbroken⟩ := exists_broken_shapesAfter c hmore
  refine ⟨Shape.halfLine m :: first, second, ?_, hsecond, ?_⟩
  · rw [shapes_points_cons, hfirst]
    rfl
  · rw [List.cons_append, Coordinate.points_cons, Coordinate.points_cons]
    exact .later hbroken

end Line

open Line in
/-- A line that is drawn in two looks like the whole. -/
theorem TablesAlike.lined_broken {whole first second : List (Coordinate × Shape)}
    (hbroken : Broken whole first second) {t u : Table (Array Visit)} (h : TablesAlike t u)
    (color : Color) :
    TablesAlike (Labyrinth.lined t color whole)
      (Labyrinth.lined (Labyrinth.lined u color first) color second) := by
  induction hbroken generalizing t u with
  | @here c joint first second line arms =>
      refine lined (t := t.modifyCell _ _ _) ?_ color line
      show TablesAlike _ ((u.modifyCell _ _ _).modifyCell _ _ _)
      rw [Table.modifyCell_modifyCell]
      exact h.modifyCell (fun _ _ hvisits => hvisits.push_two color arms) _ _
  | later _ ih => exact ih (h.modifyCell (fun _ _ hvisits => hvisits.push _) _ _)

/-! ## Stretches -/

namespace Coordinate

/-- The line of a stretch can be broken behind any of its moves but the last. -/
theorem exists_broken_stretch (c : Coordinate) {moves : List Move} {first b last : Int}
    (hpos : 1 ≤ b) (hfirst : first ≤ b) (hlt : b < last) (hlast : last ≤ moves.length)
    {whole : List Shape} (h : Line.shapes (c.stretch moves first last) = .ok whole) :
    ∃ front back, Line.shapes (c.stretch moves first b) = .ok front ∧
      Line.shapes (c.stretch moves (b + 1) last) = .ok back ∧
      Line.Broken ((c.stretch moves first last).zip whole) ((c.stretch moves first b).zip front)
        ((c.stretch moves (b + 1) last).zip back) := by
  have htake : ∀ {i j : Nat}, i ≤ j → moves.take j = moves.take i ++ (moves.take j).drop i := by
    intro i j hij
    have hsplit := List.take_append_drop i (moves.take j)
    rw [List.take_take, Nat.min_eq_left hij] at hsplit
    exact hsplit.symm
  have hmoves : (moves.take last.toNat).drop (first - 1).toNat =
      (moves.take b.toNat).drop (first - 1).toNat ++ (moves.take last.toNat).drop b.toNat := by
    refine (congrArg _ (htake (by omega : b.toNat ≤ last.toNat))).trans ?_
    rw [List.drop_append_of_le_length]
    rw [List.length_take]
    omega
  have hstart : (moves.take b.toNat).foldl step c =
      ((moves.take b.toNat).drop (first - 1).toNat).foldl step
        ((moves.take (first - 1).toNat).foldl step c) := by
    rw [← List.foldl_append, ← htake (by omega)]
  rw [c.stretch_eq_points (by omega) (by omega) hlast] at h ⊢
  rw [c.stretch_eq_points hpos hfirst (by omega), c.stretch_eq_points (by omega) (by omega) hlast,
    Int.add_sub_cancel, hstart]
  rw [hmoves] at h ⊢
  refine Line.exists_broken _ ?_ ?_ h
  · rw [ne_eq, List.drop_eq_nil_iff, List.length_take]
    omega
  · rw [ne_eq, List.drop_eq_nil_iff, List.length_take]
    omega

end Coordinate

namespace Document

/-- Both parts of a spelled range can be spelled. -/
theorem SpellsRange.exists_parts {line : Text} {id first b last : Int} {tint : Option Text}
    (h : SpellsRange line id first last tint) (hpos : 1 ≤ b) (hlt : b < last) :
    ∃ front back, SpellsRange front id first b tint ∧ SpellsRange back id (b + 1) last tint ∧
      ∀ l ∈ [front, back], ∀ c ∈ l, Text.IsNormal c := by
  have htint : ∀ t ∈ tint, ∀ c ∈ t, Text.IsNormal c := by
    rintro t rfl
    exact h.isNormal_of_mem_tint
  obtain ⟨-, hpath, hstart, hstop⟩ := h
  have hlimit := Numeral.integer_lt hstop.2 hstop.1
  obtain ⟨k, rfl⟩ := Int.eq_ofNat_of_zero_le (by omega : 0 ≤ b)
  have hend : Numeral.Writes (Numeral.ofNat k) k := Numeral.writes_ofNat (by omega)
  have hnext : Numeral.Writes (Numeral.ofNat (k + 1)) (k + 1 : Nat) :=
    Numeral.writes_ofNat (by omega)
  obtain ⟨hnormal₁, hfront⟩ := of_writes htint hpath hstart hend
  obtain ⟨hnormal₂, hback⟩ := of_writes htint hpath hnext hstop
  exact ⟨_, _, hfront, hback,
    List.forall_mem_cons.2 ⟨hnormal₁, List.forall_mem_singleton.2 hnormal₂⟩⟩

/-- The two parts of a range draw what the range draws. -/
theorem alike_carryOut_parts {d e : Draft} {line front back : Text} {id first b last : Int}
    {tint : Option Text} (hd : Reached d) (hline : SpellsRange line id first last tint)
    (hfront : SpellsRange front id first b tint) (hback : SpellsRange back id (b + 1) last tint)
    (hpos : 1 ≤ b) (hfirst : first ≤ b) (hlt : b < last) {number : Nat}
    (hdone : carryOut d (line, number) = .done e) (number₁ number₂ : Nat) :
    ∃ m e', carryOut d (front, number₁) = .done m ∧ carryOut m (back, number₂) = .done e' ∧
      e.Alike e' := by
  obtain ⟨action, hunderstood⟩ := exists_understood_of_carryOut hline.ne_nil hdone
  obtain ⟨p, moves, color, hspans, htint, hzero, rfl⟩ := hline.exists_spans hd hunderstood
  have hspans₁ := hspans.part (Int.le_refl first) hfirst (by omega) hpos
  have hspans₂ := hspans.part (by omega : first ≤ b + 1) (by omega) (Int.le_refl last) hspans.pos
  rw [carryOut_of_understand hunderstood, Attempt.mapFault_eq_done,
    Draft.perform_visit hd.framed hspans.inside] at hdone
  split at hdone
  · cases hdone
  · next whole hwhole =>
      cases hdone
      obtain ⟨shapes₁, shapes₂, hshapes₁, hshapes₂, hbroken⟩ :=
        p.origin.exists_broken_stretch hpos hfirst hlt hspans.fits hwhole
      have hdone₁ := carryOut_of_spans hd.framed (hfront.stated htint hzero hfirst) hspans₁ hshapes₁
        number₁
      -- The first part adds visits and nothing that the second is checked against.
      have hspans₂' : (d.withVisits (lined d.description.visits color
          ((p.origin.stretch moves first b).zip shapes₁))).Spans id (b + 1) last p moves :=
        ⟨hspans₂.got, hspans₂.spelled, hspans₂.pos, hspans₂.ordered, hspans₂.fits, hspans₂.inside⟩
      have hdone₂ := carryOut_of_spans (framed_of_carryOut hd.framed hdone₁)
        (hback.stated htint (by omega) hspans₂.ordered) hspans₂' hshapes₂ number₂
      exact ⟨_, _, hdone₁, hdone₂, .revisited (.lined_broken hbroken (.refl _) color)⟩

/-- A range can be split. In a document that compiles, a line that states a range of a path can be
replaced by two, of which the first states the range up to a move and the second the rest from the
next move on, in the same colour. The document compiles and is drawn as the same text, whatever the
width of a cell, with colours or without, and by any painter. -/
theorem draw_range_split {text : Text} {d : Draft} {before after : List Text} {line : Text}
    {id first b last : Int} {tint : Option Text} (h : compile text = .done d)
    (hlines : Text.lines text = before ++ line :: after)
    (hline : SpellsRange line id first last tint) (hb : max first 1 ≤ b) (hlt : b < last) :
    (∀ front back text', SpellsRange front id first b tint → SpellsRange back id (b + 1) last tint →
      Text.lines text' = before ++ front :: back :: after →
      ∃ e, compile text' = .done e ∧
        ∀ painter options,
          e.description.draw painter options = d.description.draw painter options) ∧
    ∃ front back text', SpellsRange front id first b tint ∧ SpellsRange back id (b + 1) last tint ∧
      Text.lines text' = before ++ front :: back :: after := by
  rw [compile, hlines] at h
  obtain ⟨hpassed, e, m, hdone, hafter, hend⟩ := (compileLines_append_cons hline.not_header).1 h
  have hpos : 1 ≤ b := Int.le_trans (Int.le_max_right ..) hb
  have hfirst : first ≤ b := Int.le_trans (Int.le_max_left ..) hb
  constructor
  · intro front back text' hfront hback hlines'
    have hreached := reached_of_passed hpassed
    obtain ⟨e₁, e₂, hdone₁, hdone₂, halike⟩ := alike_carryOut_parts hreached hline hfront hback hpos
      hfirst hlt hdone (before.length + 1) (before.length + 2)
    have hframed := framed_of_carryOut hreached.framed hdone
    have hframed' := framed_of_carryOut (framed_of_carryOut hreached.framed hdone₁) hdone₂
    obtain ⟨m', hafter', hm⟩ := alike_each halike hframed hframed' hafter (before.length + 3)
    obtain ⟨d', hend', hd⟩ :=
      alike_finish hm (framed_of_each hframed hafter) (framed_of_each hframed' hafter') hend
    refine ⟨d', ?_, hd.description.draw_eq⟩
    rw [compile, hlines', compileLines_append_cons hfront.not_header]
    refine ⟨hpassed, e₁, m', hdone₁, ?_, hend'⟩
    rw [List.zipIdx_cons, Attempt.each_cons_eq_done]
    exact ⟨e₂, hdone₂, hafter'⟩
  · obtain ⟨front, back, hfront, hback, hnormal⟩ := hline.exists_parts hpos hlt
    obtain ⟨text', htext'⟩ := exists_text_replaced hlines hnormal
    exact ⟨front, back, text', hfront, hback, htext'⟩

/-- A path that crosses itself, split in the cell of the crossing. The visits are not the same. -/
theorem draw_range_split_at_a_crossing :
    ∃ d e, compile ("[version:1.0]\n[size:3,3]\nP1: c(1,0) r(2) u l d(2);\n" ++
        "V: P(1, 0, 06, RGB(1:2:03));\n[exit: c(2,1)]").toList = .done d ∧
      compile ("[version:1.0]\n[size:3,3]\nP1: c(1,0) r(2) u l d(2);\n" ++
        "v: p(1,0,5,rgb(1:2:03));\nv: p(1,6,6,rgb(1:2:03));\n[exit: c(2,1)]").toList = .done e ∧
      (∀ painter options,
        e.description.draw painter options = d.description.draw painter options) ∧
      e.description ≠ d.description := by
  let text := ("[version:1.0]\n[size:3,3]\nP1: c(1,0) r(2) u l d(2);\n" ++
    "V: P(1, 0, 06, RGB(1:2:03));\n[exit: c(2,1)]").toList
  let text' := ("[version:1.0]\n[size:3,3]\nP1: c(1,0) r(2) u l d(2);\n" ++
    "v: p(1,0,5,rgb(1:2:03));\nv: p(1,6,6,rgb(1:2:03));\n[exit: c(2,1)]").toList
  let before := ["[version:1.0]", "[size:3,3]", "P1: c(1,0) r(2) u l d(2);"].map String.toList
  have h : compile text = .done (compile text).state :=
    Attempt.eq_done_iff.2 ⟨rfl, by decide +kernel⟩
  have hlines : Text.lines text =
      before ++ "V: P(1, 0, 06, RGB(1:2:03));".toList :: ["[exit: c(2,1)]".toList] := by
    decide +kernel
  have hline : SpellsRange "V: P(1, 0, 06, RGB(1:2:03));".toList 1 0 6
      (some "rgb(1:2:03)".toList) :=
    .spelled (a := "1".toList) (b := "0".toList) (c := "06".toList) (by decide +kernel)
      ⟨by decide, by decide⟩ ⟨by decide, by decide⟩ ⟨by decide, by decide⟩
  have hfront : SpellsRange "v: p(1,0,5,rgb(1:2:03));".toList 1 0 5 (some "rgb(1:2:03)".toList) :=
    .spelled (a := "1".toList) (b := "0".toList) (c := "5".toList) (by decide +kernel)
      ⟨by decide, by decide⟩ ⟨by decide, by decide⟩ ⟨by decide, by decide⟩
  have hback : SpellsRange "v: p(1,6,6,rgb(1:2:03));".toList 1 (5 + 1) 6
      (some "rgb(1:2:03)".toList) :=
    .spelled (a := "1".toList) (b := "6".toList) (c := "6".toList) (by decide +kernel)
      ⟨by decide, by decide⟩ ⟨by decide, by decide⟩ ⟨by decide, by decide⟩
  obtain ⟨e, he, hdraw⟩ := (draw_range_split h hlines hline (by decide) (by decide)).1 _ _ text'
    hfront hback (by decide +kernel)
  refine ⟨_, e, h, he, hdraw, ?_⟩
  obtain rfl : (compile text').state = e := (Attempt.eq_done_iff.1 he).1
  decide +kernel

end Document

end Labyrinth
