import Labyrinth.Proofs.Literals
import Labyrinth.Proofs.Replacing
import Labyrinth.Proofs.Representation

/-!
# Origins written out

A path may start at a marker or on another path, and then where it starts depends on
the document so far. Once it is known, it can as well be written as a coordinate: the
literal is split off the move clause as the reference was, and from there on nothing looks
at how the origin was written.

A coordinate on another path is, in the end, a point of the trajectory of that path, since an
entry of the registry stays as it is and the first moves of a walk lead to its points.
-/

namespace Labyrinth

theorem Text.suffix_of_after? {beginning s rest : Text} (h : after? beginning s = some rest) :
    rest <:+ s := by
  rw [eq_append_of_after? h]
  exact List.suffix_append ..

namespace Numeral

theorem suffix_of_leadingDigits? {s digits rest : Text}
    (h : leadingDigits? s = some (digits, rest)) : rest <:+ s := by
  rw [(eq_append_of_leadingDigits? h).1]
  exact List.suffix_append ..

theorem suffix_of_leadingInteger? {s numeral rest : Text}
    (h : leadingInteger? s = some (numeral, rest)) : rest <:+ s := by
  rw [(eq_append_of_leadingInteger? h).1]
  exact List.suffix_append ..

end Numeral

namespace Statement

/-- The text of a path statement, with its number and its body as they are written. -/
def pathText (digits body : Text) : Text :=
  'p' :: (digits ++ ':' :: body)

theorem form_pathText {digits : Text} (h : Numeral.isDigits digits = true) (body : Text) :
    Form.of? (pathText digits body) = some .path := by
  cases digits with
  | nil => cases h
  | cons d digits =>
      have hd : Numeral.isDigit d = true := Numeral.isDigit_of_mem h List.mem_cons_self
      have hnumbered : Form.isNumbered 'p' (pathText (d :: digits) body) = true := hd
      rw [Form.of?, hnumbered]
      rfl

theorem ofLine?_pathText {digits : Text} {id : Nat} (hdigits : Numeral.isDigits digits = true)
    (hid : Numeral.natural digits = .ok id) (body : Text) :
    ofLine? (pathText digits body) = some (.path id body) := by
  have hshape : pathText digits body = ['p'] ++ (digits ++ ':' :: body) := rfl
  refine ofLine?_of_read (form_pathText hdigits body) ?_
  rw [read, readPath, hshape]
  simp only [Text.after?_append, Option.bind_eq_bind, Option.bind_some,
    Numeral.leadingDigits?_append hdigits (show Numeral.isDigit ':' = false by decide),
    Text.after?, if_true, Option.pure_def, hid]
  rfl

end Statement

/-! ## Where a path starts -/

/-- A literal in front of a move clause is read as the coordinate it writes. -/
theorem Origin.read_text_append {c : Coordinate} (hc : c.Legible) (id : Nat) (clause : Text) :
    read id (c.text ++ clause) = .ok (.point c, clause) := by
  show readPoint (c.text ++ clause) = _
  unfold readPoint
  rw [Coordinate.leadingNumerals?_text_append]
  dsimp only
  rw [hc.ofNumerals]

theorem Origin.suffix_of_readPoint {body clause : Text} {origin : Origin}
    (h : readPoint body = .ok (origin, clause)) : clause <:+ body := by
  unfold readPoint at h
  split at h
  · cases h
  · next row col rest hsplit =>
      split at h
      · cases h
      · obtain ⟨-, rfl⟩ := Prod.mk.inj (Except.ok.inj h)
        unfold Coordinate.leadingNumerals? at hsplit
        obtain ⟨s₁, hbegin, hsplit⟩ := Option.bind_eq_some_iff.1 hsplit
        obtain ⟨⟨_, s₂⟩, hrow, hsplit⟩ := Option.bind_eq_some_iff.1 hsplit
        obtain ⟨s₃, hcomma, hsplit⟩ := Option.bind_eq_some_iff.1 hsplit
        obtain ⟨⟨_, s₄⟩, hcol, hsplit⟩ := Option.bind_eq_some_iff.1 hsplit
        obtain ⟨s₅, hend, hsplit⟩ := Option.bind_eq_some_iff.1 hsplit
        cases hsplit
        exact (Text.suffix_of_after? hend).trans <| (Numeral.suffix_of_leadingInteger? hcol).trans <|
          (Text.suffix_of_after? hcomma).trans <|
          (Numeral.suffix_of_leadingInteger? hrow).trans (Text.suffix_of_after? hbegin)

theorem Origin.suffix_of_readReference {body clause : Text} {origin : Origin}
    (h : readReference body = .ok (origin, clause)) : clause <:+ body := by
  unfold readReference at h
  split at h
  · cases h
  · next id offset rest hsplit =>
      split at h
      · cases h
      · obtain ⟨-, rfl⟩ := Prod.mk.inj (Except.ok.inj h)
        obtain ⟨s₁, hbegin, hsplit⟩ := Option.bind_eq_some_iff.1 hsplit
        obtain ⟨⟨_, s₂⟩, hid, hsplit⟩ := Option.bind_eq_some_iff.1 hsplit
        obtain ⟨s₃, hcomma, hsplit⟩ := Option.bind_eq_some_iff.1 hsplit
        obtain ⟨⟨_, s₄⟩, hoffset, hsplit⟩ := Option.bind_eq_some_iff.1 hsplit
        obtain ⟨s₅, hend, hsplit⟩ := Option.bind_eq_some_iff.1 hsplit
        cases hsplit
        exact (Text.suffix_of_after? hend).trans <| (Numeral.suffix_of_leadingDigits? hoffset).trans <|
          (Text.suffix_of_after? hcomma).trans <|
          (Numeral.suffix_of_leadingDigits? hid).trans (Text.suffix_of_after? hbegin)

/-- The move clause is the end of the body, as it is written. -/
theorem Origin.suffix_of_read {id : Nat} {body clause : Text} {origin : Origin}
    (h : read id body = .ok (origin, clause)) : clause <:+ body := by
  unfold read at h
  split at h
  · cases h
    exact List.suffix_cons ..
  · cases h
    exact List.suffix_cons ..
  · exact suffix_of_readPoint h
  · exact suffix_of_readReference h
  · cases h

theorem Registry.exists_of_resolve {r : Registry} {id offset : Int} {current : Option Int}
    {c : Coordinate} (h : r.resolve id offset current = .ok c) :
    ∃ p, r.get id = .ok p ∧ 0 ≤ offset ∧ offset ≤ p.moves.length ∧
      c = p.origin.destination (p.firstMoves offset) := by
  unfold resolve at h
  split at h
  · cases h
  · split at h
    · cases h
    · next p hget =>
        split at h
        · next hrange =>
            split at h
            · cases h
            · exact ⟨p, hget, hrange.1, hrange.2, (Except.ok.inj h).symm⟩
        · cases h

theorem Path.firstMoves_natCast (p : Path) (k : Nat) : p.firstMoves k = p.moves.take k := by
  rw [firstMoves, if_pos (Int.natCast_nonneg k), Int.toNat_natCast]

/-- The moves of a path lead to the points of its trajectory. -/
theorem Path.exists_point {p : Path} {moves : List Move} (hp : p.moves = Move.spell moves) {k : Nat}
    (hk : k ≤ p.moves.length) :
    ∃ points, p.trajectory = .ok points ∧ points[k]? = some (p.origin.destination (p.firstMoves k)) := by
  refine ⟨p.origin.points moves, ?_, ?_⟩
  · rw [trajectory, hp, Coordinate.trajectory_spell]
  · have hk : k ≤ moves.length := by
      rw [hp, Move.spell, List.length_map] at hk
      exact hk
    rw [Coordinate.getElem?_points p.origin hk, firstMoves_natCast, hp]

namespace Draft

variable {d : Draft} {id : Nat} {body clause : Text} {origin : Origin} {p : Path}
  {points : List Coordinate}

theorem Traces.origin_mem (h : d.Traces id body p points) : p.origin ∈ points := by
  obtain ⟨rest, rfl⟩ := Coordinate.exists_eq_cons_of_trajectory h.walked
  exact List.mem_cons_self

theorem Traces.located (h : d.Traces id body p points)
    (hread : Origin.read id body = .ok (origin, clause)) : d.locate id origin = .ok p.origin := by
  obtain ⟨origin', clause', hread', hlocate, -⟩ := h.origin
  rw [hread] at hread'
  cases hread'
  exact hlocate

/-- With its origin written out, a path is traced as before. -/
theorem Traces.written_out (h : d.Traces id body p points)
    (hread : Origin.read id body = .ok (origin, clause)) (hlegible : p.origin.Legible) :
    d.Traces id (p.origin.text ++ clause) p points := by
  obtain ⟨origin', clause', hread', -, hparse⟩ := h.origin
  rw [hread] at hread'
  cases hread'
  exact
    { h with
      origin := ⟨.point p.origin, clause, Origin.read_text_append hlegible id clause, rfl, hparse⟩ }

theorem understand_of_traces {line : Text} (h : Statement.ofLine? line = some (.path id body))
    (hp : d.Traces id body p points) : d.understand line = .ok (.path p points) := by
  have hsize : d.grid.height ≠ 0 := by
    have hinside := Table.contains_iff.1 (hp.inside _ hp.origin_mem)
    omega
  rw [understand_of_stated h hsize]
  exact resolvePath_of_traces hp

end Draft

/-! ## The line of a document -/

namespace Document

/-- A line that states a path, with these digits for its number. -/
structure SpellsPath (line digits : Text) (id : Nat) (body : Text) : Prop where
  written : normalized line = Statement.pathText digits body
  numeral : Numeral.isDigits digits = true
  number : Numeral.natural digits = .ok id

namespace SpellsPath

variable {line digits body : Text} {id : Nat}

theorem stated (h : SpellsPath line digits id body) :
    Statement.ofLine? (normalized line) = some (.path id body) := by
  rw [h.written]
  exact Statement.ofLine?_pathText h.numeral h.number body

theorem not_header (h : SpellsPath line digits id body) : checkHeader line ≠ .ok () :=
  checkHeader_ne_ok h.written (by decide)

/-- The text of a path statement is a line that states it, if the body is in normal form. -/
theorem of_isNormal (hdigits : Numeral.isDigits digits = true)
    (hnumber : Numeral.natural digits = .ok id) (hbody : ∀ c ∈ body, Text.IsNormal c) :
    (∀ c ∈ Statement.pathText digits body, Text.IsNormal c) ∧
      SpellsPath (Statement.pathText digits body) digits id body := by
  have hnormal : ∀ c ∈ Statement.pathText digits body, Text.IsNormal c := by
    intro c hc
    simp only [Statement.pathText, List.mem_cons, List.mem_append] at hc
    rcases hc with rfl | hc | rfl | hc
    · exact Text.isNormal_of_ascii (by decide) (by decide) (by decide)
    · exact Text.isNormal_of_isPlain (Numeral.isPlain_of_isDigits hdigits hc)
    · exact Text.isNormal_of_ascii (by decide) (by decide) (by decide)
    · exact hbody c hc
  exact ⟨hnormal, normalized_of_isNormal hnormal, hdigits, hnumber⟩

end SpellsPath

/-- What a reference names does not depend on when it is looked up: it is a point of the trajectory
that the path has at the end. -/
theorem exists_point_of_locate {before lines : List Text} {d : Draft} (hbefore : before <+: lines)
    (hd : Leaves lines d) {id other offset : Nat} {c : Coordinate}
    (h : (afterLines before).locate id (.along other offset) = .ok c) :
    ∃ points, d.paths.trajectory other = .ok points ∧ points[offset]? = some c := by
  obtain ⟨p, hget, -, hoffset, rfl⟩ :=
    Registry.exists_of_resolve (Outcome.mapError_eq_ok.1 h)
  have hfinal : d.paths.get other = .ok p := Leaves.get_of_get hbefore .through hd hget
  obtain ⟨moves, hmoves, -⟩ :=
    (represented_of_reached hd.reached).walks p (Registry.mem_of_get hfinal)
  obtain ⟨points, htrajectory, hpoint⟩ := Path.exists_point hmoves (Int.ofNat_le.1 hoffset)
  exact ⟨points, Registry.trajectory_of_get hfinal htrajectory, hpoint⟩

/-- Where a path starts can be written out. In a document that compiles, the origin of a path, be it
a marker or a move of another path, can be replaced by the coordinate it stands for at that line,
and the document comes to the same. On another path that is the point of its final trajectory that
the offset counts. -/
theorem compile_origin_written_out {text : Text} {d : Draft} {before after : List Text}
    {line digits body clause : Text} {id : Nat} {origin : Origin} (h : compile text = .done d)
    (hlines : Text.lines text = before ++ line :: after) (hline : SpellsPath line digits id body)
    (hread : Origin.read id body = .ok (origin, clause)) :
    ∃ c, (afterLines before).locate id origin = .ok c ∧
      (∀ other offset, origin = .along other offset →
        ∃ points, d.paths.trajectory other = .ok points ∧ points[offset]? = some c) ∧
      (∀ line' text', SpellsPath line' digits id (c.text ++ clause) →
        Text.lines text' = before ++ line' :: after → compile text' = .done d) ∧
      ∃ line' text', SpellsPath line' digits id (c.text ++ clause) ∧
        Text.lines text' = before ++ line' :: after := by
  rw [compile, hlines] at h
  obtain ⟨hpassed, e, m, hdone, -⟩ := (compileLines_append_cons hline.not_header).1 h
  have hreached := reached_of_passed hpassed
  have hwritten : normalized line ≠ [] := by
    rw [hline.written]
    exact List.cons_ne_nil _ _
  obtain ⟨action, hunderstood⟩ := exists_understood_of_carryOut hwritten hdone
  obtain ⟨p, points, rfl, htraced⟩ :
      ∃ p points, action = .path p points ∧ (afterLines before).Traces id body p points := by
    obtain ⟨s, hstated, hresolved⟩ := Draft.understand_eq_ok hunderstood
    rw [hline.stated] at hstated
    cases hstated
    exact Draft.resolvePath_eq_ok hresolved
  have hlegible : p.origin.Legible := by
    obtain ⟨hheight, hwidth⟩ := sides_lt_of_reached hreached
    exact Coordinate.legible_of_contains hheight hwidth (htraced.inside _ htraced.origin_mem)
  refine ⟨p.origin, htraced.located hread, ?_, ?_, ?_⟩
  · rintro other offset rfl
    exact exists_point_of_locate (List.prefix_append ..) (.of_done h) (htraced.located hread)
  · intro line' text' hline' hlines'
    have hunderstood' := Draft.understand_of_traces hline'.stated
      (htraced.written_out hread hlegible)
    rw [compile, hlines']
    apply (compileLines_replaced hline.not_header hline'.not_header ?_).2 h
    rw [carryOut_of_understand hunderstood', carryOut_of_understand hunderstood]
  · -- The clause is cut out of a line in normal form, and the literal is plain.
    have hclause : ∀ c ∈ clause, Text.IsNormal c := by
      intro c hc
      have hbody := (Origin.suffix_of_read hread).mem hc
      have hmem : c ∈ normalized line := by
        rw [hline.written]
        exact List.mem_cons_of_mem _ (List.mem_append_right _ (List.mem_cons_of_mem _ hbody))
      exact isNormal_of_mem_normalized hmem
    have hbody : ∀ c ∈ p.origin.text ++ clause, Text.IsNormal c := by
      intro c hc
      rcases List.mem_append.1 hc with hc | hc
      · exact Text.isNormal_of_isPlain (Coordinate.isPlain_of_mem_text hc)
      · exact hclause c hc
    obtain ⟨hnormal, hspells⟩ := SpellsPath.of_isNormal hline.numeral hline.number hbody
    obtain ⟨text', htext'⟩ := exists_text_replaced hlines (List.forall_mem_singleton.2 hnormal)
    exact ⟨_, text', hspells, htext'⟩

/-- A path starts on another, at a point that is still in the grid when a second size has cut it. -/
theorem compile_origin_written_out_on_another_path :
    ∃ d, compile "[version:1.0]\n[size:3,4]\nP1: c(0,0) r(2) d;\n[size:2,3]\nP02: p(1, 2) D;".toList =
        .done d ∧
      compile "[version:1.0]\n[size:3,4]\nP1: c(0,0) r(2) d;\n[size:2,3]\np02: c(0,2) d;".toList =
        .done d ∧
      d.paths.get 2 = .ok ⟨2, ⟨0, 2⟩, "d".toList⟩ ∧
      ∃ points, d.paths.trajectory 1 = .ok points ∧ points[2]? = some ⟨0, 2⟩ := by
  let text :=
    "[version:1.0]\n[size:3,4]\nP1: c(0,0) r(2) d;\n[size:2,3]\nP02: p(1, 2) D;".toList
  let before :=
    ["[version:1.0]", "[size:3,4]", "P1: c(0,0) r(2) d;", "[size:2,3]"].map String.toList
  have h : compile text = .done (compile text).state :=
    Attempt.eq_done_iff.2 ⟨rfl, by decide +kernel⟩
  have hlines : Text.lines text = before ++ "P02: p(1, 2) D;".toList :: [] := by decide +kernel
  have hline : SpellsPath "P02: p(1, 2) D;".toList "02".toList 2 "p(1,2)d;".toList :=
    ⟨by decide +kernel, by decide, by decide⟩
  have hread : Origin.read 2 "p(1,2)d;".toList = .ok (.along 1 2, "d;".toList) := by decide +kernel
  obtain ⟨c, hc, hpoint, hreplaced, -⟩ := compile_origin_written_out h hlines hline hread
  obtain rfl : c = ⟨0, 2⟩ := by
    have hlocated : (afterLines before).locate 2 (.along 1 2) = .ok ⟨0, 2⟩ := by decide +kernel
    rw [hlocated] at hc
    exact (Except.ok.inj hc).symm
  have hline' : SpellsPath "p02: c(0,2) d;".toList "02".toList 2 "c(0,2)d;".toList :=
    ⟨by decide +kernel, by decide, by decide⟩
  exact ⟨_, h, hreplaced _ _ hline' (by decide +kernel), by decide +kernel, hpoint 1 2 rfl⟩

end Document

end Labyrinth
