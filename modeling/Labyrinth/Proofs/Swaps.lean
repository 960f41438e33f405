import Labyrinth.Proofs.Unseen

/-!
# Lines that change places

Two lines in a row can change places if neither finds out about the other. What a line looks up
does not depend on the cells or on the visits, so a visited path and a row are always independent,
and a path is independent of whatever does not name it. What a line writes can be written in any
order, as opening a cell twice is opening it once, a row and a visit are not in the same table, and
two segments that share no cell add their visits to different cells.

So each of the two lines does the same in either place, and what comes out is the same draft.
There is one exception: of two paths, the one that is defined first is also registered first.
The order of the registry is nothing that a line looks at, so the difference is there at the end
and makes no other.
-/

namespace Labyrinth

/-! ## The order of the registry -/

namespace Registry

/-- The same paths under the same numbers, perhaps registered in another order. -/
structure SamePaths (r s : Registry) : Prop where
  perm : s.paths.Perm r.paths
  find : ∀ id, s.find? id = r.find? id

variable {r s : Registry}

theorem SamePaths.refl (r : Registry) : SamePaths r r :=
  ⟨.refl _, fun _ => rfl⟩

theorem SamePaths.snoc (h : SamePaths r s) (p : Path) :
    SamePaths ⟨r.paths ++ [p]⟩ ⟨s.paths ++ [p]⟩ where
  perm := h.perm.append_right [p]
  find := fun id => by rw [find?_snoc, find?_snoc, h.find]

/-- It makes no difference which of two paths is registered first if they have two numbers. -/
theorem samePaths_snoc_snoc (r : Registry) {p q : Path} (hne : p.id ≠ q.id) :
    SamePaths ⟨r.paths ++ [p] ++ [q]⟩ ⟨r.paths ++ [q] ++ [p]⟩ where
  perm := by
    rw [List.append_assoc, List.append_assoc]
    exact List.perm_append_comm.append_left r.paths
  find := by
    intro id
    have hswapped := find?_snoc ⟨r.paths ++ [q]⟩ p id
    refine hswapped.trans (.trans ?_ (find?_snoc ⟨r.paths ++ [p]⟩ q id).symm)
    rw [find?_snoc, find?_snoc, Option.or_assoc, Option.or_assoc]
    congr 1
    by_cases hp : p.id = id
    · rw [if_pos hp, if_neg fun hq => hne (hp.trans hq.symm), Option.none_or, Option.or_none]
    · rw [if_neg hp, Option.none_or, Option.or_none]

theorem unseen_samePaths : Unseen Eq SamePaths where
  refl := fun _ => rfl
  lined := by
    rintro t _ rfl color line
    rfl
  find := SamePaths.find
  snoc := SamePaths.snoc

end Registry

/-! ## Writing in another order -/

theorem Grid.opened_comm {g : Grid} {height width : Nat} (hg : g.HasSides height width)
    {points others : List Coordinate} (hpoints : ∀ c ∈ points, g.contains c = true)
    (hothers : ∀ c ∈ others, g.contains c = true) :
    (g.opened points).opened others = (g.opened others).opened points := by
  have hfirst := hasSides_opened hg points
  have hsecond := hasSides_opened hg others
  apply (hasSides_opened hfirst others).ext_cell (hasSides_opened hsecond points)
  intro row col
  rw [cell?_opened (fun c hc => hfirst.contains_congr hg (hothers c hc)), cell?_opened hpoints,
    cell?_opened (fun c hc => hsecond.contains_congr hg (hpoints c hc)), cell?_opened hothers]
  by_cases hp : (⟨row, col⟩ : Coordinate) ∈ points
  · simp only [hp, if_true]
    split
    · rfl
    · rfl
  · simp only [hp, if_false]

theorem Segment.visitsTo_eq_nil {s : Segment} {c : Coordinate} (hc : c ∉ s.points) :
    s.visitsTo c = [] := by
  unfold visitsTo
  split
  · next shapes _ =>
      rw [List.map_eq_nil_iff, List.filter_eq_nil_iff]
      intro e he
      rw [decide_eq_true_eq]
      rintro rfl
      exact hc (List.of_mem_zip he).1
  · rfl

/-- Lines without a common cell can be drawn in any order. -/
theorem lined_comm {visits : Table (Array Visit)} {height width : Nat}
    (hvisits : visits.HasSides height width) {a b : Segment} {shapes₁ shapes₂ : List Shape}
    (hshapes₁ : Line.shapes a.points = .ok shapes₁) (hshapes₂ : Line.shapes b.points = .ok shapes₂)
    (hin₁ : ∀ c ∈ a.points, visits.contains c = true)
    (hin₂ : ∀ c ∈ b.points, visits.contains c = true) (hapart : ∀ c ∈ a.points, c ∉ b.points) :
    lined (lined visits a.color (a.points.zip shapes₁)) b.color (b.points.zip shapes₂) =
      lined (lined visits b.color (b.points.zip shapes₂)) a.color (a.points.zip shapes₁) := by
  have hfirst := hasSides_lined hvisits a.color (a.points.zip shapes₁)
  have hsecond := hasSides_lined hvisits b.color (b.points.zip shapes₂)
  apply (hasSides_lined hfirst ..).ext_cell (hasSides_lined hsecond ..)
  intro row col
  rw [cell?_lined_segment hshapes₂ (fun c hc => hfirst.contains_congr hvisits (hin₂ c hc)),
    cell?_lined_segment hshapes₁ hin₁,
    cell?_lined_segment hshapes₁ (fun c hc => hsecond.contains_congr hvisits (hin₁ c hc)),
    cell?_lined_segment hshapes₂ hin₂, Option.map_map, Option.map_map]
  congr 1
  funext vs
  dsimp only [Function.comp]
  -- One of the two leaves nothing in the cell.
  by_cases ha : (⟨row, col⟩ : Coordinate) ∈ a.points
  · rw [Segment.visitsTo_eq_nil (hapart _ ha), Array.append_empty, Array.append_empty]
  · rw [Segment.visitsTo_eq_nil ha, Array.append_empty, Array.append_empty]

/-! ## Independence -/

namespace Statement

/-- A visited path, and a statement about the grid that does not define the path it names. -/
inductive DrawsBeside (s : Statement) : Statement → Prop
  | row {index : Nat} {cells : Text} (drawing : s.form = .range ∨ s.form = .chain) :
      DrawsBeside s (.row index cells)
  | path {id : Nat} {body : Text} (drawing : s.form = .range ∨ s.form = .chain)
      (unnamed : ¬ s.Names id) : DrawsBeside s (.path id body)

/-- A statement and one right after it that can change places: two paths, the second of which does
not start on the first, a visited path and something about the grid, in whatever order, or two
visited paths without a common cell. -/
inductive Independent (paths : Registry) : Statement → Statement → Prop
  | paths {id₁ id₂ : Nat} {body₁ body₂ : Text} (unnamed : ¬ (Statement.path id₂ body₂).Names id₁) :
      Independent paths (.path id₁ body₁) (.path id₂ body₂)
  | before {s t : Statement} (beside : s.DrawsBeside t) : Independent paths s t
  | after {s t : Statement} (beside : t.DrawsBeside s) : Independent paths s t
  | apart {s t : Statement} {a b : Segment} (first : s.segment? paths = some a)
      (second : t.segment? paths = some b) (disjoint : ∀ c ∈ a.points, c ∉ b.points) :
      Independent paths s t

variable {s t : Statement} {paths : Registry}

theorem drawing_of_segment? {a : Segment} (h : s.segment? paths = some a) :
    s.form = .range ∨ s.form = .chain := by
  by_contra hform
  rw [segment?_eq_none hform] at h
  cases h

theorem ne_path_of_drawing (h : s.form = .range ∨ s.form = .chain) (id : Nat) (body : Text) :
    s ≠ .path id body := by
  rintro rfl
  rcases h with h | h <;> cases h

theorem Independent.form_ne_setting (h : Independent paths s t) :
    s.form ≠ .setting ∧ t.form ≠ .setting := by
  have hdrawing : ∀ {u : Statement}, u.form = .range ∨ u.form = .chain → u.form ≠ .setting := by
    rintro u (hform | hform) hsetting
    · exact Form.noConfusion (hform.symm.trans hsetting)
    · exact Form.noConfusion (hform.symm.trans hsetting)
  cases h with
  | paths _ => exact ⟨Form.noConfusion, Form.noConfusion⟩
  | before hbeside =>
      cases hbeside with
      | row hform => exact ⟨hdrawing hform, Form.noConfusion⟩
      | path hform _ => exact ⟨hdrawing hform, Form.noConfusion⟩
  | after hbeside =>
      cases hbeside with
      | row hform => exact ⟨Form.noConfusion, hdrawing hform⟩
      | path hform _ => exact ⟨Form.noConfusion, hdrawing hform⟩
  | apart hfirst hsecond _ =>
      exact ⟨hdrawing (drawing_of_segment? hfirst), hdrawing (drawing_of_segment? hsecond)⟩

end Statement

/-! ## Doing one before the other -/

namespace Draft

variable {d d' m e : Draft} {s t : Statement}

theorem Does.hasSides (h : d.Does s m) (hd : d.description.Framed) :
    m.grid.HasSides d.grid.height d.grid.width := by
  cases h with
  | row _ _ => exact Grid.hasSides_withRow hd.hasSides ..
  | path _ => exact Grid.hasSides_opened hd.hasSides _
  | visit _ _ _ _ => exact hd.hasSides

theorem Does.marker_eq (h : d.Does s m) : m.description.marker = d.description.marker := by
  funext marker
  cases h <;> cases marker <;> rfl

/-- A statement leaves the registry alone or is a path and adds itself. -/
theorem Does.paths_cases (h : d.Does s m) :
    m.paths = d.paths ∨ ∃ (id : Nat) (body : Text) (p : Path), s = .path id body ∧ p.id = id ∧
      m.paths = ⟨d.paths.paths ++ [p]⟩ := by
  cases h with
  | path htraced => exact .inr ⟨_, _, _, rfl, htraced.id_eq, rfl⟩
  | _ => exact .inl rfl

/-- What a statement finds after another it finds before it, unless the other defines the path
that it names. -/
theorem Does.agreesFor_before (h : d.Does s m) (hd : d.description.Framed)
    (hunnamed : ∀ id body, s = .path id body → ¬ t.Names id) : AgreesFor t m d where
  height := (h.hasSides hd).height_eq.symm
  width := (h.hasSides hd).width_eq.symm
  marker := h.marker_eq.symm
  named := by
    intro other q hnames hget
    rcases h.paths_cases with heq | ⟨id, body, p, rfl, hid, heq⟩
    · rwa [heq] at hget
    · rw [heq] at hget
      refine Registry.get_of_get_snoc ?_ hget
      rintro rfl
      rw [hid] at hnames
      exact hunnamed id body rfl hnames
  free := by
    intro id _ _ hfree
    rcases h.paths_cases with heq | ⟨_, _, _, -, -, heq⟩
    · rwa [heq] at hfree
    · rw [heq] at hfree
      exact (Registry.contains_snoc.1 hfree).1

/-- What a statement finds before another it finds after it, unless they define the same path. -/
theorem Does.agreesFor_after (h : d.Does s m) (hd : d.description.Framed)
    (hfree : ∀ id₁ body₁ id₂ body₂, s = .path id₁ body₁ → t = .path id₂ body₂ → id₁ ≠ id₂) :
    AgreesFor t d m where
  height := (h.hasSides hd).height_eq
  width := (h.hasSides hd).width_eq
  marker := h.marker_eq
  named := by
    intro other q _ hget
    rcases h.paths_cases with heq | ⟨_, _, _, -, -, heq⟩
    · rwa [heq]
    · rw [heq]
      exact Registry.get_mono (List.prefix_append ..) hget
  free := by
    intro id₂ body₂ ht hkept
    rcases h.paths_cases with heq | ⟨id₁, body₁, p, rfl, hid, heq⟩
    · rwa [heq]
    · rw [heq, Registry.contains_snoc, hid]
      exact ⟨hkept, Int.ofNat_inj.not.2 (hfree id₁ body₁ id₂ body₂ rfl ht)⟩

/-- A visited path draws a segment, and it draws the same one wherever it finds the same. -/
theorem Does.exists_segment (h : d.Does s m) (hs : s.form = .range ∨ s.form = .chain) :
    ∃ a shapes, s.segment? d.paths = some a ∧ Line.shapes a.points = .ok shapes ∧
      (∀ c ∈ a.points, d.grid.contains c = true) ∧
      m = d.withVisits (lined d.description.visits a.color (a.points.zip shapes)) ∧
      ∀ d', AgreesFor s d d' →
        d'.Does s (d'.withVisits (lined d'.description.visits a.color (a.points.zip shapes))) := by
  cases h with
  | row _ _ => rcases hs with hs | hs <;> cases hs
  | path _ => rcases hs with hs | hs <;> cases hs
  | visit _ hresolved hshapes hin =>
      obtain ⟨a, ha, heq, -⟩ := exists_segment_of_resolve hresolved hs
      cases heq
      refine ⟨_, _, ha, hshapes, hin, rfl, fun d' hagrees => ?_⟩
      refine .visit hs (hagrees.resolve hresolved) hshapes fun c hc => ?_
      rw [hagrees.contains_eq]
      exact hin c hc

/-- Any other statement changes the grid and perhaps the registry, and that alike wherever it finds
the same. -/
theorem Does.exists_grid_change (h : d.Does s m) (hs : ¬ (s.form = .range ∨ s.form = .chain)) :
    ∃ (change : Grid → Grid) (register : Registry → Registry),
      m = { d.withGrid (change d.grid) with paths := register d.paths } ∧
      ∀ d', AgreesFor s d d' →
        d'.Does s { d'.withGrid (change d'.grid) with paths := register d'.paths } := by
  cases h with
  | @row index cells hin hfits =>
      refine ⟨fun g => g.withRow index (cells.take d.grid.width).zipIdx, id, rfl, ?_⟩
      intro d' hagrees
      have hrow : d'.Does (.row index cells) _ :=
        .row (hagrees.height ▸ hin) (hagrees.width ▸ hfits)
      rw [hagrees.width] at hrow
      exact hrow
  | @path id body p points htraced =>
      exact ⟨fun g => g.opened points, fun r => ⟨r.paths ++ [p]⟩, rfl,
        fun d' hagrees => .path (hagrees.traces htraced)⟩
  | visit hdrawing _ _ _ => exact absurd hdrawing hs

/-- A visited path and a statement about the grid come to the same in any order. -/
theorem does_beside_comm (hd : d.description.Framed) (hbeside : s.DrawsBeside t) :
    (∃ m, d.Does s m ∧ m.Does t e) ↔ ∃ m, d.Does t m ∧ m.Does s e := by
  obtain ⟨hs, ht, hunnamed⟩ : (s.form = .range ∨ s.form = .chain) ∧
      ¬ (t.form = .range ∨ t.form = .chain) ∧ ∀ id body, t = .path id body → ¬ s.Names id := by
    cases hbeside with
    | row hs => exact ⟨hs, by simp [Statement.form], fun _ _ => nofun⟩
    | path hs hunnamed =>
        refine ⟨hs, by simp [Statement.form], ?_⟩
        rintro _ _ ⟨⟩
        exact hunnamed
  have hpath := Statement.ne_path_of_drawing hs
  constructor
  · rintro ⟨m, hfirst, hsecond⟩
    have hbefore : AgreesFor t m d :=
      hfirst.agreesFor_before hd fun id body heq => absurd heq (hpath id body)
    obtain ⟨a, shapes, -, -, -, rfl, hdraw⟩ := hfirst.exists_segment hs
    obtain ⟨change, register, rfl, hchange⟩ := hsecond.exists_grid_change ht
    have hdone := hchange d hbefore
    exact ⟨_, hdone,
      hdraw _ (hdone.agreesFor_after hd fun _ _ id body _ heq => absurd heq (hpath id body))⟩
  · rintro ⟨m, hfirst, hsecond⟩
    have hbefore : AgreesFor s m d := hfirst.agreesFor_before hd hunnamed
    obtain ⟨change, register, rfl, hchange⟩ := hfirst.exists_grid_change ht
    obtain ⟨a, shapes, -, -, -, rfl, hdraw⟩ := hsecond.exists_segment hs
    have hdone := hdraw d hbefore
    exact ⟨_, hdone,
      hchange _ (hdone.agreesFor_after hd fun id body _ _ heq => absurd heq (hpath id body))⟩

theorem exists_traces_of_does {id : Nat} {body : Text} (h : d.Does (.path id body) m) :
    ∃ p points, d.Traces id body p points ∧
      m = { d.withGrid (d.grid.opened points) with paths := ⟨d.paths.paths ++ [p]⟩ } := by
  cases h with
  | path htraced => exact ⟨_, _, htraced, rfl⟩
  | visit hdrawing _ _ _ => rcases hdrawing with hdrawing | hdrawing <;> cases hdrawing

/-- Two paths are defined in any order if the second does not start on the first. -/
theorem does_paths_comm {id₁ id₂ : Nat} {body₁ body₂ : Text} (hd : d.description.Framed)
    (hfirst : d.Does (.path id₁ body₁) m) (hsecond : m.Does (.path id₂ body₂) e)
    (hunnamed : ¬ (Statement.path id₂ body₂).Names id₁) :
    ∃ m' e', d.Does (.path id₂ body₂) m' ∧ m'.Does (.path id₁ body₁) e' ∧
      Resembles Eq Registry.SamePaths e e' := by
  have hbefore : AgreesFor (.path id₂ body₂) m d := by
    refine hfirst.agreesFor_before hd ?_
    rintro _ _ ⟨⟩
    exact hunnamed
  have hsides := hfirst.hasSides hd
  obtain ⟨p, points, htraced, rfl⟩ := exists_traces_of_does hfirst
  obtain ⟨q, others, htraced', rfl⟩ := exists_traces_of_does hsecond
  have hne : p.id ≠ q.id := (Registry.contains_snoc.1 htraced'.free).2
  have hdone := Does.path (hbefore.traces htraced')
  have hafter := hdone.agreesFor_after (t := .path id₁ body₁) hd <| by
    rintro _ _ _ _ ⟨⟩ ⟨⟩ rfl
    exact hne (htraced.id_eq.trans htraced'.id_eq.symm)
  refine ⟨_, _, hdone, .path (hafter.traces htraced), ?_⟩
  have hothers : ∀ c ∈ others, d.grid.contains c = true :=
    fun c hc => hd.hasSides.contains_congr hsides (htraced'.inside c hc)
  show Resembles _ _
    { d.withGrid ((d.grid.opened points).opened others) with
      paths := ⟨d.paths.paths ++ [p] ++ [q]⟩ }
    { d.withGrid ((d.grid.opened others).opened points) with
      paths := ⟨d.paths.paths ++ [q] ++ [p]⟩ }
  have hgrid : (d.grid.opened points).opened others = (d.grid.opened others).opened points :=
    Grid.opened_comm hd.hasSides htraced.inside hothers
  rw [← hgrid]
  exact .differing rfl (d.paths.samePaths_snoc_snoc hne)

/-- Two visited paths without a common cell are drawn in any order. -/
theorem does_apart_comm {paths : Registry} {a b : Segment} (hd : d.description.Framed)
    (hpaths : d.paths.paths <+: paths.paths) (hfirst : d.Does s m) (hsecond : m.Does t e)
    (ha : s.segment? paths = some a) (hb : t.segment? paths = some b)
    (hapart : ∀ c ∈ a.points, c ∉ b.points) : ∃ m', d.Does t m' ∧ m'.Does s e := by
  have hs := Statement.drawing_of_segment? ha
  have ht := Statement.drawing_of_segment? hb
  have hbefore : AgreesFor t m d :=
    hfirst.agreesFor_before hd fun _ _ heq => absurd heq (Statement.ne_path_of_drawing hs _ _)
  obtain ⟨a', shapes₁, ha', hshapes₁, hin₁, rfl, hdraw₁⟩ := hfirst.exists_segment hs
  obtain ⟨b', shapes₂, hb', hshapes₂, hin₂, rfl, hdraw₂⟩ := hsecond.exists_segment ht
  obtain rfl : a' = a := Option.some.inj ((Statement.segment?_mono hpaths ha').symm.trans ha)
  obtain rfl : b' = b := Option.some.inj ((Statement.segment?_mono hpaths hb').symm.trans hb)
  have hvisits : ∀ {c}, d.grid.contains c = true → d.description.visits.contains c = true :=
    hd.visits.contains_congr hd.hasSides
  have hlined := lined_comm hd.visits hshapes₁ hshapes₂ (fun c hc => hvisits (hin₁ c hc))
    (fun c hc => hvisits (hin₂ c hc)) hapart
  have hdone := hdraw₂ d hbefore
  have hafter : AgreesFor s d _ := hdone.agreesFor_after hd fun _ _ _ _ heq =>
    absurd heq (Statement.ne_path_of_drawing ht _ _)
  have hagain := hdraw₁ _ hafter
  refine ⟨_, hdone, ?_⟩
  show Does _ s (d.withVisits (lined (lined d.description.visits _ _) _ _))
  rw [hlined]
  exact hagain

/-- Of two independent statements, the second can come first. -/
theorem does_swapped {paths : Registry} (hd : d.description.Framed)
    (hindependent : s.Independent paths t) (hpaths : d.paths.paths <+: paths.paths)
    (hfirst : d.Does s m) (hsecond : m.Does t e) :
    ∃ m' e', d.Does t m' ∧ m'.Does s e' ∧ Resembles Eq Registry.SamePaths e e' := by
  have hsame : Resembles Eq Registry.SamePaths e e := .differing rfl (.refl _)
  cases hindependent with
  | paths hunnamed => exact does_paths_comm hd hfirst hsecond hunnamed
  | before hbeside =>
      obtain ⟨m', hfirst', hsecond'⟩ := (does_beside_comm hd hbeside).1 ⟨m, hfirst, hsecond⟩
      exact ⟨m', e, hfirst', hsecond', hsame⟩
  | after hbeside =>
      obtain ⟨m', hfirst', hsecond'⟩ := (does_beside_comm hd hbeside).2 ⟨m, hfirst, hsecond⟩
      exact ⟨m', e, hfirst', hsecond', hsame⟩
  | apart ha hb hapart =>
      obtain ⟨m', hfirst', hsecond'⟩ := does_apart_comm hd hpaths hfirst hsecond ha hb hapart
      exact ⟨m', e, hfirst', hsecond', hsame⟩

end Draft

/-! ## Documents -/

namespace Document

theorem checkHeader_ne_ok_of_stated {line : Text} {s : Statement}
    (h : Statement.ofLine? (normalized line) = some s) (hs : s.form ≠ .setting) :
    checkHeader line ≠ .ok () := by
  intro hheader
  obtain ⟨rest, hrest⟩ := exists_of_checkHeader hheader
  have hform := (Statement.ofLine?_eq_some_iff.1 h).1
  rw [hrest] at hform
  exact hs (Option.some.inj hform).symm

/-- Independent lines change places. In a document that compiles, two lines that follow each other
can be swapped if both state paths, and the second does not start on the first, if one states a
visited path and the other a row or a path that the first does not name, or if both state visited
paths and their segments have no cell in common. The document compiles to the same description and
the same paths. -/
theorem compile_swapped {text : Text} {d : Draft} {before after : List Text} {line₁ line₂ : Text}
    {s t : Statement} (h : compile text = .done d)
    (hlines : Text.lines text = before ++ line₁ :: line₂ :: after)
    (hs : Statement.ofLine? (normalized line₁) = some s)
    (ht : Statement.ofLine? (normalized line₂) = some t) (hindependent : s.Independent d.paths t) :
    (∀ text', Text.lines text' = before ++ line₂ :: line₁ :: after →
      ∃ e, compile text' = .done e ∧ e.description = d.description ∧
        e.paths.paths.Perm d.paths.paths ∧ ∀ id, e.paths.find? id = d.paths.find? id) ∧
    ∃ text', Text.lines text' = before ++ line₂ :: line₁ :: after := by
  constructor
  · intro text' hlines'
    obtain ⟨hs', ht'⟩ := hindependent.form_ne_setting
    rw [compile, hlines, compileLines_append_cons (checkHeader_ne_ok_of_stated hs hs')] at h
    obtain ⟨hpassed, b, m, hfirst, hrest, hend⟩ := h
    have hframed := (reached_of_passed hpassed).framed
    have hpaths : (afterLines before).paths.paths <+: d.paths.paths := by
      have hkept := paths_of_each hframed (Attempt.each_cons_eq_done.2 ⟨b, hfirst, hrest⟩)
      have hm := framed_of_each (framed_of_carryOut hframed hfirst) hrest
      obtain ⟨_, _, rfl⟩ := exists_withGrid_of_finish hm hend
      exact hkept
    rw [List.zipIdx_cons, Attempt.each_cons_eq_done] at hrest
    obtain ⟨c, hsecond, hafter⟩ := hrest
    have hb := framed_of_carryOut hframed hfirst
    obtain ⟨hsize, hdoes₁⟩ := (carryOut_eq_done_iff_does hframed hs hs').1 hfirst
    obtain ⟨-, hdoes₂⟩ := (carryOut_eq_done_iff_does hb ht ht').1 hsecond
    obtain ⟨b', c', hdoes₂', hdoes₁', hc⟩ :=
      Draft.does_swapped hframed hindependent hpaths hdoes₁ hdoes₂
    have hb' := hdoes₂'.framed hframed
    have hsize' : b'.grid.height ≠ 0 := by
      rw [(hdoes₂'.hasSides hframed).height_eq]
      exact hsize
    obtain ⟨m', d', hafter', hend', hd'⟩ := resembles_end Registry.unseen_samePaths hc
      (hdoes₂.framed hb) (hdoes₁'.framed hb') hafter hend (before.length + 3)
    have hfirst' : carryOut _ (line₂, before.length + 1) = .done b' :=
      (carryOut_eq_done_iff_does hframed ht ht').2 ⟨hsize, hdoes₂'⟩
    have hsecond' : carryOut b' (line₁, before.length + 2) = .done c' :=
      (carryOut_eq_done_iff_does hb' hs hs').2 ⟨hsize', hdoes₁'⟩
    refine ⟨d', ?_, ?_⟩
    · rw [compile, hlines', compileLines_append_cons (checkHeader_ne_ok_of_stated ht ht')]
      exact ⟨hpassed, b', m', hfirst', Attempt.each_cons_eq_done.2 ⟨c', hsecond', hafter'⟩, hend'⟩
    · obtain ⟨rfl, hsame⟩ := hd'
      exact ⟨rfl, hsame.perm, hsame.find⟩
  · apply Text.exists_lines_eq
    intro line hline
    apply Text.not_isLineBreak_of_mem_lines (s := text)
    rw [hlines]
    simp only [List.mem_append, List.mem_cons] at hline ⊢
    rwa [or_left_comm (a := line = line₁)]

/-- Two paths that start on the same one. They are registered in the order of the lines. -/
theorem compile_swapped_siblings :
    ∃ d e, compile ("[version:1.0]\n[size:2,3]\np0:c(0,0)r;\nP1: p(0, 0) d r;\n" ++
        "p2:p(0,1)rd;\nv:p(2,1,2);").toList = .done d ∧
      compile ("[version:1.0]\n[size:2,3]\np0:c(0,0)r;\np2:p(0,1)rd;\n" ++
        "P1: p(0, 0) d r;\nv:p(2,1,2);").toList = .done e ∧
      e.description = d.description ∧ e.paths ≠ d.paths := by
  let text := ("[version:1.0]\n[size:2,3]\np0:c(0,0)r;\nP1: p(0, 0) d r;\n" ++
    "p2:p(0,1)rd;\nv:p(2,1,2);").toList
  let text' := ("[version:1.0]\n[size:2,3]\np0:c(0,0)r;\np2:p(0,1)rd;\n" ++
    "P1: p(0, 0) d r;\nv:p(2,1,2);").toList
  let before := ["[version:1.0]", "[size:2,3]", "p0:c(0,0)r;"].map String.toList
  have h : compile text = .done (compile text).state :=
    Attempt.eq_done_iff.2 ⟨rfl, by decide +kernel⟩
  have hlines : Text.lines text = before ++ "P1: p(0, 0) d r;".toList :: "p2:p(0,1)rd;".toList ::
      ["v:p(2,1,2);".toList] := by
    decide +kernel
  have hs : Statement.ofLine? (normalized "P1: p(0, 0) d r;".toList) =
      some (.path 1 "p(0,0)dr;".toList) := by
    decide +kernel
  have ht : Statement.ofLine? (normalized "p2:p(0,1)rd;".toList) =
      some (.path 2 "p(0,1)rd;".toList) := by
    decide +kernel
  have hunnamed : ¬ (Statement.path 2 "p(0,1)rd;".toList).Names 1 := by
    rintro ⟨k, offset, clause, hread, hk⟩
    have horigin : Origin.read 2 "p(0,1)rd;".toList = .ok (.along 0 1, "rd;".toList) := by
      decide +kernel
    rw [horigin] at hread
    cases hread
    cases hk
  obtain ⟨e, he, hdescription, -⟩ := (compile_swapped h hlines hs ht (.paths hunnamed)).1 text' (by
    decide +kernel)
  refine ⟨_, e, h, he, hdescription, ?_⟩
  obtain rfl : (compile text').state = e := (Attempt.eq_done_iff.1 he).1
  decide +kernel

end Document

end Labyrinth
