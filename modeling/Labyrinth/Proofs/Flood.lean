import Labyrinth.Maze.Flood
import Labyrinth.Proofs.Passages

/-!
# A flood finds what can be reached

The flood keeps a second copy of the maze in which the cells it has reached are
closed. `Flood.Sound` says what that copy means: a cell that is open in the maze
and closed in the copy either still waits to be looked around from, or is done,
and then it is not the goal and none of its neighbours is fresh any more.

`finds_eq_ok` follows: on a rectangular maze the flood never fails, and its answer
is whether the goal is joined to a cell that waits. The proof goes with the flood,
one look around at a time; on a walk from a cell that was just done, the first cell
that is not done waits.
-/

namespace Labyrinth.Maze

theorem contains_of_open {m : Maze} {height width : Nat} (hm : m.HasSides height width)
    {c : Coordinate} (h : m.Open c) : m.contains c = true := by
  obtain ⟨row, col, rfl, ho⟩ := h
  obtain ⟨hrow, hcol⟩ := lt_of_isOpen hm ho
  rw [Table.contains_iff, hm.height_eq, hm.width_eq]
  dsimp only
  omega

theorem get_of_contains {m : Maze} {height width : Nat} (hm : m.HasSides height width)
    {c : Coordinate} (hc : m.contains c = true) :
    ∃ isOpen, m.get c = .ok isOpen ∧ (isOpen = true ↔ m.Open c) := by
  obtain ⟨isOpen, hget⟩ := Table.get_of_contains hm.rectangular hc
  have hcell := (Table.get_eq_ok_iff hm.rectangular hc).1 hget
  obtain ⟨hrow, -, hcol, -⟩ := Table.contains_iff.1 hc
  refine ⟨isOpen, hget, ?_⟩
  obtain ⟨row, col⟩ := c
  obtain ⟨i, rfl⟩ := Int.eq_ofNat_of_zero_le hrow
  obtain ⟨j, rfl⟩ := Int.eq_ofNat_of_zero_le hcol
  rw [open_natCast, Maze.isOpen, beq_iff_eq]
  rw [show m.cell? i j = some isOpen from hcell, Option.some.injEq]

namespace Flood

variable {m : Maze} {goal : Coordinate} {height width : Nat}

/-- What the copy with the reached cells closed means. -/
structure Sound (m : Maze) (goal : Coordinate) (height width : Nat) (f : Flood) : Prop where
  sides : f.fresh.HasSides height width
  fresh_open : ∀ c, f.fresh.Open c → m.Open c
  waiting_open : ∀ c ∈ f.waiting, m.Open c
  done : ∀ c, m.Open c → ¬ f.fresh.Open c → c ∉ f.waiting →
    c ≠ goal ∧ ∀ d, m.Passage c d → ¬ f.fresh.Open d

/-- Reaching a cell makes it wait and takes its freshness. -/
theorem open_fresh_reach {f : Flood} {c : Coordinate} (hc : m.Open c) (d : Coordinate) :
    (f.reach c).fresh.Open d ↔ f.fresh.Open d ∧ c ≠ d := by
  obtain ⟨i, j, rfl, -⟩ := hc
  constructor
  · rintro ⟨k, l, rfl, ho⟩
    obtain ⟨ho, hne⟩ := isOpen_put_false.1 ho
    refine ⟨open_natCast.2 ho, fun heq => hne ?_⟩
    obtain ⟨hk, hl⟩ := Coordinate.mk.inj heq
    exact ⟨Int.ofNat.inj hk, Int.ofNat.inj hl⟩
  · rintro ⟨⟨k, l, rfl, ho⟩, hne⟩
    refine open_natCast.2 (isOpen_put_false.2 ⟨ho, ?_⟩)
    rintro ⟨hk, hl⟩
    exact hne (by rw [show i = k from hk, show j = l from hl])

theorem isFresh_iff {f : Flood} {c : Coordinate} (hc : m.Open c) :
    f.isFresh c = true ↔ f.fresh.Open c := by
  obtain ⟨i, j, rfl, -⟩ := hc
  exact open_natCast.symm

/-- Looking at a neighbour reaches it exactly if it was fresh. -/
theorem look_eq_ok (hm : m.HasSides height width) {f : Flood}
    (hf : f.fresh.HasSides height width) (hsub : ∀ c, f.fresh.Open c → m.Open c)
    (c : Coordinate) :
    ∃ g, look m f c = .ok g ∧ g.fresh.HasSides height width ∧
      (∀ d, g.fresh.Open d ↔ f.fresh.Open d ∧ c ≠ d) ∧
      (∀ d, d ∈ g.waiting ↔ d ∈ f.waiting ∨ (f.fresh.Open d ∧ c = d)) := by
  unfold look
  by_cases hin : m.contains c = true
  · obtain ⟨isOpen, hget, hopen⟩ := get_of_contains hm hin
    rw [if_pos hin, hget]
    dsimp only
    by_cases hreach : m.Open c ∧ f.fresh.Open c
    · obtain ⟨hc, hfresh⟩ := hreach
      rw [hopen.2 hc, (isFresh_iff hc).2 hfresh]
      refine ⟨f.reach c, rfl, hasSides_put hf .., open_fresh_reach hc, fun d => ?_⟩
      rw [reach, List.mem_append, List.mem_singleton]
      exact or_congr_right ⟨fun hd => ⟨hd ▸ hfresh, hd.symm⟩, fun hd => hd.2.symm⟩
    · have hno : ¬ (isOpen && f.isFresh c) = true := by
        rw [Bool.and_eq_true]
        exact fun h => hreach ⟨hopen.1 h.1, (isFresh_iff (hopen.1 h.1)).1 h.2⟩
      rw [if_neg hno]
      have hstale : ¬ f.fresh.Open c := fun h => hreach ⟨hsub c h, h⟩
      exact ⟨f, rfl, hf,
        fun d => ⟨fun h => ⟨h, fun hd => hstale (hd.symm ▸ h)⟩, And.left⟩,
        fun d => ⟨.inl, fun h => h.resolve_right fun hd => hstale (hd.2.symm ▸ hd.1)⟩⟩
  · rw [if_neg hin]
    have hstale : ¬ f.fresh.Open c := fun h => hin (contains_of_open hm (hsub c h))
    exact ⟨f, rfl, hf,
      fun d => ⟨fun h => ⟨h, fun hd => hstale (hd.symm ▸ h)⟩, And.left⟩,
      fun d => ⟨.inl, fun h => h.resolve_right fun hd => hstale (hd.2.symm ▸ hd.1)⟩⟩

theorem lookAround_eq_ok (hm : m.HasSides height width) (c : Coordinate) (ds : List Move)
    {f : Flood} (hf : f.fresh.HasSides height width)
    (hsub : ∀ d, f.fresh.Open d → m.Open d) :
    ∃ g, lookAround m c ds f = .ok g ∧ g.fresh.HasSides height width ∧
      (∀ d, g.fresh.Open d ↔ f.fresh.Open d ∧ ¬ ∃ k ∈ ds, c.step k = d) ∧
      (∀ d, d ∈ g.waiting ↔ d ∈ f.waiting ∨ (f.fresh.Open d ∧ ∃ k ∈ ds, c.step k = d)) := by
  induction ds generalizing f with
  | nil => exact ⟨f, rfl, hf, by simp, by simp⟩
  | cons k rest ih =>
      obtain ⟨g, hlook, hg, hfresh, hwaiting⟩ := look_eq_ok hm hf hsub (c.step k)
      obtain ⟨g', hrest, hg', hfresh', hwaiting'⟩ :=
        ih hg fun d hd => hsub d ((hfresh d).1 hd).1
      refine ⟨g', ?_, hg', fun d => ?_, fun d => ?_⟩
      · rw [lookAround, hlook]
        exact hrest
      · simp only [hfresh', hfresh, List.mem_cons, exists_eq_or_imp, not_or, and_assoc, ne_eq]
      · simp only [hwaiting', hwaiting, hfresh, List.mem_cons, exists_eq_or_imp]
        by_cases hd : c.step k = d <;> simp [hd]

theorem exists_mem_directions_iff {c d : Coordinate} :
    (∃ k ∈ directions, c.step k = d) ↔ c.isAdjacent d = true := by
  rw [Coordinate.isAdjacent_iff_step]
  constructor
  · rintro ⟨k, -, hk⟩
    exact ⟨k, hk⟩
  · rintro ⟨k, hk⟩
    exact ⟨k, by cases k <;> decide, hk⟩

/-- Looking around from the first cell that waits: its fresh neighbours wait now, and then the
cell itself is done. -/
theorem Sound.lookAround (hm : m.HasSides height width) {f : Flood}
    (hf : f.Sound m goal height width) {c : Coordinate} {rest : List Coordinate}
    (hw : f.waiting = c :: rest) (hgoal : c ≠ goal) :
    ∃ g, Flood.lookAround m c directions { f with waiting := rest } = .ok g ∧
      g.Sound m goal height width ∧
      (∀ d, g.fresh.Open d ↔ f.fresh.Open d ∧ ¬ c.isAdjacent d = true) ∧
      (∀ d, d ∈ g.waiting ↔ d ∈ rest ∨ (f.fresh.Open d ∧ c.isAdjacent d = true)) := by
  obtain ⟨g, hg, hsides, hfresh, hwaiting⟩ :=
    lookAround_eq_ok hm c directions (f := { f with waiting := rest }) hf.sides hf.fresh_open
  simp only [exists_mem_directions_iff] at hfresh hwaiting
  have hmem : ∀ d, d ∈ f.waiting ↔ d = c ∨ d ∈ rest := fun d => by rw [hw, List.mem_cons]
  refine ⟨g, hg, ⟨hsides, ?_, ?_, ?_⟩, hfresh, hwaiting⟩
  · exact fun d hd => hf.fresh_open d ((hfresh d).1 hd).1
  · intro d hd
    rcases (hwaiting d).1 hd with hrest | ⟨hfr, -⟩
    · exact hf.waiting_open d ((hmem d).2 (.inr hrest))
    · exact hf.fresh_open d hfr
  · -- A cell that is done was done before, unless it is `c` itself.
    intro d hd hstale hnot
    have hstale' : ¬ f.fresh.Open d := by
      intro hfr
      by_cases hadj : c.isAdjacent d = true
      · exact hnot ((hwaiting d).2 (.inr ⟨hfr, hadj⟩))
      · exact hstale ((hfresh d).2 ⟨hfr, hadj⟩)
    by_cases hdc : d = c
    · subst hdc
      exact ⟨hgoal, fun e he hfr => ((hfresh e).1 hfr).2 he.2.2⟩
    · have hnot' : d ∉ f.waiting := fun hin =>
        hnot ((hwaiting d).2 (.inl (((hmem d).1 hin).resolve_left hdc)))
      obtain ⟨hne, hall⟩ := hf.done d hd hstale' hnot'
      exact ⟨hne, fun e he hfr => hall e he ((hfresh e).1 hfr).1⟩

/-- On a walk to the goal from a cell that has been reached, some cell waits. -/
theorem Sound.exists_waiting {f : Flood} (hf : f.Sound m goal height width) {c : Coordinate}
    (hjoined : m.Joined c goal) (hc : m.Open c) (hstale : ¬ f.fresh.Open c) :
    ∃ d ∈ f.waiting, m.Joined d goal := by
  induction hjoined using Relation.ReflTransGen.head_induction_on with
  | refl =>
      by_cases hw : goal ∈ f.waiting
      · exact ⟨goal, hw, Joined.refl goal⟩
      · exact absurd rfl (hf.done goal hc hstale hw).1
  | head hstep hrest ih =>
      rename_i c d
      by_cases hw : c ∈ f.waiting
      · exact ⟨c, hw, hstep.joined.trans hrest⟩
      · exact ih hstep.2.1 ((hf.done c hc hstale hw).2 d hstep)

/-- The flood answers whether the goal is joined to a cell that waits. -/
theorem finds_eq_ok (hm : m.HasSides height width) {f : Flood}
    (hf : f.Sound m goal height width) :
    ∃ found, finds m goal f = .ok found ∧
      (found = true ↔ ∃ c ∈ f.waiting, m.Joined c goal) := by
  fun_induction finds m goal f with
  | case1 f hw => exact ⟨false, rfl, by simp [hw]⟩
  | case2 f rest hw =>
      exact ⟨true, rfl, by simpa [hw] using .inl (Joined.refl goal)⟩
  | case3 f c rest hw hgoal e herror =>
      -- Looking around never fails.
      obtain ⟨g, hg, -⟩ := hf.lookAround hm hw hgoal
      rw [herror] at hg
      cases hg
  | case4 f c rest hw hgoal f' hlook ih =>
      obtain ⟨g, hg, hsound, hfresh, hwaiting⟩ := hf.lookAround hm hw hgoal
      obtain rfl : f' = g := Except.ok.inj (hlook.symm.trans hg)
      obtain ⟨found, hfound, hiff⟩ := ih hsound
      have hc : m.Open c := hf.waiting_open c (by rw [hw]; exact List.mem_cons_self)
      refine ⟨found, hfound, hiff.trans ⟨?_, ?_⟩⟩
      · rintro ⟨d, hd, hjoined⟩
        rcases (hwaiting d).1 hd with hrest | ⟨hfr, hadj⟩
        · exact ⟨d, by rw [hw]; exact List.mem_cons_of_mem _ hrest, hjoined⟩
        · have hstep : m.Passage c d := ⟨hc, hf.fresh_open d hfr, hadj⟩
          exact ⟨c, by rw [hw]; exact List.mem_cons_self, hstep.joined.trans hjoined⟩
      · rintro ⟨d, hd, hjoined⟩
        rw [hw] at hd
        rcases List.mem_cons.1 hd with rfl | hrest
        · -- The cell just done is not the goal, so the walk leaves it for a neighbour.
          rcases Relation.ReflTransGen.cases_head hjoined with hsame | ⟨e, hstep, hon⟩
          · exact absurd hsame hgoal
          · exact hsound.exists_waiting hon hstep.2.1 fun hfr => ((hfresh e).1 hfr).2 hstep.2.2
        · exact ⟨d, (hwaiting d).2 (.inl hrest), hjoined⟩

theorem sound_reach (hm : m.HasSides height width) (goal : Coordinate) {c : Coordinate}
    (hc : m.Open c) : (Flood.reach ⟨[], m⟩ c).Sound m goal height width := by
  have hfresh := open_fresh_reach (f := ⟨[], m⟩) hc
  refine ⟨hasSides_put hm .., fun d hd => ((hfresh d).1 hd).1, fun d hd => ?_,
    fun d hd hstale hnot => ?_⟩
  · rw [List.mem_singleton.1 hd]
    exact hc
  · have hne : c ≠ d := fun hcd => hnot (by rw [← hcd]; exact List.mem_singleton.2 rfl)
    exact absurd ((hfresh d).2 ⟨hd, hne⟩) hstale

end Flood

/-- A maze with both openings is solvable exactly if they are joined. -/
theorem isSolvable_of_openings {m : Maze} {height width entrance exit : Nat}
    (hm : m.HasSides height width) (hentrance : m.entrance = .ok (some entrance))
    (hexit : m.exit = .ok (some exit)) (ho : m.isOpen 0 entrance = true) :
    ∃ found, m.isSolvable = .ok found ∧
      (found = true ↔ m.Joined ⟨0, entrance⟩ ⟨m.height - 1, exit⟩) := by
  have hsound := Flood.sound_reach hm ⟨m.height - 1, exit⟩ (open_natCast.2 ho)
  obtain ⟨found, hfound, hiff⟩ := Flood.finds_eq_ok hm hsound
  refine ⟨found, ?_, hiff.trans ?_⟩
  · rw [isSolvable, hentrance, hexit]
    exact hfound
  · simp only [Flood.reach, List.nil_append, List.mem_singleton, exists_eq_left]
    rfl

end Labyrinth.Maze
