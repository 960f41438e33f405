import Labyrinth.Proofs.Border
import Labyrinth.Proofs.Flood
import Mathlib.Data.List.Nodup

/-!
# The search for a way through

`Flood.record` is the flood with the cells it takes up written down, and forgetting
them gives back the flood (`finds_eq_record`). No cell is taken up twice: a cell waits
only once it has been reached, a cell is reached only while it is fresh, and then it
is fresh no more. So every cell that is still to be taken up waits now, in its one
place, or has not been reached yet (`nodup_of_record`).

Together with what the flood finds, this settles the search on every rectangular maze
that has a row, whatever its openings.
-/

namespace Labyrinth.Maze

namespace Flood

/-! ## The cells that are taken up -/

/-- Floods on until `goal` is taken up or no cell waits, and writes down what is taken up. -/
def record (m : Maze) (goal : Coordinate) (f : Flood) :
    Except Misplaced (Bool × List Coordinate) :=
  match _hw : f.waiting with
  | [] => .ok (false, [])
  | c :: rest =>
    if c = goal then .ok (true, [c])
    else
      match _hl : lookAround m c directions { f with waiting := rest } with
      | .error e => .error e
      | .ok f' => (record m goal f').map fun (found, taken) => (found, c :: taken)
termination_by f.potential
decreasing_by
  rw [potential_lookAround _hl]
  simp [potential, _hw]

section Equations

variable {m : Maze} {goal : Coordinate} {f g : Flood} {c : Coordinate} {rest : List Coordinate}

theorem finds_of_waiting_nil (hw : f.waiting = []) : finds m goal f = .ok false := by
  rw [finds]
  split <;> simp_all

theorem finds_of_goal (hw : f.waiting = goal :: rest) : finds m goal f = .ok true := by
  rw [finds]
  split <;> simp_all

theorem finds_of_error {e : Misplaced} (hw : f.waiting = c :: rest) (hgoal : c ≠ goal)
    (hl : lookAround m c directions { f with waiting := rest } = .error e) :
    finds m goal f = .error e := by
  rw [finds]
  split
  · simp_all
  · obtain ⟨rfl, rfl⟩ := List.cons.inj (hw.symm.trans ‹_›)
    rw [if_neg hgoal]
    split <;> simp_all

theorem finds_of_ok (hw : f.waiting = c :: rest) (hgoal : c ≠ goal)
    (hl : lookAround m c directions { f with waiting := rest } = .ok g) :
    finds m goal f = finds m goal g := by
  rw [finds]
  split
  · simp_all
  · obtain ⟨rfl, rfl⟩ := List.cons.inj (hw.symm.trans ‹_›)
    rw [if_neg hgoal]
    split <;> simp_all

end Equations

/-- What is written down does not change the answer. -/
theorem finds_eq_record (m : Maze) (goal : Coordinate) (f : Flood) :
    finds m goal f = (record m goal f).map Prod.fst := by
  fun_induction record m goal f with
  | case1 f hw => exact finds_of_waiting_nil hw
  | case2 f rest hw => exact finds_of_goal hw
  | case3 f c rest hw hgoal e hl => exact finds_of_error hw hgoal hl
  | case4 f c rest hw hgoal g hl ih =>
      rw [finds_of_ok hw hgoal hl, ih]
      cases record m goal g <;> rfl

/-! ## No cell is taken up twice -/

variable {m : Maze} {goal : Coordinate} {height width : Nat}

/-- Every cell that waits does so in one place, and is fresh no more. -/
structure Tidy (f : Flood) : Prop where
  nodup : f.waiting.Nodup
  stale : ∀ c ∈ f.waiting, ¬ f.fresh.Open c

theorem Tidy.reach {f : Flood} (hf : f.Tidy) {c : Coordinate} (hc : m.Open c)
    (hfresh : f.fresh.Open c) : (f.reach c).Tidy := by
  have hnew : c ∉ f.waiting := fun hin => hf.stale c hin hfresh
  refine ⟨?_, fun d hd hopen => ?_⟩
  · exact List.nodup_append.2 ⟨hf.nodup, List.nodup_singleton c, fun d hd e he hde =>
      hnew (by rw [← List.mem_singleton.1 he, ← hde]; exact hd)⟩
  · obtain ⟨hopen, hne⟩ := (open_fresh_reach hc d).1 hopen
    rcases List.mem_append.1 hd with hd | hd
    · exact hf.stale d hd hopen
    · exact hne (List.mem_singleton.1 hd).symm

theorem Tidy.look (hm : m.HasSides height width) {f g : Flood} (hf : f.Tidy) {c : Coordinate}
    (h : Flood.look m f c = .ok g) : g.Tidy := by
  unfold Flood.look at h
  split at h
  · next hin =>
    obtain ⟨isOpen, hget, hopen⟩ := get_of_contains hm hin
    rw [hget] at h
    obtain rfl := Except.ok.inj h
    split
    · next hreach =>
      obtain ⟨htrue, hfresh⟩ := Bool.and_eq_true_iff.1 hreach
      exact hf.reach (hopen.1 htrue) ((isFresh_iff (hopen.1 htrue)).1 hfresh)
    · exact hf
  · obtain rfl := Except.ok.inj h
    exact hf

theorem Tidy.lookAround (hm : m.HasSides height width) {c : Coordinate} {ds : List Move}
    {f g : Flood} (hf : f.Tidy) (h : Flood.lookAround m c ds f = .ok g) : g.Tidy := by
  induction ds generalizing f with
  | nil =>
      obtain rfl := Except.ok.inj h
      exact hf
  | cons d rest ih =>
      unfold Flood.lookAround at h
      split at h
      · cases h
      · next hlook => exact ih (hf.look hm hlook) h

theorem Tidy.tail {f : Flood} (hf : f.Tidy) {c : Coordinate} {rest : List Coordinate}
    (hw : f.waiting = c :: rest) : Tidy { f with waiting := rest } := by
  have hnodup := hf.nodup
  rw [hw] at hnodup
  exact ⟨hnodup.of_cons, fun d hd => hf.stale d (by rw [hw]; exact List.mem_cons_of_mem c hd)⟩

/-- No cell is taken up twice, and what is taken up waits already or is still fresh. -/
theorem nodup_of_record (hm : m.HasSides height width) {f : Flood}
    (hf : f.Sound m goal height width) (htidy : f.Tidy) {found : Bool}
    {taken : List Coordinate} (h : record m goal f = .ok (found, taken)) :
    taken.Nodup ∧ ∀ c ∈ taken, c ∈ f.waiting ∨ f.fresh.Open c := by
  fun_induction record m goal f generalizing found taken with
  | case1 f hw =>
      obtain ⟨rfl, rfl⟩ := Prod.mk.inj (Except.ok.inj h)
      exact ⟨List.nodup_nil, fun c hc => absurd hc List.not_mem_nil⟩
  | case2 f rest hw =>
      obtain ⟨rfl, rfl⟩ := Prod.mk.inj (Except.ok.inj h)
      refine ⟨List.nodup_singleton goal, fun c hc => .inl ?_⟩
      rw [hw, List.mem_singleton.1 hc]
      exact List.mem_cons_self
  | case3 f c rest hw hgoal e hl => cases h
  | case4 f c rest hw hgoal g hl ih =>
      obtain ⟨f', hf', hsound, hfresh, hwaiting⟩ := hf.lookAround hm hw hgoal
      obtain rfl : g = f' := Except.ok.inj (hl.symm.trans hf')
      cases hrest : record m goal g with
      | error e => rw [hrest] at h; cases h
      | ok answer =>
          obtain ⟨found', taken'⟩ := answer
          rw [hrest] at h
          obtain ⟨rfl, rfl⟩ := Prod.mk.inj (Except.ok.inj h)
          obtain ⟨hnodup, hsources⟩ := ih hsound ((htidy.tail hw).lookAround hm hl) hrest
          -- What is taken up later waits behind `c` or is fresh before `c` is looked around from.
          have hlater : ∀ d ∈ taken', d ∈ rest ∨ f.fresh.Open d := fun d hd => by
            rcases hsources d hd with hwait | hopen
            · exact ((hwaiting d).1 hwait).imp id And.left
            · exact .inr ((hfresh d).1 hopen).1
          have hfirst : c ∈ f.waiting := by rw [hw]; exact List.mem_cons_self
          refine ⟨List.nodup_cons.2 ⟨fun hin => ?_, hnodup⟩, fun d hd => ?_⟩
          · have hnew : c ∉ rest := by
              have hn := htidy.nodup
              rw [hw] at hn
              exact (List.nodup_cons.1 hn).1
            exact (hlater c hin).elim hnew (htidy.stale c hfirst)
          · rcases List.mem_cons.1 hd with rfl | hd
            · exact .inl hfirst
            · refine (hlater d hd).imp (fun hrest => ?_) id
              rw [hw]
              exact List.mem_cons_of_mem c hrest

theorem tidy_reach {c : Coordinate} (hc : m.Open c) : (Flood.reach ⟨[], m⟩ c).Tidy :=
  Tidy.reach (f := ⟨[], m⟩) ⟨List.nodup_nil, fun _ hd => absurd hd List.not_mem_nil⟩ hc hc

end Flood

/-! ## Searching -/

variable {m : Maze} {height width : Nat}

/-- Whether a maze can be solved, and the cells that are taken up to find out. -/
def search (m : Maze) : Except Misplaced (Bool × List Coordinate) :=
  match m.entrance, m.exit with
  | .error e, _ | _, .error e => .error e
  | .ok (some entrance), .ok (some exit) =>
    Flood.record m ⟨m.height - 1, exit⟩ (Flood.reach ⟨[], m⟩ ⟨0, entrance⟩)
  | .ok _, .ok _ => .ok (false, [])

/-- What is written down does not change the answer. -/
theorem isSolvable_eq_search (m : Maze) : m.isSolvable = m.search.map Prod.fst := by
  unfold isSolvable search
  rcases m.entrance with _ | _ | entrance <;> rcases m.exit with _ | _ | exit
  case ok.some.ok.some => exact Flood.finds_eq_record ..
  all_goals rfl

theorem exists_entrance (h : 0 < m.height) : ∃ entrance, m.entrance = .ok entrance := by
  have hlt : 0 < m.rows.size := h
  exact ⟨_, by rw [entrance, Array.getElem?_eq_getElem hlt]⟩

theorem exists_exit (h : 0 < m.height) : ∃ exit, m.exit = .ok exit := by
  have hlt : m.rows.size - 1 < m.rows.size := Nat.sub_one_lt_of_lt h
  exact ⟨_, by rw [exit, Array.back?_eq_getElem?, Array.getElem?_eq_getElem hlt]⟩

theorem isOpen_of_opening? {row : Nat} {cells : Array Bool} {col : Nat}
    (hrow : m.rows[row]? = some cells) (h : opening? cells = some col) :
    m.isOpen row col = true := by
  obtain ⟨hlt, htrue, -⟩ := Array.findIdx?_eq_some_iff_getElem.1 h
  rw [isOpen, beq_iff_eq, Table.cell?, Array.getD_eq_getD_getElem?, hrow]
  exact Array.getElem?_eq_some_iff.2 ⟨hlt, htrue⟩

theorem isOpen_of_entrance {col : Nat} (h : m.entrance = .ok (some col)) :
    m.isOpen 0 col = true := by
  unfold entrance at h
  split at h
  · cases h
  · next cells hrow => exact isOpen_of_opening? hrow (Except.ok.inj h)

/-- Without an opening in the top or in the bottom row nothing is taken up. -/
theorem search_of_closed {entrance? exit? : Option Nat} (hentrance : m.entrance = .ok entrance?)
    (hexit : m.exit = .ok exit?) (hclosed : entrance? = none ∨ exit? = none) :
    m.search = .ok (false, []) := by
  rw [search, hentrance, hexit]
  rcases entrance? with _ | entrance <;> rcases exit? with _ | exit
  case some.some => simp at hclosed
  all_goals rfl

/-- With both openings no cell is taken up twice, and no wall is. -/
theorem search_of_openings (hm : m.HasSides height width) {entrance exit : Nat}
    (hentrance : m.entrance = .ok (some entrance)) (hexit : m.exit = .ok (some exit)) :
    ∃ found taken, m.search = .ok (found, taken) ∧ taken.Nodup ∧ (∀ c ∈ taken, m.Open c) ∧
      (found = true ↔ m.Joined ⟨0, entrance⟩ ⟨m.height - 1, exit⟩) := by
  have ho := isOpen_of_entrance hentrance
  obtain ⟨found, hfound, hiff⟩ := isSolvable_of_openings hm hentrance hexit ho
  rw [isSolvable_eq_search] at hfound
  cases hsearch : m.search with
  | error e => rw [hsearch] at hfound; cases hfound
  | ok answer =>
      obtain ⟨found', taken⟩ := answer
      rw [hsearch] at hfound
      obtain rfl : found' = found := Except.ok.inj hfound
      have hsound := Flood.sound_reach hm ⟨m.height - 1, exit⟩ (open_natCast.2 ho)
      have htidy := Flood.tidy_reach (open_natCast.2 ho)
      rw [search, hentrance, hexit] at hsearch
      obtain ⟨hnodup, htaken⟩ := Flood.nodup_of_record hm hsound htidy hsearch
      exact ⟨found', taken, rfl, hnodup,
        fun c hc => (htaken c hc).elim (hsound.waiting_open c) (hsound.fresh_open c), hiff⟩

/-- The search of a maze that has a row and whose rows are equally long ends. It takes up no cell
twice, and finds a way through exactly if both openings are there and are joined. -/
theorem search_rectangular (hpos : 0 < m.height) (hm : m.Rectangular) :
    ∃ found taken, m.search = .ok (found, taken) ∧ m.isSolvable = .ok found ∧
      taken.Nodup ∧ (∀ c ∈ taken, m.Open c) ∧
      (found = true ↔ ∃ entrance exit, m.entrance = .ok (some entrance) ∧
        m.exit = .ok (some exit) ∧ m.Joined ⟨0, entrance⟩ ⟨m.height - 1, exit⟩) := by
  obtain ⟨entrance?, hentrance⟩ := exists_entrance hpos
  obtain ⟨exit?, hexit⟩ := exists_exit hpos
  by_cases hclosed : entrance? = none ∨ exit? = none
  · have hsearch := search_of_closed hentrance hexit hclosed
    refine ⟨false, [], hsearch, by rw [isSolvable_eq_search, hsearch]; rfl, List.nodup_nil,
      fun c hc => absurd hc List.not_mem_nil, ?_⟩
    rw [hentrance, hexit]
    rcases hclosed with rfl | rfl <;> simp
  · obtain ⟨hin, hout⟩ := not_or.1 hclosed
    obtain ⟨entrance, rfl⟩ := Option.ne_none_iff_exists'.1 hin
    obtain ⟨exit, rfl⟩ := Option.ne_none_iff_exists'.1 hout
    obtain ⟨found, taken, hsearch, hnodup, hopen, hiff⟩ :=
      search_of_openings ⟨rfl, rfl, hm⟩ hentrance hexit
    refine ⟨found, taken, hsearch, by rw [isSolvable_eq_search, hsearch]; rfl, hnodup, hopen,
      hiff.trans ⟨fun h => ⟨entrance, exit, hentrance, hexit, h⟩, ?_⟩⟩
    rintro ⟨i, j, hi, hj, h⟩
    obtain rfl : entrance = i := Option.some.inj (Except.ok.inj (hentrance.symm.trans hi))
    obtain rfl : exit = j := Option.some.inj (Except.ok.inj (hexit.symm.trans hj))
    exact h

/-- Two openings at the top and two at the bottom: the way in is the left one of the first two and
leads to the right one of the last two only, while the way out is the left one. -/
theorem search_rectangular_two_ways :
    ∃ m : Maze, m.toLists =
        [[false, true, false, true],
          [false, true, true, false],
          [true, false, true, true],
          [true, false, true, true]] ∧
      m.search = .ok (false, [⟨0, 1⟩, ⟨1, 1⟩, ⟨1, 2⟩, ⟨2, 2⟩, ⟨3, 2⟩, ⟨2, 3⟩, ⟨3, 3⟩]) ∧
      m.entrance = .ok (some 1) ∧ m.exit = .ok (some 0) ∧ ¬ m.Joined ⟨0, 1⟩ ⟨3, 0⟩ := by
  let m : Maze := .ofLists
    [[false, true, false, true],
      [false, true, true, false],
      [true, false, true, true],
      [true, false, true, true]]
  have hsearch : m.search =
      .ok (false, [⟨0, 1⟩, ⟨1, 1⟩, ⟨1, 2⟩, ⟨2, 2⟩, ⟨3, 2⟩, ⟨2, 3⟩, ⟨3, 3⟩]) := by
    decide +kernel
  have hentrance : m.entrance = .ok (some 1) := by decide +kernel
  have hexit : m.exit = .ok (some 0) := by decide +kernel
  have hm : m.Rectangular := by unfold Table.Rectangular; decide
  obtain ⟨found, taken, hsearch', -, -, -, hiff⟩ := search_rectangular (by decide) hm
  obtain ⟨rfl, -⟩ := Prod.mk.inj (Except.ok.inj (hsearch'.symm.trans hsearch))
  refine ⟨m, by decide, hsearch, hentrance, hexit, fun hjoined => ?_⟩
  exact absurd (hiff.2 ⟨1, 0, hentrance, hexit, hjoined⟩) (by decide)

end Labyrinth.Maze
