import Labyrinth.Proofs.Chambers
import Labyrinth.Proofs.Passages

/-!
# Divided mazes stay connected

The invariant is that the whole maze is connected, finished chambers and waiting
ones alike, and it is one cut that has to keep it.

Inside the chamber the four quarters, taken round the crossing, are joined each to
the next through the section of wall between them. One section is closed, so three
of the four joints are there, and three joints hold four quarters together. What
else is open in the chamber, a hole or a gap, touches a quarter.

From outside, the chamber can only be entered at its edge, and a cell of the edge
that is faced by an open cell outside stays open: if a wall ends there, its end is
a gap. So a walk through the old maze that crosses the chamber still finds the same
doors into it, and the way from door to door is the one inside.
-/

namespace Labyrinth

namespace Cut

variable {cut : Cut} {m : Maze} {height width : Nat}

/-! ## Inside the chamber -/

def SameQuarter (cut : Cut) (i j k l : Nat) : Prop :=
  cut.split.chamber.contains i j = true ∧ cut.split.chamber.contains k l = true ∧
    ((i < cut.split.row ∧ k < cut.split.row) ∨ (cut.split.row < i ∧ cut.split.row < k)) ∧
    ((j < cut.split.column ∧ l < cut.split.column) ∨
      (cut.split.column < j ∧ cut.split.column < l))

theorem Applies.joined_quarter (h : cut.Applies m height width) {i j k l : Nat}
    (hq : cut.SameQuarter i j k l) : (cut.apply m).Joined ⟨i, j⟩ ⟨k, l⟩ := by
  obtain ⟨hij, hkl, hrow, hcol⟩ := hq
  rw [Chamber.contains_iff] at hij hkl
  refine Maze.joined_of_rectangle (min i k) (min j l) (max i k) (max j l)
    (fun row col ht hb hl hr => ?_) (by omega) (by omega)
  exact h.isOpen_clear (by omega) (by omega)
    (h.isOpen row col (Chamber.contains_iff.2 (by omega)))

/-- Every open cell of the chamber is joined to one off the walls. -/
theorem Applies.exists_joined_clear (h : cut.Applies m height width) {i j : Nat}
    (hij : cut.split.chamber.contains i j = true) (ho : (cut.apply m).isOpen i j = true) :
    ∃ k l, cut.split.chamber.contains k l = true ∧ k ≠ cut.split.row ∧
      l ≠ cut.split.column ∧ (cut.apply m).Joined ⟨i, j⟩ ⟨k, l⟩ := by
  obtain ⟨h₁, h₂, h₃, h₄, -⟩ := h.proper.fits
  have hin := Chamber.contains_iff.1 hij
  -- A wall never runs along an edge, so beside a cell of it the chamber goes on.
  by_cases hi : i = cut.split.row
  · by_cases hj : j = cut.split.column
    · rw [hi, hj, h.isOpen_crossing] at ho
      cases ho
    · have habove : cut.split.chamber.contains (i - 1) j = true :=
        Chamber.contains_iff.2 (by omega)
      refine ⟨i - 1, j, habove, by omega, hj, ?_⟩
      exact Maze.joined_of_isAdjacent ho
        (h.isOpen_clear (by omega) hj (h.isOpen _ _ habove)) (by omega)
  · by_cases hj : j = cut.split.column
    · have hleft : cut.split.chamber.contains i (j - 1) = true :=
        Chamber.contains_iff.2 (by omega)
      refine ⟨i, j - 1, hleft, hi, by omega, ?_⟩
      exact Maze.joined_of_isAdjacent ho
        (h.isOpen_clear hi (by omega) (h.isOpen _ _ hleft)) (by omega)
    · exact ⟨i, j, hij, hi, hj, Maze.Joined.refl _⟩

/-- A corner of the chamber, counted round the crossing from the top left. -/
def corner (cut : Cut) : Nat → Coordinate
  | 0 => ⟨cut.split.chamber.top, cut.split.chamber.left⟩
  | 1 => ⟨cut.split.chamber.top, cut.split.chamber.right⟩
  | 2 => ⟨cut.split.chamber.bottom, cut.split.chamber.right⟩
  | _ => ⟨cut.split.chamber.bottom, cut.split.chamber.left⟩

/-- The way from quarter to quarter: to the cell beside a hole, through the hole to the cell on
its other side, and on. -/
theorem Applies.joined_through (h : cut.Applies m height width) {row col a b i j k l c d : Nat}
    (hhole : (row, col) ∈ cut.holes) (hfrom : cut.SameQuarter a b i j)
    (hto : cut.SameQuarter k l c d)
    (hbefore : (i = row ∧ (j + 1 = col ∨ col + 1 = j)) ∨ (j = col ∧ (i + 1 = row ∨ row + 1 = i)))
    (hafter : (row = k ∧ (col + 1 = l ∨ l + 1 = col)) ∨ (col = l ∧ (row + 1 = k ∨ k + 1 = row))) :
    (cut.apply m).Joined ⟨a, b⟩ ⟨c, d⟩ := by
  have ho := h.isOpen_hole hhole
  have hij : (cut.apply m).isOpen i j = true := by
    obtain ⟨-, hin, hrow, hcol⟩ := hfrom
    exact h.isOpen_clear (by omega) (by omega) (h.isOpen _ _ hin)
  have hkl : (cut.apply m).isOpen k l = true := by
    obtain ⟨hin, -, hrow, hcol⟩ := hto
    exact h.isOpen_clear (by omega) (by omega) (h.isOpen _ _ hin)
  have hin := Maze.joined_of_isAdjacent hij ho hbefore
  have hout := Maze.joined_of_isAdjacent ho hkl hafter
  exact (h.joined_quarter hfrom).trans ((hin.trans hout).trans (h.joined_quarter hto))

/-- A hole in a section joins the quarters on its two sides. -/
theorem Applies.joined_corners (h : cut.Applies m height width) {row col k : Nat}
    (hk : k < 4) (hhole : (row, col) ∈ cut.holes) (hin : cut.split.InSection row col k) :
    (cut.apply m).Joined (cut.corner k) (cut.corner ((k + 1) % 4)) := by
  obtain ⟨h₁, h₂, h₃, h₄, -⟩ := h.proper.fits
  -- The two cells beside the hole are on either side of its wall.
  match k, hk with
  | 0, _ =>
      obtain ⟨rfl, ht, hr⟩ := hin
      refine h.joined_through (i := row) (j := cut.split.column - 1) (k := row)
        (l := cut.split.column + 1) hhole ?_ ?_ (by omega) (by omega)
      all_goals simp only [SameQuarter, Chamber.contains_iff]; omega
  | 1, _ =>
      obtain ⟨rfl, hl, hr⟩ := hin
      refine h.joined_through (i := cut.split.row - 1) (j := col) (k := cut.split.row + 1)
        (l := col) hhole ?_ ?_ (by omega) (by omega)
      all_goals simp only [SameQuarter, Chamber.contains_iff]; omega
  | 2, _ =>
      obtain ⟨rfl, ht, hb⟩ := hin
      refine h.joined_through (i := row) (j := cut.split.column + 1) (k := row)
        (l := cut.split.column - 1) hhole ?_ ?_ (by omega) (by omega)
      all_goals simp only [SameQuarter, Chamber.contains_iff]; omega
  | 3, _ =>
      obtain ⟨rfl, hl, hr⟩ := hin
      refine h.joined_through (i := cut.split.row + 1) (j := col) (k := cut.split.row - 1)
        (l := col) hhole ?_ ?_ (by omega) (by omega)
      all_goals simp only [SameQuarter, Chamber.contains_iff]; omega

/-- Three joints hold the four quarters together. -/
theorem Applies.joined_first_corner (h : cut.Applies m height width) {k : Nat} (hk : k < 4) :
    (cut.apply m).Joined (cut.corner k) (cut.corner 0) := by
  obtain ⟨closed, hclosed, hholes⟩ := h.proper.exists_hole
  have hjoint : ∀ k < 4, k ≠ closed →
      (cut.apply m).Joined (cut.corner k) (cut.corner ((k + 1) % 4)) := by
    intro k hk hne
    obtain ⟨row, col, hhole, hin⟩ := hholes k hk hne
    exact h.joined_corners hk hhole hin
  -- Round the crossing in the direction that does not pass the closed section.
  match k, hk with
  | 0, _ => exact Maze.Joined.refl _
  | 1, _ =>
      by_cases h0 : closed = 0
      · exact (hjoint 1 (by omega) (by omega)).trans
          ((hjoint 2 (by omega) (by omega)).trans (hjoint 3 (by omega) (by omega)))
      · exact (hjoint 0 (by omega) (by omega)).symm
  | 2, _ =>
      by_cases h01 : closed = 0 ∨ closed = 1
      · exact (hjoint 2 (by omega) (by omega)).trans (hjoint 3 (by omega) (by omega))
      · exact ((hjoint 0 (by omega) (by omega)).trans (hjoint 1 (by omega) (by omega))).symm
  | 3, _ =>
      by_cases h3 : closed = 3
      · exact ((hjoint 0 (by omega) (by omega)).trans
          ((hjoint 1 (by omega) (by omega)).trans (hjoint 2 (by omega) (by omega)))).symm
      · exact hjoint 3 (by omega) (by omega)

/-- Every open cell of the chamber is joined to its top left corner. -/
theorem Applies.joined_corner_of_contains (h : cut.Applies m height width) {i j : Nat}
    (hij : cut.split.chamber.contains i j = true) (ho : (cut.apply m).isOpen i j = true) :
    (cut.apply m).Joined ⟨i, j⟩ (cut.corner 0) := by
  obtain ⟨h₁, h₂, h₃, h₄, -⟩ := h.proper.fits
  obtain ⟨k, l, hkl, hk, hl, hjoined⟩ := h.exists_joined_clear hij ho
  have hin := Chamber.contains_iff.1 hkl
  have hcorner : ∃ q < 4, (cut.apply m).Joined ⟨k, l⟩ (cut.corner q) := by
    rcases Nat.lt_or_gt_of_ne hk with hk | hk <;> rcases Nat.lt_or_gt_of_ne hl with hl | hl
    · refine ⟨0, by omega, h.joined_quarter ?_⟩
      simp only [SameQuarter, Chamber.contains_iff]; omega
    · refine ⟨1, by omega, h.joined_quarter ?_⟩
      simp only [SameQuarter, Chamber.contains_iff]; omega
    · refine ⟨3, by omega, h.joined_quarter ?_⟩
      simp only [SameQuarter, Chamber.contains_iff]; omega
    · refine ⟨2, by omega, h.joined_quarter ?_⟩
      simp only [SameQuarter, Chamber.contains_iff]; omega
  obtain ⟨q, hq, hcorner⟩ := hcorner
  exact hjoined.trans (hcorner.trans (h.joined_first_corner hq))

theorem Applies.joined_inside (h : cut.Applies m height width) {i j k l : Nat}
    (hij : cut.split.chamber.contains i j = true) (hij' : (cut.apply m).isOpen i j = true)
    (hkl : cut.split.chamber.contains k l = true) (hkl' : (cut.apply m).isOpen k l = true) :
    (cut.apply m).Joined ⟨i, j⟩ ⟨k, l⟩ :=
  (h.joined_corner_of_contains hij hij').trans (h.joined_corner_of_contains hkl hkl').symm

/-! ## Through the chamber -/

/-- A cell of the chamber that an open cell outside faces is not walled up. -/
theorem Applies.isOpen_of_facing (h : cut.Applies m height width) {i j k l : Nat}
    (hout : cut.split.chamber.contains i j = false) (ho : m.isOpen i j = true)
    (hkl : cut.split.chamber.contains k l = true)
    (hadj : (i = k ∧ (j + 1 = l ∨ l + 1 = j)) ∨ (j = l ∧ (i + 1 = k ∨ k + 1 = i))) :
    (cut.apply m).isOpen k l = true := by
  obtain ⟨h₁, h₂, h₃, h₄, -⟩ := h.proper.fits
  refine h.isOpen_apply_iff.2 (.inl ⟨h.isOpen k l hkl, ?_⟩)
  rw [← Bool.not_eq_true, Chamber.contains_iff] at hout
  rw [Chamber.contains_iff] at hkl
  rintro (⟨rfl, ht, hb, hgap⟩ | ⟨rfl, hl, hr, hgap⟩)
  · have hends : (k = cut.split.chamber.top ∧ i = k - 1 ∧ j = cut.split.column) ∨
        (k = cut.split.chamber.bottom ∧ i = k + 1 ∧ j = cut.split.column) := by omega
    rcases hends with ⟨rfl, rfl, rfl⟩ | ⟨rfl, rfl, rfl⟩ <;>
      simp [Split.isColumnGap, ho] at hgap
  · have hends : (l = cut.split.chamber.left ∧ j = l - 1 ∧ i = cut.split.row) ∨
        (l = cut.split.chamber.right ∧ j = l + 1 ∧ i = cut.split.row) := by omega
    rcases hends with ⟨rfl, rfl, rfl⟩ | ⟨rfl, rfl, rfl⟩ <;>
      simp [Split.isRowGap, ho] at hgap

/-- Follows a walk through the old maze with one through the new: at the same cell, or both
somewhere in the chamber. -/
theorem Applies.exists_joined_of_joined (h : cut.Applies m height width) {a x : Coordinate}
    (ha : (cut.apply m).Open a) (hwalk : m.Joined a x) :
    ∃ k l : Nat, (cut.apply m).Joined a ⟨k, l⟩ ∧ (cut.apply m).isOpen k l = true ∧
      (x = ⟨k, l⟩ ∨ ∃ i j : Nat, x = ⟨i, j⟩ ∧ cut.split.chamber.contains i j = true ∧
        cut.split.chamber.contains k l = true) := by
  induction hwalk with
  | refl =>
      obtain ⟨i, j, rfl, hij⟩ := ha
      exact ⟨i, j, Maze.Joined.refl _, hij, .inl rfl⟩
  | tail _ hstep ih =>
      obtain ⟨k, l, hjoined, hkl, hfollow⟩ := ih
      obtain ⟨⟨i, j, rfl, hij⟩, ⟨i', j', rfl, hij'⟩, hadj⟩ := hstep
      rw [Coordinate.isAdjacent_natCast] at hadj
      have hback : (i' = i ∧ (j' + 1 = j ∨ j + 1 = j')) ∨ (j' = j ∧ (i' + 1 = i ∨ i + 1 = i')) := by
        omega
      -- Where the walk is now, as far as the follower knows it.
      have hhere : (k = i ∧ l = j) ∨ (cut.split.chamber.contains i j = true ∧
          cut.split.chamber.contains k l = true) := by
        rcases hfollow with hsame | ⟨r, c, hrc, hin⟩
        · obtain ⟨hk, hl⟩ := Coordinate.mk.inj hsame
          exact .inl ⟨by omega, by omega⟩
        · obtain ⟨hr, hc⟩ := Coordinate.mk.inj hrc
          obtain rfl : i = r := by omega
          obtain rfl : j = c := by omega
          exact .inr hin
      by_cases hin : cut.split.chamber.contains i j = true
      · have hkin : cut.split.chamber.contains k l = true := by
          rcases hhere with ⟨rfl, rfl⟩ | ⟨-, hkin⟩
          · exact hin
          · exact hkin
        by_cases hin' : cut.split.chamber.contains i' j' = true
        · -- The follower waits until the walk leaves the chamber.
          exact ⟨k, l, hjoined, hkl, .inr ⟨i', j', rfl, hin', hkin⟩⟩
        · have hout : cut.split.chamber.contains i' j' = false := by simpa using hin'
          -- The cell the walk leaves by is still open, and the follower can get there.
          have hdoor := h.isOpen_of_facing hout hij' hin hback
          have hnext : (cut.apply m).isOpen i' j' = true := by
            rw [h.isOpen_outside hout]
            exact hij'
          exact ⟨i', j', hjoined.trans ((h.joined_inside hkin hkl hin hdoor).trans
            (Maze.joined_of_isAdjacent hdoor hnext hadj)), hnext, .inl rfl⟩
      · have hout : cut.split.chamber.contains i j = false := by simpa using hin
        obtain ⟨rfl, rfl⟩ : k = i ∧ l = j := hhere.resolve_right fun hboth => hin hboth.1
        have hnext : (cut.apply m).isOpen i' j' = true := by
          by_cases hin' : cut.split.chamber.contains i' j' = true
          · exact h.isOpen_of_facing hout hij hin' hadj
          · rw [h.isOpen_outside (by simpa using hin')]
            exact hij'
        exact ⟨i', j', hjoined.trans (Maze.joined_of_isAdjacent hkl hnext hadj), hnext, .inl rfl⟩

theorem Applies.connected (h : cut.Applies m height width) (hm : m.Connected) :
    (cut.apply m).Connected := by
  intro a b ha hb
  have hopen : ∀ c, (cut.apply m).Open c → m.Open c := by
    rintro c ⟨i, j, rfl, ho⟩
    exact Maze.open_natCast.2 (h.isOpen_of_apply ho)
  obtain ⟨k, l, hjoined, hkl, hfollow⟩ :=
    h.exists_joined_of_joined ha (hm a b (hopen a ha) (hopen b hb))
  rcases hfollow with rfl | ⟨i, j, rfl, hin, hkin⟩
  · exact hjoined
  · exact hjoined.trans (h.joined_inside hkin hkl hin (Maze.open_natCast.1 hb))

end Cut

/-! ## Every step, and the border -/

namespace Division

variable {σ : Type} [Source σ]

theorem connected_of_steps {height width : Nat} {d e : Division σ} (hd : d.Sound height width)
    (hc : d.maze.Connected) (h : Relation.ReflTransGen Next d e) : e.maze.Connected :=
  maze_of_steps (fun _ _ happlies hm => happlies.connected hm) hd hc h

end Division

theorem Maze.connected_bordered (height width : Nat) : (bordered height width).Connected := by
  rintro a b ⟨i, j, rfl, hij⟩ ⟨k, l, rfl, hkl⟩
  rw [isOpen_bordered] at hij hkl
  exact joined_of_rectangle 1 1 (height - 2) (width - 2)
    (fun row col ht hb hl hr => isOpen_bordered.2 (by omega)) (by omega) (by omega)

end Labyrinth
