import Labyrinth.Division.Cut
import Labyrinth.Proofs.Sides
import Mathlib.Data.List.Forall2

/-!
# What a cut is and what it does

Two descriptions of a cut, one from each side. `Cut.Proper` is all that a drawn
cut is known to be: its walls run strictly inside the chamber, and three of its
four sections have a hole. `isOpen_apply` is all that a cut does to a maze: a cell
is open afterwards if it is a hole, or if it was open and the walls do not close
it. Nothing that is proved about divided mazes looks behind these two.

The ends of a wall are the delicate part. Whether an end closes is read from the
cell beyond it, which lies outside the chamber, and the walls are built inside the
chamber. So the cell that is read is the same before, during and after the
building, and the order in which the cells are closed does not matter.
-/

namespace Labyrinth

/-! ## Drawn values -/

namespace Drawn

variable {σ α β : Type}

theorem andThen_eq_drew {d : Drawn σ α} {next : α → σ → Drawn σ β} {value : β} {rest : σ}
    (h : d.andThen next = .drew value rest) :
    ∃ first s, d = .drew first s ∧ next first s = .drew value rest := by
  cases d with
  | drew first s => exact ⟨first, s, rfl, h⟩
  | dry range s => cases h

theorem map_eq_drew {d : Drawn σ α} {f : α → β} {value : β} {rest : σ}
    (h : d.map f = .drew value rest) : ∃ first, d = .drew first rest ∧ f first = value := by
  obtain ⟨first, s, hd, hf⟩ := andThen_eq_drew h
  obtain ⟨hvalue, rfl⟩ := Drawn.drew.inj hf
  exact ⟨first, hd, hvalue⟩

end Drawn

theorem lt_of_drawBelow {σ : Type} [Source σ] {range answer : Nat} {s s' : σ}
    (hr : 0 < range) (h : drawBelow range s = .drew answer s') : answer < range :=
  Source.draw_lt hr (drawBelow_eq_drew_iff.1 h)

/-! ## What a drawn cut is -/

/-- The walls run strictly inside the chamber, so that no quarter is empty. -/
structure Split.Fits (s : Split) : Prop where
  left_lt : s.chamber.left < s.column
  column_lt : s.column < s.chamber.right
  top_lt : s.chamber.top < s.row
  row_lt : s.row < s.chamber.bottom
  acceptable : s.isAcceptable = true

def Section.Holds (wall : Section) (hole : Nat × Nat) : Prop :=
  ∃ place < wall.length, hole = wall.cell place

/-- A cut as it is drawn: one section stays closed and each of the others has one hole. -/
structure Cut.Proper (cut : Cut) : Prop where
  fits : cut.split.Fits
  pierced : ∃ closed < 4,
    List.Forall₂ Section.Holds (cut.split.sections.eraseIdx closed) cut.holes

/-- A chamber that is not done has room for a wall between its sides, both ways. -/
theorem Chamber.isDone_eq_false_iff {c : Chamber} :
    c.isDone = false ↔ 1 < c.right - c.left ∧ 1 < c.bottom - c.top := by
  simp only [isDone, Bool.or_eq_false_iff, decide_eq_false_iff_not, Nat.not_le]

section Drawing

variable {σ : Type} [Source σ]

theorem chamber_of_drawSplit {c : Chamber} {s s' : σ} {split : Split}
    (h : drawSplit c s = .drew split s') : split.chamber = c := by
  fun_induction drawSplit c s with
  | case1 => cases h
  | case2 => cases h
  | case3 => rw [← (Drawn.drew.inj h).1]
  | case4 _ _ _ _ _ _ _ _ _ ih => exact ih h

theorem fits_of_drawSplit {c : Chamber} {s s' : σ} {split : Split}
    (hc : c.isDone = false) (h : drawSplit c s = .drew split s') : split.Fits := by
  have hspan := Chamber.isDone_eq_false_iff.1 hc
  fun_induction drawSplit c s with
  | case1 => cases h
  | case2 => cases h
  | case3 s col afterCol hcol row afterRow hrow candidate hok =>
      obtain ⟨rfl, _⟩ := Drawn.drew.inj h
      have hcol := lt_of_drawBelow (by omega) hcol
      have hrow := lt_of_drawBelow (by omega) hrow
      exact
        { left_lt := by show c.left < c.left + 1 + col; omega
          column_lt := by show c.left + 1 + col < c.right; omega
          top_lt := by show c.top < c.top + 1 + row; omega
          row_lt := by show c.top + 1 + row < c.bottom; omega
          acceptable := hok }
  | case4 _ _ _ _ _ _ _ _ _ ih => exact ih h

theorem holds_of_pierce {sections : List Section} {s s' : σ} {holes : List (Nat × Nat)}
    (hpos : ∀ wall ∈ sections, 0 < wall.length)
    (h : pierce sections s = .drew holes s') : List.Forall₂ Section.Holds sections holes := by
  induction sections generalizing s holes with
  | nil =>
      obtain ⟨rfl, _⟩ := Drawn.drew.inj h
      exact .nil
  | cons wall rest ih =>
      obtain ⟨place, s₁, hplace, hrest⟩ := Drawn.andThen_eq_drew h
      obtain ⟨others, hothers, rfl⟩ := Drawn.map_eq_drew hrest
      have hlt := lt_of_drawBelow (hpos wall List.mem_cons_self) hplace
      exact .cons ⟨place, hlt, rfl⟩
        (ih (fun other hmem => hpos other (List.mem_cons_of_mem _ hmem)) hothers)

theorem Split.Fits.length_pos {s : Split} (hs : s.Fits) {wall : Section}
    (hwall : wall ∈ s.sections) : 0 < wall.length := by
  have h₁ := hs.left_lt
  have h₂ := hs.column_lt
  have h₃ := hs.top_lt
  have h₄ := hs.row_lt
  simp only [sections, List.mem_cons, List.not_mem_nil, or_false] at hwall
  rcases hwall with rfl | rfl | rfl | rfl
  · show 0 < s.row - s.chamber.top; omega
  · show 0 < s.chamber.right - s.column; omega
  · show 0 < s.chamber.bottom - s.row; omega
  · show 0 < s.column - s.chamber.left; omega

theorem proper_of_drawHoles {split : Split} {s s' : σ} {cut : Cut} (hs : split.Fits)
    (h : drawHoles split s = .drew cut s') : cut.split = split ∧ cut.Proper := by
  obtain ⟨closed, s₁, hclosed, hrest⟩ := Drawn.andThen_eq_drew h
  obtain ⟨holes, hholes, rfl⟩ := Drawn.map_eq_drew hrest
  have hpos : ∀ wall ∈ split.sections.eraseIdx closed, 0 < wall.length :=
    fun wall hmem => hs.length_pos (List.mem_of_mem_eraseIdx hmem)
  exact ⟨rfl, hs, closed, lt_of_drawBelow (by decide) hclosed, holds_of_pierce hpos hholes⟩

end Drawing

/-! ## Where the holes are -/

/-- A cell of the column of wall above the crossing, or of one of the other three sections, in
the order of `Split.sections`. -/
def Split.InSection (s : Split) (row col : Nat) : Nat → Prop
  | 0 => col = s.column ∧ s.chamber.top ≤ row ∧ row < s.row
  | 1 => row = s.row ∧ s.column < col ∧ col ≤ s.chamber.right
  | 2 => col = s.column ∧ s.row < row ∧ row ≤ s.chamber.bottom
  | 3 => row = s.row ∧ s.chamber.left ≤ col ∧ col < s.column
  | _ => False

theorem Section.holds_vertical_iff {top col length i j : Nat} :
    Section.Holds ⟨top, col, length, true⟩ (i, j) ↔ j = col ∧ top ≤ i ∧ i < top + length := by
  simp only [Section.Holds, Section.cell, if_true, Prod.mk.injEq]
  constructor
  · rintro ⟨place, hlt, rfl, rfl⟩
    exact ⟨rfl, by omega, by omega⟩
  · rintro ⟨rfl, ht, hb⟩
    exact ⟨i - top, by omega, by omega, rfl⟩

theorem Section.holds_horizontal_iff {row left length i j : Nat} :
    Section.Holds ⟨row, left, length, false⟩ (i, j) ↔
      i = row ∧ left ≤ j ∧ j < left + length := by
  simp only [Section.Holds, Section.cell, Bool.false_eq_true, if_false, Prod.mk.injEq]
  constructor
  · rintro ⟨place, hlt, rfl, rfl⟩
    exact ⟨rfl, by omega, by omega⟩
  · rintro ⟨rfl, hl, hr⟩
    exact ⟨j - left, by omega, rfl, by omega⟩

theorem Split.Fits.inSection_iff {s : Split} (hs : s.Fits) {row col k : Nat} :
    s.InSection row col k ↔ ∃ wall, s.sections[k]? = some wall ∧ wall.Holds (row, col) := by
  have h₁ := hs.left_lt
  have h₂ := hs.column_lt
  have h₃ := hs.top_lt
  have h₄ := hs.row_lt
  match k with
  | 0 | 2 =>
      simp only [InSection, sections, List.getElem?_cons_zero, List.getElem?_cons_succ,
        Option.some.injEq, exists_eq_left', Section.holds_vertical_iff]
      omega
  | 1 | 3 =>
      simp only [InSection, sections, List.getElem?_cons_zero, List.getElem?_cons_succ,
        Option.some.injEq, exists_eq_left', Section.holds_horizontal_iff]
      omega
  | k + 4 => simp [InSection, sections]

theorem forall₂_mem_right {α β : Type} {R : α → β → Prop} {xs : List α} {ys : List β}
    (h : List.Forall₂ R xs ys) {y : β} (hy : y ∈ ys) : ∃ x ∈ xs, R x y := by
  induction h with
  | nil => cases hy
  | cons hxy _ ih =>
      rcases List.mem_cons.1 hy with rfl | hy
      · exact ⟨_, List.mem_cons_self, hxy⟩
      · obtain ⟨x, hx, hR⟩ := ih hy
        exact ⟨x, List.mem_cons_of_mem _ hx, hR⟩

theorem forall₂_mem_left {α β : Type} {R : α → β → Prop} {xs : List α} {ys : List β}
    (h : List.Forall₂ R xs ys) {x : α} (hx : x ∈ xs) : ∃ y ∈ ys, R x y :=
  forall₂_mem_right h.flip hx

/-- If no two members on the left share a partner, then a member on the left has only one. -/
theorem eq_of_forall₂ {α β : Type} {R : α → β → Prop} {xs : List α} {ys : List β}
    (h : List.Forall₂ R xs ys) (hxs : xs.Pairwise fun a b => ∀ y, R a y → ¬ R b y) {x : α}
    (hx : x ∈ xs) {y z : β} (hy : y ∈ ys) (hz : z ∈ ys) (hxy : R x y) (hxz : R x z) : y = z := by
  induction h with
  | nil => cases hx
  | @cons a b xs ys hab hrest ih =>
      obtain ⟨ha, hxs⟩ := List.pairwise_cons.1 hxs
      rcases List.mem_cons.1 hx with rfl | hx
      · -- The partners of the others belong to the others.
        have hhead : ∀ w ∈ b :: ys, R x w → w = b := by
          intro w hw hxw
          rcases List.mem_cons.1 hw with rfl | hw
          · rfl
          · obtain ⟨c, hc, hcw⟩ := forall₂_mem_right hrest hw
            exact absurd hcw (ha c hc w hxw)
        rw [hhead y hy hxy, hhead z hz hxz]
      · have htail : ∀ w ∈ b :: ys, R x w → w ∈ ys := by
          intro w hw hxw
          rcases List.mem_cons.1 hw with rfl | hw
          · exact absurd hxw (ha x hx w hab)
          · exact hw
        exact ih hxs hx (htail y hy hxy) (htail z hz hxz)

/-- The four sections have no cell in common. -/
theorem Split.Fits.inSection_inj {s : Split} (hs : s.Fits) {row col k l : Nat}
    (hk : s.InSection row col k) (hl : s.InSection row col l) : k = l := by
  have h₁ := hs.left_lt
  have h₂ := hs.column_lt
  have h₃ := hs.top_lt
  have h₄ := hs.row_lt
  match k, l with
  | 0, 0 | 1, 1 | 2, 2 | 3, 3 => rfl
  | 0, 1 | 0, 2 | 0, 3 | 1, 0 | 1, 2 | 1, 3 | 2, 0 | 2, 1 | 2, 3 | 3, 0 | 3, 1 | 3, 2 =>
      simp only [InSection] at hk hl
      omega
  | k + 4, _ => exact False.elim hk
  | _, l + 4 => exact False.elim hl

theorem Split.Fits.pairwise_sections {s : Split} (hs : s.Fits) :
    s.sections.Pairwise fun a b => ∀ hole, a.Holds hole → ¬ b.Holds hole := by
  rw [List.pairwise_iff_getElem]
  intro k l hk hl hlt hole hin hin'
  have hk' := hs.inSection_iff.2 ⟨_, List.getElem?_eq_getElem hk, hin⟩
  have hl' := hs.inSection_iff.2 ⟨_, List.getElem?_eq_getElem hl, hin'⟩
  exact absurd (hs.inSection_inj hk' hl') (Nat.ne_of_lt hlt)

theorem Cut.Proper.inSection_of_mem {cut : Cut} (h : cut.Proper) {row col : Nat}
    (hmem : (row, col) ∈ cut.holes) : ∃ k < 4, cut.split.InSection row col k := by
  obtain ⟨closed, _, hp⟩ := h.pierced
  obtain ⟨wall, hwall, hholds⟩ := forall₂_mem_right hp hmem
  obtain ⟨k, hk⟩ := List.mem_iff_getElem?.1 (List.mem_of_mem_eraseIdx hwall)
  have hlt : k < cut.split.sections.length := (List.getElem?_eq_some_iff.1 hk).1
  exact ⟨k, hlt, h.fits.inSection_iff.2 ⟨wall, hk, hholds⟩⟩

theorem Cut.Proper.exists_hole {cut : Cut} (h : cut.Proper) :
    ∃ closed < 4, ∀ k < 4, k ≠ closed →
      ∃ row col, (row, col) ∈ cut.holes ∧ cut.split.InSection row col k := by
  obtain ⟨closed, hclosed, hp⟩ := h.pierced
  refine ⟨closed, hclosed, fun k hk hne => ?_⟩
  obtain ⟨wall, hwall⟩ : ∃ wall, cut.split.sections[k]? = some wall :=
    ⟨_, List.getElem?_eq_getElem hk⟩
  have hmem : wall ∈ cut.split.sections.eraseIdx closed :=
    List.mem_eraseIdx_iff_getElem?.2 ⟨k, hne, hwall⟩
  obtain ⟨⟨row, col⟩, hhole, hholds⟩ := forall₂_mem_left hp hmem
  exact ⟨row, col, hhole, h.fits.inSection_iff.2 ⟨wall, hwall, hholds⟩⟩

/-- A section has one hole at most. -/
theorem Cut.Proper.hole_unique {cut : Cut} (h : cut.Proper) {i j row col k : Nat}
    (hij : (i, j) ∈ cut.holes) (hhole : (row, col) ∈ cut.holes)
    (hk : cut.split.InSection i j k) (hk' : cut.split.InSection row col k) :
    i = row ∧ j = col := by
  obtain ⟨closed, -, hp⟩ := h.pierced
  obtain ⟨wall, hwall, hholds⟩ := h.fits.inSection_iff.1 hk
  obtain ⟨wall', hwall', hholds'⟩ := h.fits.inSection_iff.1 hk'
  obtain rfl : wall = wall' := Option.some.inj (hwall.symm.trans hwall')
  -- The section that the first hole was drawn from is this one.
  obtain ⟨drawn, hdrawn, hin⟩ := forall₂_mem_right hp hij
  obtain ⟨l, hl⟩ := List.mem_iff_getElem?.1 (List.mem_of_mem_eraseIdx hdrawn)
  obtain rfl := h.fits.inSection_inj hk (h.fits.inSection_iff.2 ⟨drawn, hl, hin⟩)
  obtain rfl : wall = drawn := Option.some.inj (hwall.symm.trans hl)
  have hapart := h.fits.pairwise_sections.sublist (List.eraseIdx_sublist _ closed)
  exact Prod.mk.inj (eq_of_forall₂ hp hapart hdrawn hij hhole hholds hholds')

/-- No two holes stand side by side. -/
theorem Cut.Proper.not_adjacent_holes {cut : Cut} (h : cut.Proper) {i j row col : Nat}
    (hij : (i, j) ∈ cut.holes) (hhole : (row, col) ∈ cut.holes) :
    ¬ ((i = row ∧ j + 1 = col) ∨ (j = col ∧ i + 1 = row)) := by
  intro hadj
  obtain ⟨h₁, h₂, h₃, h₄, -⟩ := h.fits
  obtain ⟨k, hk, hin⟩ := h.inSection_of_mem hij
  obtain ⟨l, hl, hin'⟩ := h.inSection_of_mem hhole
  by_cases hkl : k = l
  · -- In one section they would be the same.
    subst hkl
    have hsame := h.hole_unique hij hhole hin hin'
    omega
  · -- Two sections meet at the crossing only, and there only at a corner.
    match k, l with
    | 0, 0 | 1, 1 | 2, 2 | 3, 3 => exact hkl rfl
    | 0, 1 | 0, 2 | 0, 3 | 1, 0 | 1, 2 | 1, 3 | 2, 0 | 2, 1 | 2, 3 | 3, 0 | 3, 1 | 3, 2 =>
        simp only [Split.InSection] at hin hin'
        omega
    | k + 4, _ => exact hin
    | _, l + 4 => exact hin'

/-! ## What a cut does

The walls are closed one cell after the other, each unless it is a gap at that
moment. `isOpen_foldl_close` says that this is the same as closing them all at
once, if closing cells does not change what is a gap. -/

theorem Maze.isOpen_foldl_close (gap : Maze → Nat → Bool) (cell : Nat → Nat × Nat)
    (places : List Nat)
    (hgap : ∀ (n : Maze) (p : Nat), p ∈ places →
      gap (n.put (cell p).1 (cell p).2 false) = gap n)
    (m : Maze) (i j : Nat) :
    (places.foldl (fun n p => if gap n p then n else n.put (cell p).1 (cell p).2 false)
        m).isOpen i j = true ↔
      m.isOpen i j = true ∧ ∀ p ∈ places, cell p = (i, j) → gap m p = true := by
  induction places generalizing m with
  | nil => simp
  | cons p rest ih =>
      have hrest := ih fun n q hq => hgap n q (List.mem_cons_of_mem _ hq)
      rw [List.foldl_cons, hrest]
      by_cases hp : gap m p = true
      · rw [if_pos hp]
        constructor
        · rintro ⟨ho, hall⟩
          refine ⟨ho, fun q hq hcell => ?_⟩
          rcases List.mem_cons.1 hq with rfl | hq
          · exact hp
          · exact hall q hq hcell
        · rintro ⟨ho, hall⟩
          exact ⟨ho, fun q hq hcell => hall q (List.mem_cons_of_mem _ hq) hcell⟩
      · rw [if_neg hp, hgap m p List.mem_cons_self, isOpen_put_false]
        constructor
        · rintro ⟨⟨ho, hne⟩, hall⟩
          refine ⟨ho, fun q hq hcell => ?_⟩
          rcases List.mem_cons.1 hq with rfl | hq
          · exact absurd ⟨congrArg Prod.fst hcell, congrArg Prod.snd hcell⟩ hne
          · exact hall q hq hcell
        · rintro ⟨ho, hall⟩
          -- If the closed cell were this one, it would have to be a gap.
          refine ⟨⟨ho, fun hpij => hp ?_⟩, fun q hq hcell =>
            hall q (List.mem_cons_of_mem _ hq) hcell⟩
          exact hall p List.mem_cons_self (Prod.ext hpij.1 hpij.2)

theorem Maze.isOpen_foldl_open (holes : List (Nat × Nat)) (m : Maze) (i j : Nat) :
    (holes.foldl (fun n (row, col) => n.put row col true) m).isOpen i j = true ↔
      m.isOpen i j = true ∨ ((i, j) ∈ holes ∧ (m.cell? i j).isSome = true) := by
  induction holes generalizing m with
  | nil => simp
  | cons hole rest ih =>
      obtain ⟨row, col⟩ := hole
      have hthere : ((m.put row col true).cell? i j).isSome = (m.cell? i j).isSome := by
        rw [put, Table.cell?_modifyCell]
        split
        · rw [Option.isSome_map]
        · rfl
      rw [List.foldl_cons, ih, isOpen_put_true, hthere, List.mem_cons, Prod.mk.injEq,
        or_and_right, or_assoc, and_assoc, eq_comm (a := row), eq_comm (a := col)]

theorem Maze.hasSides_foldl {β : Type} {change : Maze → β → Maze} {height width : Nat}
    (hchange : ∀ n b, n.HasSides height width → (change n b).HasSides height width)
    (xs : List β) {m : Maze} (h : m.HasSides height width) :
    (xs.foldl change m).HasSides height width :=
  List.foldlRecOn (motive := fun n => n.HasSides height width) xs change h
    fun n hn b _ => hchange n b hn

namespace Split

/-- The walls of a split close this cell of a maze. -/
def Closes (s : Split) (m : Maze) (row col : Nat) : Prop :=
  (col = s.column ∧ s.chamber.top ≤ row ∧ row ≤ s.chamber.bottom ∧
      s.isColumnGap m row = false) ∨
    (row = s.row ∧ s.chamber.left ≤ col ∧ col ≤ s.chamber.right ∧ s.isRowGap m col = false)

/-- Only the two ends of the column of wall can be gaps. -/
theorem isColumnGap_of_between {s : Split} {m : Maze} {row : Nat} (hlow : s.chamber.top < row)
    (hhigh : row < s.chamber.bottom) : s.isColumnGap m row = false := by
  rw [isColumnGap, beq_false_of_ne (by omega), beq_false_of_ne (by omega)]
  rfl

/-- Only the two ends of the row of wall can be gaps. -/
theorem isRowGap_of_between {s : Split} {m : Maze} {col : Nat} (hlow : s.chamber.left < col)
    (hhigh : col < s.chamber.right) : s.isRowGap m col = false := by
  rw [isRowGap, beq_false_of_ne (by omega), beq_false_of_ne (by omega)]
  rfl

/-- The gaps of the column of wall are read above and below the chamber. -/
theorem isColumnGap_congr {s : Split} {m n : Maze}
    (ht : m.isOpen (s.chamber.top - 1) s.column = n.isOpen (s.chamber.top - 1) s.column)
    (hb : m.isOpen (s.chamber.bottom + 1) s.column = n.isOpen (s.chamber.bottom + 1) s.column) :
    s.isColumnGap m = s.isColumnGap n := by
  funext row
  rw [isColumnGap, isColumnGap]
  congr 1
  · by_cases h : row = s.chamber.top
    · rw [h, ht]
    · rw [beq_false_of_ne h, Bool.false_and, Bool.false_and]
  · by_cases h : row = s.chamber.bottom
    · rw [h, hb]
    · rw [beq_false_of_ne h, Bool.false_and, Bool.false_and]

/-- The gaps of the row of wall are read left and right of the chamber. -/
theorem isRowGap_congr {s : Split} {m n : Maze}
    (hl : m.isOpen s.row (s.chamber.left - 1) = n.isOpen s.row (s.chamber.left - 1))
    (hr : m.isOpen s.row (s.chamber.right + 1) = n.isOpen s.row (s.chamber.right + 1)) :
    s.isRowGap m = s.isRowGap n := by
  funext col
  rw [isRowGap, isRowGap]
  congr 1
  · by_cases h : col = s.chamber.left
    · rw [h, hl]
    · rw [beq_false_of_ne h, Bool.false_and, Bool.false_and]
  · by_cases h : col = s.chamber.right
    · rw [h, hr]
    · rw [beq_false_of_ne h, Bool.false_and, Bool.false_and]

theorem isOpen_buildColumn {s : Split} (ht : 0 < s.chamber.top) (m : Maze) (i j : Nat) :
    (s.buildColumn m).isOpen i j = true ↔
      m.isOpen i j = true ∧ ¬ (j = s.column ∧ s.chamber.top ≤ i ∧ i ≤ s.chamber.bottom ∧
        s.isColumnGap m i = false) := by
  have hfold := Maze.isOpen_foldl_close s.isColumnGap (fun row => (row, s.column))
    (List.range' s.chamber.top (s.chamber.bottom + 1 - s.chamber.top))
    (fun n row hrow => by
      rw [List.mem_range'_1] at hrow
      refine isColumnGap_congr ?_ ?_ <;> rw [Maze.isOpen_put, if_neg (by omega)])
    m i j
  rw [buildColumn, hfold]
  simp only [List.mem_range'_1, Prod.mk.injEq]
  refine and_congr_right fun _ => ⟨fun hall hclosed => ?_, fun hnot row hrow hcell => ?_⟩
  · obtain ⟨rfl, htop, hbottom, hgap⟩ := hclosed
    rw [hall i (by omega) ⟨rfl, rfl⟩] at hgap
    cases hgap
  · obtain ⟨rfl, rfl⟩ := hcell
    by_contra hgap
    exact hnot ⟨rfl, hrow.1, by omega, by simpa using hgap⟩

theorem isOpen_buildRow {s : Split} (hl : 0 < s.chamber.left) (m : Maze) (i j : Nat) :
    (s.buildRow m).isOpen i j = true ↔
      m.isOpen i j = true ∧ ¬ (i = s.row ∧ s.chamber.left ≤ j ∧ j ≤ s.chamber.right ∧
        s.isRowGap m j = false) := by
  have hfold := Maze.isOpen_foldl_close s.isRowGap (fun col => (s.row, col))
    (List.range' s.chamber.left (s.chamber.right + 1 - s.chamber.left))
    (fun n col hcol => by
      rw [List.mem_range'_1] at hcol
      refine isRowGap_congr ?_ ?_ <;> rw [Maze.isOpen_put, if_neg (by omega)])
    m i j
  rw [buildRow, hfold]
  simp only [List.mem_range'_1, Prod.mk.injEq]
  refine and_congr_right fun _ => ⟨fun hall hclosed => ?_, fun hnot col hcol hcell => ?_⟩
  · obtain ⟨rfl, hleft, hright, hgap⟩ := hclosed
    rw [hall j (by omega) ⟨rfl, rfl⟩] at hgap
    cases hgap
  · obtain ⟨rfl, rfl⟩ := hcell
    by_contra hgap
    exact hnot ⟨rfl, hcol.1, by omega, by simpa using hgap⟩

/-- The row of wall finds its gaps as they were before the column was built. -/
theorem isRowGap_buildColumn {s : Split} (ht : 0 < s.chamber.top) (hs : s.Fits) (m : Maze) :
    s.isRowGap (s.buildColumn m) = s.isRowGap m := by
  have h₁ := hs.left_lt
  have h₂ := hs.column_lt
  have houtside : ∀ col, col ≠ s.column →
      (s.buildColumn m).isOpen s.row col = m.isOpen s.row col := by
    intro col hcol
    rw [Bool.eq_iff_iff, isOpen_buildColumn ht]
    exact and_iff_left fun h => hcol h.1
  exact isRowGap_congr (houtside _ (by omega)) (houtside _ (by omega))

/-- Both walls at once: the row of wall meets the maze as it was before the column. -/
theorem isOpen_walls {s : Split} (ht : 0 < s.chamber.top) (hl : 0 < s.chamber.left)
    (hs : s.Fits) (m : Maze) (i j : Nat) :
    (s.buildRow (s.buildColumn m)).isOpen i j = true ↔
      m.isOpen i j = true ∧ ¬ s.Closes m i j := by
  rw [isOpen_buildRow hl, isOpen_buildColumn ht, isRowGap_buildColumn ht hs, Closes, not_or,
    and_assoc]

theorem hasSides_walls {s : Split} {m : Maze} {height width : Nat}
    (h : m.HasSides height width) : (s.buildRow (s.buildColumn m)).HasSides height width := by
  refine Maze.hasSides_foldl (fun n col hn => ?_) _ (Maze.hasSides_foldl (fun n row hn => ?_) _ h)
  all_goals
    split
    · exact hn
    · exact Maze.hasSides_put hn ..

end Split

namespace Cut

theorem hasSides_apply {cut : Cut} {m : Maze} {height width : Nat}
    (h : m.HasSides height width) : (cut.apply m).HasSides height width :=
  Maze.hasSides_foldl (fun _ _ hn => Maze.hasSides_put hn ..) _ (Split.hasSides_walls h)

/-- A cell is open after a cut if it is a hole, or was open and is not closed by the walls. -/
theorem isOpen_apply {cut : Cut} {m : Maze} {height width : Nat}
    (hm : m.HasSides height width) (ht : 0 < cut.split.chamber.top)
    (hl : 0 < cut.split.chamber.left) (hs : cut.split.Fits) (i j : Nat) :
    (cut.apply m).isOpen i j = true ↔
      (m.isOpen i j = true ∧ ¬ cut.split.Closes m i j) ∨
        ((i, j) ∈ cut.holes ∧ i < height ∧ j < width) := by
  rw [apply, Maze.isOpen_foldl_open, Split.isOpen_walls ht hl hs,
    (Split.hasSides_walls hm).isSome_cell?_iff]

end Cut

end Labyrinth
