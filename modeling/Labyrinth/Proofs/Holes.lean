import Labyrinth.Chance.Script
import Labyrinth.Proofs.Connected
import Labyrinth.Proofs.Openings

/-!
# Holes are never sealed

A hole is made long before the chambers on its two sides are divided, so what keeps it
from being walled up is a matter of everything that comes later. Two facts settle it. A
cell of a wall lies in no chamber that waits, and no cut writes outside its chamber, so
the hole itself is out of reach. A cell beside it may be in reach, but it is faced by an
open cell outside its chamber, and there a wall that ends leaves a gap.

The gaps are no different from the holes: they too are open cells of a wall. Hence one
invariant, `Settled`, serves both, and what is said of the moment after a cut is carried
to the end of the division by it.
-/

namespace Labyrinth

namespace Maze

/-- A cell and its neighbours to the left and to the right are open. -/
def LeadsAcross (m : Maze) (row col : Nat) : Prop :=
  m.isOpen row (col - 1) = true ∧ m.isOpen row col = true ∧ m.isOpen row (col + 1) = true

/-- A cell and its neighbours above and below are open. -/
def LeadsDown (m : Maze) (row col : Nat) : Prop :=
  m.isOpen (row - 1) col = true ∧ m.isOpen row col = true ∧ m.isOpen (row + 1) col = true

end Maze

/-! ## After a cut -/

namespace Cut.Applies

variable {cut : Cut} {m : Maze} {height width : Nat}

/-- What a cut leaves open in its column of wall leads from one side of the wall to the other. -/
theorem leadsAcross (h : cut.Applies m height width) {row : Nat}
    (hin : cut.split.chamber.contains row cut.split.column = true)
    (ho : (cut.apply m).isOpen row cut.split.column = true) :
    (cut.apply m).LeadsAcross row cut.split.column := by
  obtain ⟨h₁, h₂, -, -, -⟩ := h.proper.fits
  have hrow : row ≠ cut.split.row := by
    rintro rfl
    rw [h.isOpen_crossing] at ho
    cases ho
  have hbeside : ∀ col, col ≠ cut.split.column → cut.split.chamber.left ≤ col →
      col ≤ cut.split.chamber.right → (cut.apply m).isOpen row col = true := by
    intro col hcol hl hr
    have hrows := Chamber.contains_iff.1 hin
    exact h.isOpen_clear hrow hcol (h.isOpen row col (Chamber.contains_iff.2 (by omega)))
  exact ⟨hbeside _ (by omega) (by omega) (by omega), ho,
    hbeside _ (by omega) (by omega) (by omega)⟩

/-- What a cut leaves open in its row of wall leads from one side of the wall to the other. -/
theorem leadsDown (h : cut.Applies m height width) {col : Nat}
    (hin : cut.split.chamber.contains cut.split.row col = true)
    (ho : (cut.apply m).isOpen cut.split.row col = true) :
    (cut.apply m).LeadsDown cut.split.row col := by
  obtain ⟨-, -, h₃, h₄, -⟩ := h.proper.fits
  have hcol : col ≠ cut.split.column := by
    rintro rfl
    rw [h.isOpen_crossing] at ho
    cases ho
  have hbeside : ∀ row, row ≠ cut.split.row → cut.split.chamber.top ≤ row →
      row ≤ cut.split.chamber.bottom → (cut.apply m).isOpen row col = true := by
    intro row hrow ht hb
    have hcols := Chamber.contains_iff.1 hin
    exact h.isOpen_clear hrow hcol (h.isOpen row col (Chamber.contains_iff.2 (by omega)))
  exact ⟨hbeside _ (by omega) (by omega) (by omega), ho,
    hbeside _ (by omega) (by omega) (by omega)⟩

/-- An end of the column of wall that faces an opening is left open. -/
theorem isOpen_columnGap (h : cut.Applies m height width) {row : Nat}
    (hgap : cut.split.isColumnGap m row = true) :
    cut.split.chamber.contains row cut.split.column = true ∧
      (cut.apply m).isOpen row cut.split.column = true := by
  obtain ⟨h₁, h₂, h₃, h₄, -⟩ := h.proper.fits
  have hend : row = cut.split.chamber.top ∨ row = cut.split.chamber.bottom := by
    rw [Split.isColumnGap, Bool.or_eq_true, Bool.and_eq_true, Bool.and_eq_true, beq_iff_eq,
      beq_iff_eq] at hgap
    exact hgap.imp And.left And.left
  have hin : cut.split.chamber.contains row cut.split.column = true :=
    Chamber.contains_iff.2 (by omega)
  refine ⟨hin, h.isOpen_apply_iff.2 (.inl ⟨h.isOpen _ _ hin, ?_⟩)⟩
  rintro (⟨-, -, -, hclosed⟩ | ⟨hrow, -⟩)
  · rw [hgap] at hclosed
    cases hclosed
  · omega

/-- An end of the row of wall that faces an opening is left open. -/
theorem isOpen_rowGap (h : cut.Applies m height width) {col : Nat}
    (hgap : cut.split.isRowGap m col = true) :
    cut.split.chamber.contains cut.split.row col = true ∧
      (cut.apply m).isOpen cut.split.row col = true := by
  obtain ⟨h₁, h₂, h₃, h₄, -⟩ := h.proper.fits
  have hend : col = cut.split.chamber.left ∨ col = cut.split.chamber.right := by
    rw [Split.isRowGap, Bool.or_eq_true, Bool.and_eq_true, Bool.and_eq_true, beq_iff_eq,
      beq_iff_eq] at hgap
    exact hgap.imp And.left And.left
  have hin : cut.split.chamber.contains cut.split.row col = true :=
    Chamber.contains_iff.2 (by omega)
  refine ⟨hin, h.isOpen_apply_iff.2 (.inl ⟨h.isOpen _ _ hin, ?_⟩)⟩
  rintro (⟨hcol, -⟩ | ⟨-, -, -, hclosed⟩)
  · omega
  · rw [hgap] at hclosed
    cases hclosed

end Cut.Applies

/-! ## Until the end -/

namespace Division

variable {σ : Type} {height width : Nat} {d e : Division σ}

/-- A cell that is open and lies in no chamber that waits. -/
def Settled (d : Division σ) (row col : Nat) : Prop :=
  d.maze.isOpen row col = true ∧ ∀ c ∈ d.pending, c.contains row col = false

variable [Source σ]

/-- What a cut leaves open in its walls lies in no chamber that waits afterwards. -/
theorem settled_of_divided (hd : d.Sound height width) {cut : Cut} (h : d.step = .divided cut e)
    {row col : Nat} (hin : cut.split.chamber.contains row col = true)
    (hwall : row = cut.split.row ∨ col = cut.split.column) (ho : e.maze.isOpen row col = true) :
    e.Settled row col := by
  obtain ⟨chamber, others, source, hp, -, rfl, hproper, rfl⟩ := step_eq_divided h
  refine ⟨ho, fun c hc => ?_⟩
  rw [← Bool.not_eq_true]
  intro hcell
  rcases List.mem_append.1 hc with hquarter | hother
  · obtain ⟨-, hcol, hrow⟩ := hproper.fits.contains_of_quarter hquarter hcell
    exact hwall.elim hrow hcol
  · have hapart := hd.apart
    rw [hp, List.pairwise_cons] at hapart
    exact hapart.1 c hother row col hin hcell

/-- A step leaves a settled cell settled and its open neighbours open. -/
theorem settled_of_next (hd : d.Sound height width) {i j k l : Nat} (hij : d.Settled i j)
    (hkl : d.maze.isOpen k l = true)
    (hadj : (i = k ∧ (j + 1 = l ∨ l + 1 = j)) ∨ (j = l ∧ (i + 1 = k ∨ k + 1 = i)))
    (hnext : d.Next e) : e.Settled i j ∧ e.maze.isOpen k l = true := by
  obtain ⟨ho, hout⟩ := hij
  rcases hnext with hdropped | ⟨cut, hdivided⟩
  · obtain ⟨chamber, others, hp, -, rfl⟩ := step_eq_dropped hdropped
    exact ⟨⟨ho, fun c hc => hout c (by rw [hp]; exact List.mem_cons_of_mem _ hc)⟩, hkl⟩
  · obtain ⟨chamber, others, source, hp, -, rfl, hproper, rfl⟩ := step_eq_divided hdivided
    have hmem : cut.split.chamber ∈ d.pending := by
      rw [hp]
      exact List.mem_cons_self
    have happlies := hd.applies hproper hmem
    have hchamber := hout _ hmem
    refine ⟨⟨?_, fun c hc => ?_⟩, ?_⟩
    · show (cut.apply d.maze).isOpen i j = true
      rw [happlies.isOpen_outside hchamber]
      exact ho
    · rcases List.mem_append.1 hc with hquarter | hother
      · rw [← Bool.not_eq_true]
        intro hcell
        rw [(hproper.fits.contains_of_quarter hquarter hcell).1] at hchamber
        cases hchamber
      · exact hout c (by rw [hp]; exact List.mem_cons_of_mem _ hother)
    · by_cases hin : cut.split.chamber.contains k l = true
      · exact happlies.isOpen_of_facing hchamber ho hin hadj
      · show (cut.apply d.maze).isOpen k l = true
        rw [happlies.isOpen_outside (by simpa using hin)]
        exact hkl

theorem isOpen_beside_of_steps (hd : d.Sound height width) {i j k l : Nat} (hij : d.Settled i j)
    (hkl : d.maze.isOpen k l = true)
    (hadj : (i = k ∧ (j + 1 = l ∨ l + 1 = j)) ∨ (j = l ∧ (i + 1 = k ∨ k + 1 = i)))
    (h : Relation.ReflTransGen Next d e) :
    e.maze.isOpen i j = true ∧ e.maze.isOpen k l = true := by
  have hkept := invariant_of_steps (P := fun d => d.Settled i j ∧ d.maze.isOpen k l = true)
    (fun d e hd hP hnext => settled_of_next hd hP.1 hP.2 hadj hnext) hd ⟨hij, hkl⟩ h
  exact ⟨hkept.1.1, hkept.2⟩

theorem leadsAcross_of_steps (hd : d.Sound height width) {row col : Nat} (hcol : 0 < col)
    (hsettled : d.Settled row col) (hleads : d.maze.LeadsAcross row col)
    (h : Relation.ReflTransGen Next d e) : e.maze.LeadsAcross row col := by
  obtain ⟨hleft, -, hright⟩ := hleads
  have hleft := isOpen_beside_of_steps hd hsettled hleft (by omega) h
  have hright := isOpen_beside_of_steps hd hsettled hright (by omega) h
  exact ⟨hleft.2, hleft.1, hright.2⟩

theorem leadsDown_of_steps (hd : d.Sound height width) {row col : Nat} (hrow : 0 < row)
    (hsettled : d.Settled row col) (hleads : d.maze.LeadsDown row col)
    (h : Relation.ReflTransGen Next d e) : e.maze.LeadsDown row col := by
  obtain ⟨habove, -, hbelow⟩ := hleads
  have habove := isOpen_beside_of_steps hd hsettled habove (by omega) h
  have hbelow := isOpen_beside_of_steps hd hsettled hbelow (by omega) h
  exact ⟨habove.2, habove.1, hbelow.2⟩

end Division

/-! ## The finished maze -/

namespace Maze

variable {m : Maze} {row col : Nat}

theorem LeadsAcross.openBorder (h : m.LeadsAcross row col) (height width : Nat) :
    (m.openBorder height width).LeadsAcross row col :=
  ⟨isOpen_openBorder _ _ h.1, isOpen_openBorder _ _ h.2.1, isOpen_openBorder _ _ h.2.2⟩

theorem LeadsDown.openBorder (h : m.LeadsDown row col) (height width : Nat) :
    (m.openBorder height width).LeadsDown row col :=
  ⟨isOpen_openBorder _ _ h.1, isOpen_openBorder _ _ h.2.1, isOpen_openBorder _ _ h.2.2⟩

end Maze

namespace Generator

variable {σ : Type} [Source σ] {width height : Int} {source : σ}

/-- What a cut made on the way to a generated maze has left open in its walls still leads through
them in the end. -/
theorem leads_of_divided {m : Maze} (h : (generate width height source).maze = .ok (some m))
    {d e : Division σ} {cut : Cut}
    (hd : Relation.ReflTransGen Division.Next
      (Division.fresh height.toNat width.toNat source) d)
    (hcut : d.step = .divided cut e) :
    cut.Applies d.maze height.toNat width.toNat ∧
      (∀ row, cut.split.chamber.contains row cut.split.column = true →
        (cut.apply d.maze).isOpen row cut.split.column = true →
          m.LeadsAcross row cut.split.column) ∧
      ∀ col, cut.split.chamber.contains cut.split.row col = true →
        (cut.apply d.maze).isOpen cut.split.row col = true → m.LeadsDown cut.split.row col := by
  obtain ⟨hh, hw, -⟩ := exists_divided_of_steps h hd
  have hsound := Division.sound_of_steps (Division.sound_fresh (by omega) (by omega) source) hd
  have he := Division.sound_of_divided hsound hcut
  obtain ⟨-, -, f, hsteps, -, rfl⟩ :=
    exists_divided_of_steps h (hd.tail (.inr ⟨cut, hcut⟩))
  obtain ⟨chamber, others, rest, hp, -, rfl, hproper, hafter⟩ := Division.step_eq_divided hcut
  have happlies := hsound.applies hproper (by rw [hp]; exact List.mem_cons_self)
  have hmaze : e.maze = cut.apply d.maze := by rw [hafter]
  have hleft : 0 < cut.split.column := Nat.zero_lt_of_lt hproper.fits.left_lt
  have htop : 0 < cut.split.row := Nat.zero_lt_of_lt hproper.fits.top_lt
  refine ⟨happlies, fun row hin ho => ?_, fun col hin ho => ?_⟩
  · have hleads := happlies.leadsAcross hin ho
    rw [← hmaze] at ho hleads
    have hsettled := Division.settled_of_divided hsound hcut hin (.inr rfl) ho
    exact (Division.leadsAcross_of_steps he hleft hsettled hleads hsteps).openBorder ..
  · have hleads := happlies.leadsDown hin ho
    rw [← hmaze] at ho hleads
    have hsettled := Division.settled_of_divided hsound hcut hin (.inl rfl) ho
    exact (Division.leadsDown_of_steps he htop hsettled hleads hsteps).openBorder ..

/-- Whatever is drawn, the holes of every cut lead through their walls in the finished maze: through
the column of wall from left to right, and through the row of wall from above to below. So do the
ends of the two walls that are left out because they face an opening. -/
theorem leads_of_generate {result : Option Maze} (hw : 3 ≤ width) (hh : 3 ≤ height)
    (h : (generate width height source).maze = .ok result) :
    ∃ m, result = some m ∧ ∀ (d e : Division σ) (cut : Cut),
      Relation.ReflTransGen Division.Next
        (Division.fresh height.toNat width.toNat source) d → d.step = .divided cut e →
      (∀ row col, (row, col) ∈ cut.holes →
        (col = cut.split.column ∧ row ≠ cut.split.row ∧ m.LeadsAcross row col) ∨
          (row = cut.split.row ∧ col ≠ cut.split.column ∧ m.LeadsDown row col)) ∧
      (∀ row, cut.split.isColumnGap d.maze row = true →
        m.LeadsAcross row cut.split.column) ∧
      ∀ col, cut.split.isRowGap (cut.split.buildColumn d.maze) col = true →
        m.LeadsDown cut.split.row col := by
  obtain ⟨m, rfl⟩ := exists_maze_of_generate hw hh h
  refine ⟨m, rfl, fun d e cut hd hcut => ?_⟩
  obtain ⟨happlies, hacross, hdown⟩ := leads_of_divided h hd hcut
  obtain ⟨h₁, h₂, h₃, h₄, -⟩ := happlies.proper.fits
  refine ⟨fun row col hhole => ?_, fun row hgap => ?_, fun col hgap => ?_⟩
  · have hin := happlies.contains_of_hole hhole
    have ho := happlies.isOpen_hole hhole
    obtain ⟨k, hk, hsection⟩ := happlies.proper.inSection_of_mem hhole
    match k, hk with
    | 0, _ | 2, _ =>
        obtain ⟨rfl, hrow⟩ := hsection
        exact .inl ⟨rfl, by omega, hacross row hin ho⟩
    | 1, _ | 3, _ =>
        obtain ⟨rfl, hcol⟩ := hsection
        exact .inr ⟨rfl, by omega, hdown col hin ho⟩
  · obtain ⟨hin, ho⟩ := happlies.isOpen_columnGap hgap
    exact hacross row hin ho
  · rw [Split.isRowGap_buildColumn happlies.inside.top_pos happlies.proper.fits] at hgap
    obtain ⟨hin, ho⟩ := happlies.isOpen_rowGap hgap
    exact hdown col hin ho

/-- The quarter at the top left is divided in its turn: the lower end of its column of wall faces a
hole in the first row of wall and is left out, and the right end of its row of wall is left out and
pierced as well. -/
theorem leads_of_generate_seven_by_seven :
    ∃ (m : Maze) (d e : Division Script) (cut : Cut),
      (generate 7 7 (⟨[2, 2, 1, 1, 0, 1, 0, 0, 2, 0, 0, 0]⟩ : Script)).maze = .ok (some m) ∧
      d.step = .divided cut e ∧ cut.split.chamber = ⟨1, 1, 3, 3⟩ ∧
      cut.split.isColumnGap d.maze 3 = true ∧ m.LeadsAcross 3 2 ∧
      (2, 3) ∈ cut.holes ∧ m.LeadsDown 2 3 := by
  let answers : Script := ⟨[2, 2, 1, 1, 0, 1, 0, 0, 2, 0, 0, 0]⟩
  have h : (generate 7 7 answers).maze =
      .ok (some (.ofLists
        [[false, true, false, false, false, false, false],
          [false, true, true, true, false, true, false],
          [false, true, false, true, true, true, false],
          [false, true, true, true, false, true, false],
          [false, false, true, false, false, false, false],
          [false, true, true, true, true, true, false],
          [false, false, false, false, false, true, false]])) := by
    decide +kernel
  let split₁ : Split := ⟨⟨1, 1, 5, 5⟩, 4, 4⟩
  let split₂ : Split := ⟨⟨1, 1, 3, 3⟩, 2, 2⟩
  have hsplit₁ : drawSplit ⟨1, 1, 5, 5⟩ answers =
      .drew split₁ ⟨[1, 1, 0, 1, 0, 0, 2, 0, 0, 0]⟩ := by decide +kernel
  have hholes₁ : drawHoles split₁ (⟨[1, 1, 0, 1, 0, 0, 2, 0, 0, 0]⟩ : Script) =
      .drew ⟨split₁, [(2, 4), (5, 4), (4, 2)]⟩ ⟨[0, 0, 2, 0, 0, 0]⟩ := by decide +kernel
  have hsplit₂ : drawSplit ⟨1, 1, 3, 3⟩ (⟨[0, 0, 2, 0, 0, 0]⟩ : Script) =
      .drew split₂ ⟨[2, 0, 0, 0]⟩ := by decide +kernel
  have hholes₂ : drawHoles split₂ (⟨[2, 0, 0, 0]⟩ : Script) =
      .drew ⟨split₂, [(1, 2), (2, 3), (2, 1)]⟩ ⟨[]⟩ := by decide +kernel
  let d : Division Script :=
    ⟨Cut.apply ⟨split₁, [(2, 4), (5, 4), (4, 2)]⟩ (Maze.bordered 7 7), split₁.quarters,
      ⟨[0, 0, 2, 0, 0, 0]⟩, [split₁]⟩
  have hfirst : (Division.fresh 7 7 answers).step =
      .divided ⟨split₁, [(2, 4), (5, 4), (4, 2)]⟩ d := by
    rw [Division.step]
    simp only [Division.fresh, Maze.interior, hsplit₁, hholes₁]
    rfl
  obtain ⟨e, hsecond⟩ : ∃ e, d.step = .divided ⟨split₂, [(1, 2), (2, 3), (2, 1)]⟩ e := by
    rw [Division.step]
    simp only [d, split₁, Split.quarters, hsplit₂, hholes₂]
    exact ⟨_, rfl⟩
  have hsteps : Relation.ReflTransGen Division.Next (Division.fresh 7 7 answers) d :=
    .single (.inr ⟨_, hfirst⟩)
  obtain ⟨m, hm, hcuts⟩ := leads_of_generate (by decide) (by decide) h
  obtain ⟨hholes, hcolumn, -⟩ := hcuts d e _ hsteps hsecond
  have hgap : split₂.isColumnGap d.maze 3 = true := by decide +kernel
  have hhole : (2, 3) ∈ [(1, 2), (2, 3), (2, 1)] := by decide
  have hdown : m.LeadsDown 2 3 :=
    (hholes 2 3 hhole).elim (fun hacross => absurd hacross.1 (by decide)) fun hdown => hdown.2.2
  exact ⟨m, d, e, _, h.trans (congrArg Except.ok hm), hsecond, rfl, hgap, hcolumn 3 hgap, hhole,
    hdown⟩

end Generator

end Labyrinth
