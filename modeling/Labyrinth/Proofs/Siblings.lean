import Labyrinth.Chance.Script
import Labyrinth.Proofs.Accesses
import Mathlib.Data.List.Pairwise

/-!
# Chambers that wait beside each other

Chambers that wait are not merely apart: a line of wall runs between any two of them.
Whatever a division does to one of them, and to the chambers that come of it, it
writes within its sides and reads within its sides and one cell beyond. So what is written
for the one is never read for the other, and it does not matter which of them comes first.

Two facts about a cut carry this. What lies outside the chamber keeps its cells, and
mazes that agree on the chamber and around it agree there afterwards, because the ends
of the walls look one cell beyond it and no further. Both go through a whole division
by induction on its steps: the quarters of a chamber lie within it, and so does
everything around them within what lies around it.
-/

namespace Labyrinth

namespace Chamber

/-- A chamber with the cells around it. -/
def grown (c : Chamber) : Chamber :=
  ⟨c.top - 1, c.left - 1, c.bottom + 1, c.right + 1⟩

structure Within (q c : Chamber) : Prop where
  top_le : c.top ≤ q.top
  left_le : c.left ≤ q.left
  bottom_le : q.bottom ≤ c.bottom
  right_le : q.right ≤ c.right

/-- There is room for a wall between the two. -/
def Separated (a b : Chamber) : Prop :=
  a.right + 1 < b.left ∨ b.right + 1 < a.left ∨ a.bottom + 1 < b.top ∨ b.bottom + 1 < a.top

variable {a b c q : Chamber} {row col : Nat}

theorem Within.refl (c : Chamber) : c.Within c :=
  ⟨Nat.le_refl _, Nat.le_refl _, Nat.le_refl _, Nat.le_refl _⟩

theorem Within.trans (hab : a.Within b) (hbc : b.Within c) : a.Within c where
  top_le := Nat.le_trans hbc.top_le hab.top_le
  left_le := Nat.le_trans hbc.left_le hab.left_le
  bottom_le := Nat.le_trans hab.bottom_le hbc.bottom_le
  right_le := Nat.le_trans hab.right_le hbc.right_le

theorem Within.contains (h : q.Within c) (hcell : q.contains row col = true) :
    c.contains row col = true := by
  obtain ⟨h₁, h₂, h₃, h₄⟩ := h
  rw [contains_iff] at hcell ⊢
  omega

theorem Within.grown (h : q.Within c) : q.grown.Within c.grown := by
  obtain ⟨h₁, h₂, h₃, h₄⟩ := h
  constructor <;> simp only [Chamber.grown] <;> omega

theorem within_grown (c : Chamber) : c.Within c.grown := by
  constructor <;> simp only [grown] <;> omega

theorem Separated.symm (h : a.Separated b) : b.Separated a := by
  unfold Separated at h ⊢
  omega

instance : Std.Symm Separated :=
  ⟨fun _ _ => Separated.symm⟩

/-- What lies within a chamber is as far from the others as the chamber is. -/
theorem Separated.of_within (h : a.Separated b) (hq : q.Within a) : q.Separated b := by
  obtain ⟨h₁, h₂, h₃, h₄⟩ := hq
  unfold Separated at h ⊢
  omega

theorem Separated.apart_grown (h : a.Separated b) : a.Apart b.grown := by
  intro row col ha hb
  rw [contains_iff] at ha hb
  simp only [grown] at hb
  unfold Separated at h
  omega

end Chamber

namespace Split.Fits

theorem within_of_quarter {s : Split} (hs : s.Fits) {q : Chamber} (hq : q ∈ s.quarters) :
    q.Within s.chamber := by
  obtain ⟨h₁, h₂, h₃, h₄, -⟩ := hs
  simp only [quarters, List.mem_cons, List.not_mem_nil, or_false] at hq
  rcases hq with rfl | rfl | rfl | rfl <;> constructor <;> dsimp only <;> omega

/-- The walls run between the quarters. -/
theorem separated_quarters {s : Split} (hs : s.Fits) :
    s.quarters.Pairwise Chamber.Separated := by
  obtain ⟨h₁, h₂, h₃, h₄, -⟩ := hs
  simp only [quarters, Chamber.Separated, List.pairwise_cons, List.mem_cons, List.not_mem_nil,
    or_false, forall_eq_or_imp, forall_eq, List.Pairwise.nil, and_true, false_imp_iff,
    implies_true]
  omega

end Split.Fits

/-! ## Mazes that agree somewhere -/

namespace Maze

/-- Two mazes have the same cells in a region. -/
def Agree (region : Chamber) (m n : Maze) : Prop :=
  ∀ row col, region.contains row col = true → m.cell? row col = n.cell? row col

variable {region : Chamber} {m n : Maze}

theorem Agree.isOpen (h : Agree region m n) {row col : Nat}
    (hcell : region.contains row col = true) : m.isOpen row col = n.isOpen row col := by
  rw [Maze.isOpen, Maze.isOpen, h row col hcell]

theorem Agree.put (h : Agree region m n) (row col : Nat) (isOpen : Bool) :
    Agree region (m.put row col isOpen) (n.put row col isOpen) := by
  intro i j hcell
  rw [Maze.put, Maze.put, Table.cell?_modifyCell, Table.cell?_modifyCell, h i j hcell]

theorem cell?_put_of_ne {row col i j : Nat} (h : ¬ (row = i ∧ col = j)) (isOpen : Bool) :
    (m.put row col isOpen).cell? i j = m.cell? i j := by
  rw [put, Table.cell?_modifyCell, if_neg h]

end Maze

section Agree

variable {region : Chamber} {m n : Maze}

theorem Split.Fits.agree_walls {s : Split} (hs : s.Fits)
    (hreads : s.chamber.grown.Within region) (h : m.Agree region n) :
    (s.buildRow (s.buildColumn m)).Agree region (s.buildRow (s.buildColumn n)) := by
  obtain ⟨h₁, h₂, h₃, h₄, -⟩ := hs
  have hcell : ∀ row col, s.chamber.top - 1 ≤ row ∧ row ≤ s.chamber.bottom + 1 ∧
      s.chamber.left - 1 ≤ col ∧ col ≤ s.chamber.right + 1 →
      region.contains row col = true :=
    fun _ _ hin => hreads.contains (Chamber.contains_iff.2 hin)
  have hcolumn : (s.buildColumn m).Agree region (s.buildColumn n) := by
    apply List.foldl_rel h
    intro row _ m n h
    have hgap : s.isColumnGap m = s.isColumnGap n :=
      isColumnGap_congr (h.isOpen (hcell _ _ (by omega))) (h.isOpen (hcell _ _ (by omega)))
    rw [hgap]
    split
    · exact h
    · exact h.put _ _ _
  apply List.foldl_rel hcolumn
  intro col _ m n h
  have hgap : s.isRowGap m = s.isRowGap n :=
    isRowGap_congr (h.isOpen (hcell _ _ (by omega))) (h.isOpen (hcell _ _ (by omega)))
  rw [hgap]
  split
  · exact h
  · exact h.put _ _ _

/-- A cut reads nothing beyond the cells around its chamber. -/
theorem Cut.Proper.agree_apply {cut : Cut} (hcut : cut.Proper)
    (hreads : cut.split.chamber.grown.Within region) (h : m.Agree region n) :
    (cut.apply m).Agree region (cut.apply n) := by
  apply List.foldl_rel (hcut.fits.agree_walls hreads h)
  intro hole _ m n h
  exact h.put _ _ _

/-- A cut writes nothing beyond its chamber. -/
theorem Cut.Proper.cell?_apply {cut : Cut} (hcut : cut.Proper) {row col : Nat}
    (hout : cut.split.chamber.contains row col = false) (m : Maze) :
    (cut.apply m).cell? row col = m.cell? row col := by
  obtain ⟨h₁, h₂, h₃, h₄, -⟩ := hcut.fits
  have hput : ∀ (n : Maze) (i j : Nat) (isOpen : Bool),
      cut.split.chamber.contains i j = true →
      (n.put i j isOpen).cell? row col = n.cell? row col := by
    intro n i j isOpen hin
    apply Maze.cell?_put_of_ne
    rintro ⟨rfl, rfl⟩
    rw [hout] at hin
    cases hin
  have hcolumn : (cut.split.buildColumn m).cell? row col = m.cell? row col := by
    apply List.foldlRecOn (motive := fun n : Maze => n.cell? row col = m.cell? row col)
    · rfl
    · intro n hn i hi
      rw [List.mem_range'_1] at hi
      split
      · exact hn
      · rw [hput _ _ _ _ (Chamber.contains_iff.2 (by omega)), hn]
  have hrow : (cut.split.buildRow (cut.split.buildColumn m)).cell? row col =
      m.cell? row col := by
    apply List.foldlRecOn (motive := fun n : Maze => n.cell? row col = m.cell? row col)
    · exact hcolumn
    · intro n hn j hj
      rw [List.mem_range'_1] at hj
      split
      · exact hn
      · rw [hput _ _ _ _ (Chamber.contains_iff.2 (by omega)), hn]
  apply List.foldlRecOn (motive := fun n : Maze => n.cell? row col = m.cell? row col)
  · exact hrow
  · intro n hn hole hhole
    obtain ⟨k, -, hin⟩ := hcut.inSection_of_mem hhole
    rw [hput _ _ _ _ (Split.contains_of_inSection hcut.fits hin), hn]

end Agree

namespace Division

variable {σ τ : Type} [Source σ] [Source τ]

/-! ## What is written -/

/-- Wherever a division has come to, it has kept to a chamber of the maze. -/
structure Confined (c : Chamber) (m : Maze) (e : Division σ) : Prop where
  within : ∀ q ∈ e.pending, q.Within c
  outside : ∀ row col, c.contains row col = false → e.maze.cell? row col = m.cell? row col

theorem confined_of_next {c : Chamber} {m : Maze} {d e : Division σ} (hd : d.Confined c m)
    (h : d.Next e) : e.Confined c m := by
  rcases h with hdropped | ⟨cut, hdivided⟩
  · obtain ⟨chamber, others, hp, -, rfl⟩ := step_eq_dropped hdropped
    refine ⟨fun q hq => hd.within q ?_, hd.outside⟩
    rw [hp]
    exact List.mem_cons_of_mem _ hq
  · obtain ⟨chamber, others, source, hp, -, hchamber, hcut, rfl⟩ := step_eq_divided hdivided
    have hfirst : cut.split.chamber.Within c := by
      rw [hchamber]
      exact hd.within chamber (by rw [hp]; exact List.mem_cons_self)
    constructor
    · intro q hq
      rcases List.mem_append.1 hq with hq | hq
      · exact (hcut.fits.within_of_quarter hq).trans hfirst
      · exact hd.within q (by rw [hp]; exact List.mem_cons_of_mem _ hq)
    · intro row col hout
      have hout' : cut.split.chamber.contains row col = false := by
        rw [← Bool.not_eq_true] at hout ⊢
        exact fun hin => hout (hfirst.contains hin)
      show (cut.apply d.maze).cell? row col = m.cell? row col
      rw [hcut.cell?_apply hout', hd.outside row col hout]

theorem confined_of_steps {c : Chamber} {m : Maze} {d e : Division σ} (hd : d.Confined c m)
    (h : Relation.ReflTransGen Next d e) : e.Confined c m := by
  induction h with
  | refl => exact hd
  | tail _ hnext ih => exact confined_of_next ih hnext

theorem hasSides_of_steps {height width : Nat} {d e : Division σ}
    (hd : d.maze.HasSides height width) (h : Relation.ReflTransGen Next d e) :
    e.maze.HasSides height width := by
  induction h with
  | refl => exact hd
  | tail _ hnext ih =>
      rcases hnext with hdropped | ⟨cut, hdivided⟩
      · obtain ⟨chamber, others, -, -, rfl⟩ := step_eq_dropped hdropped
        exact ih
      · obtain ⟨chamber, others, source, -, -, -, -, rfl⟩ := step_eq_divided hdivided
        exact Cut.hasSides_apply ih

/-- The division of one chamber of a maze, with everything inside it, and of no other. -/
def alone (c : Chamber) (m : Maze) (source : σ) : Division σ :=
  ⟨m, [c], source, []⟩

omit [Source σ] in
theorem confined_alone (c : Chamber) (m : Maze) (source : σ) :
    (alone c m source).Confined c m := by
  refine ⟨fun q hq => ?_, fun _ _ _ => rfl⟩
  rw [List.mem_singleton.1 hq]
  exact .refl c

/-- A maze once a chamber of it has been divided with everything inside it, unless the source runs
dry. -/
def divided? (c : Chamber) (source : σ) (m : Maze) : Option Maze :=
  (alone c m source).run.maze.toOption

theorem run_of_divided? {c : Chamber} {source : σ} {m n : Maze}
    (h : divided? c source m = some n) : (alone c m source).run.maze = .ok n := by
  unfold divided? at h
  cases hrun : (alone c m source).run.maze with
  | error range => rw [hrun] at h; cases h
  | ok divided => rw [hrun] at h; rw [Option.some.inj h]

theorem cell?_of_divided? {c : Chamber} {source : σ} {m n : Maze}
    (h : divided? c source m = some n) {row col : Nat} (hout : c.contains row col = false) :
    n.cell? row col = m.cell? row col := by
  obtain ⟨e, hsteps, -, rfl⟩ := exists_steps_of_run (run_of_divided? h)
  exact (confined_of_steps (confined_alone c m source) hsteps).outside row col hout

theorem hasSides_of_divided? {height width : Nat} {c : Chamber} {source : σ} {m n : Maze}
    (hm : m.HasSides height width) (h : divided? c source m = some n) :
    n.HasSides height width := by
  obtain ⟨e, hsteps, -, rfl⟩ := exists_steps_of_run (run_of_divided? h)
  exact hasSides_of_steps (d := alone c m source) hm hsteps

/-! ## What is read -/

/-- Two divisions that differ in their mazes only, and there only outside a region, in which lies
everything around the chambers that wait. -/
structure Alike (region : Chamber) (d e : Division σ) : Prop where
  maze : d.maze.Agree region e.maze
  pending : d.pending = e.pending
  source : d.source = e.source
  splits : d.splits = e.splits
  reads : ∀ q ∈ d.pending, q.grown.Within region

/-- What comes next is the same for both divisions, and they stay alike. -/
inductive Step.Alike (region : Chamber) : Step σ → Step σ → Prop
  | finished : Step.Alike region .finished .finished
  | dropped {d e : Division σ} (h : d.Alike region e) :
      Step.Alike region (.dropped d) (.dropped e)
  | divided {d e : Division σ} (cut : Cut) (h : d.Alike region e) :
      Step.Alike region (.divided cut d) (.divided cut e)
  | dry (range : Nat) (source : σ) (splits : List Split) :
      Step.Alike region (.dry range source splits) (.dry range source splits)

/-- Both divisions run dry at the same draw, or make mazes that agree in the region. -/
inductive Result.Alike (region : Chamber) : Result σ → Result σ → Prop
  | made {m n : Maze} (h : m.Agree region n) (source : σ) (splits : List Split) :
      Result.Alike region ⟨.ok m, source, splits⟩ ⟨.ok n, source, splits⟩
  | dry (range : Nat) (source : σ) (splits : List Split) :
      Result.Alike region ⟨.error range, source, splits⟩ ⟨.error range, source, splits⟩

theorem step_alike {region : Chamber} {d e : Division σ} (h : d.Alike region e) :
    Step.Alike region d.step e.step := by
  obtain ⟨m, pending, source, splits⟩ := d
  obtain ⟨n, _, _, _⟩ := e
  obtain ⟨hmaze, rfl, rfl, rfl, hreads⟩ := h
  cases pending with
  | nil => exact .finished
  | cons chamber others =>
      have hothers : ∀ q ∈ others, q.grown.Within region :=
        fun q hq => hreads q (List.mem_cons_of_mem _ hq)
      unfold step
      dsimp only
      by_cases hdone : chamber.isDone = true
      · rw [if_pos hdone, if_pos hdone]
        exact .dropped ⟨hmaze, rfl, rfl, rfl, hothers⟩
      · rw [if_neg hdone, if_neg hdone]
        cases hsplit : drawSplit chamber source with
        | dry range source => exact .dry ..
        | drew split source =>
            dsimp only
            cases hholes : drawHoles split source with
            | dry range source => exact .dry ..
            | drew cut source =>
                have hfits := fits_of_drawSplit (Bool.eq_false_iff.2 hdone) hsplit
                have hchamber := chamber_of_drawSplit hsplit
                obtain ⟨rfl, hcut⟩ := proper_of_drawHoles hfits hholes
                have hfirst : cut.split.chamber.grown.Within region := by
                  rw [hchamber]
                  exact hreads chamber List.mem_cons_self
                refine .divided cut ⟨hcut.agree_apply hfirst hmaze, rfl, rfl, rfl, ?_⟩
                intro q hq
                rcases List.mem_append.1 hq with hq | hq
                · exact (hfits.within_of_quarter hq).grown.trans hfirst
                · exact hothers q hq

theorem run_alike {region : Chamber} {d e : Division σ} (h : d.Alike region e) :
    Result.Alike region d.run e.run := by
  fun_induction run d generalizing e with
  | case1 d hfinished =>
      have hstep := step_alike h
      rw [hfinished] at hstep
      rw [run_eq e]
      obtain ⟨hmaze, -, hsource, hsplits, -⟩ := h
      generalize e.step = step at hstep ⊢
      cases hstep
      rw [hsource, hsplits]
      exact .made hmaze ..
  | case2 d after hdropped ih =>
      have hstep := step_alike h
      rw [hdropped] at hstep
      rw [run_eq e]
      generalize e.step = step at hstep ⊢
      cases hstep with
      | dropped halike => exact ih halike
  | case3 d cut after hdivided ih =>
      have hstep := step_alike h
      rw [hdivided] at hstep
      rw [run_eq e]
      generalize e.step = step at hstep ⊢
      cases hstep with
      | divided _ halike => exact ih halike
  | case4 d range source splits hdry =>
      have hstep := step_alike h
      rw [hdry] at hstep
      rw [run_eq e]
      generalize e.step = step at hstep ⊢
      cases hstep
      exact .dry ..

theorem run_alone_alike {c : Chamber} {m n : Maze} (h : m.Agree c.grown n) (source : σ) :
    Result.Alike c.grown (alone c m source).run (alone c n source).run := by
  refine run_alike ⟨h, rfl, rfl, rfl, fun q hq => ?_⟩
  rw [List.mem_singleton.1 hq]
  exact .refl _

/-! ## One after the other -/

theorem agree_of_divided? {a b : Chamber} (hab : a.Separated b) {s : σ} {m n : Maze}
    (h : divided? a s m = some n) : m.Agree b.grown n := by
  intro row col hb
  have hout : a.contains row col = false := by
    rw [← Bool.not_eq_true]
    exact fun ha => hab.apart_grown row col ha hb
  exact (cell?_of_divided? h hout).symm

theorem divided?_of_agree {c : Chamber} {m n : Maze} (h : m.Agree c.grown n) (s : σ) :
    (divided? c s m = none ∧ divided? c s n = none) ∨
      ∃ m' n', divided? c s m = some m' ∧ divided? c s n = some n' ∧ m'.Agree c.grown n' := by
  have halike := run_alone_alike h s
  unfold divided?
  generalize (alone c m s).run = r, (alone c n s).run = r' at halike ⊢
  cases halike with
  | made hagree => exact .inr ⟨_, _, rfl, rfl, hagree⟩
  | dry => exact .inl ⟨rfl, rfl⟩

/-- Two chambers with room for a wall between them may be divided in either order, each from a
source of its own. -/
theorem divided?_comm {a b : Chamber} (hab : a.Separated b) {m : Maze} {height width : Nat}
    (hm : m.HasSides height width) (s : σ) (t : τ) :
    (divided? a s m).bind (divided? b t) = (divided? b t m).bind (divided? a s) := by
  cases ha : divided? a s m with
  | none =>
      cases hb : divided? b t m with
      | none => rfl
      | some mb =>
          rcases divided?_of_agree (agree_of_divided? hab.symm hb) s with
            ⟨-, hdry⟩ | ⟨_, _, hsome, -, -⟩
          · exact hdry.symm
          · rw [ha] at hsome
            cases hsome
  | some ma =>
      rcases divided?_of_agree (agree_of_divided? hab ha) t with
        ⟨hb, hdry⟩ | ⟨mb, mab, hb, hab', hagree⟩
      · rw [hb]
        exact hdry
      · rw [hb]
        rcases divided?_of_agree (agree_of_divided? hab.symm hb) s with
          ⟨hdry, -⟩ | ⟨ma', mba, ha', hba', hagree'⟩
        · rw [ha] at hdry
          cases hdry
        · obtain rfl : ma = ma' := Option.some.inj (ha.symm.trans ha')
          show divided? b t ma = divided? a s mb
          rw [hab', hba', Option.some.injEq]
          have hsidesa := hasSides_of_divided? hm ha
          have hsidesb := hasSides_of_divided? hm hb
          apply (hasSides_of_divided? hsidesa hab').ext_cell (hasSides_of_divided? hsidesb hba')
          intro row col
          -- Each order leaves in a chamber what its division alone does, and nothing elsewhere.
          by_cases hina : a.contains row col = true
          · have houtb : b.contains row col = false := by
              rw [← Bool.not_eq_true]
              exact fun hinb => hab.apart_grown row col hina (b.within_grown.contains hinb)
            rw [cell?_of_divided? hab' houtb]
            exact hagree' row col (a.within_grown.contains hina)
          · rw [Bool.not_eq_true] at hina
            rw [cell?_of_divided? hba' hina]
            by_cases hinb : b.contains row col = true
            · exact (hagree row col (b.within_grown.contains hinb)).symm
            · rw [Bool.not_eq_true] at hinb
              rw [cell?_of_divided? hab' hinb, cell?_of_divided? ha hina,
                cell?_of_divided? hb hinb]

/-! ## Every moment of a division -/

theorem separated_of_next {d e : Division σ} (hd : d.pending.Pairwise Chamber.Separated)
    (h : d.Next e) : e.pending.Pairwise Chamber.Separated := by
  rcases h with hdropped | ⟨cut, hdivided⟩
  · obtain ⟨chamber, others, hp, -, rfl⟩ := step_eq_dropped hdropped
    rw [hp] at hd
    exact hd.of_cons
  · obtain ⟨chamber, others, source, hp, -, hchamber, hcut, rfl⟩ := step_eq_divided hdivided
    rw [hp, ← hchamber, List.pairwise_cons] at hd
    refine List.pairwise_append.2 ⟨hcut.fits.separated_quarters, hd.2, ?_⟩
    intro q hq c hc
    exact (hd.1 c hc).of_within (hcut.fits.within_of_quarter hq)

theorem separated_of_steps {d e : Division σ} (hd : d.pending.Pairwise Chamber.Separated)
    (h : Relation.ReflTransGen Next d e) : e.pending.Pairwise Chamber.Separated := by
  induction h with
  | refl => exact hd
  | tail _ hnext ih => exact separated_of_next ih hnext

/-- The maze and the chambers that wait, either between two steps or while the first chamber is
divided, whatever has been written to that one. -/
inductive Waiting (d : Division σ) : Maze → List Chamber → Prop
  | between : d.Waiting d.maze d.pending
  | during {chamber : Chamber} {others : List Chamber} {m : Maze}
      (hp : d.pending = chamber :: others)
      (hm : Relation.ReflTransGen chamber.Writes d.maze m) : d.Waiting m others

end Division

theorem Chamber.hasSides_of_writes {c : Chamber} {m n : Maze} {height width : Nat}
    (hm : m.HasSides height width) (h : Relation.ReflTransGen c.Writes m n) :
    n.HasSides height width := by
  induction h with
  | refl => exact hm
  | tail _ hwrite ih =>
      obtain ⟨cell, isOpen, hput⟩ := hwrite
      obtain ⟨-, hput⟩ := Option.ite_none_right_eq_some.1 hput
      obtain ⟨-, hput⟩ := Option.ite_none_right_eq_some.1 hput
      obtain rfl := Option.some.inj hput
      exact Maze.hasSides_put ih ..

namespace Division

variable {σ τ : Type} [Source σ] [Source τ]

omit [Source σ] in
/-- Each chamber that waits could be divided by itself. -/
theorem Waiting.sound_alone {ρ : Type} [Source ρ] {height width : Nat} {d : Division ρ}
    (hd : d.Sound height width) {m : Maze} {waiting : List Chamber} (h : d.Waiting m waiting)
    {c : Chamber} (hc : c ∈ waiting) (s : σ) : (alone c m s).Sound height width := by
  have hsides : m.HasSides height width := by
    cases h with
    | between => exact hd.sides
    | during _ hm => exact Chamber.hasSides_of_writes hd.sides hm
  have hpending : c ∈ d.pending := by
    cases h with
    | between => exact hc
    | during hp _ => rw [hp]; exact List.mem_cons_of_mem _ hc
  have hopen : ∀ row col, c.contains row col = true → m.isOpen row col = true := by
    intro row col hcell
    cases h with
    | between => exact hd.isOpen c hc row col hcell
    | during hp hm => exact hd.isOpen_of_writes hp hm hc hcell
  constructor
  · exact hsides
  · intro q hq
    rw [List.mem_singleton.1 hq]
    exact hd.inside c hpending
  · intro q hq
    rw [List.mem_singleton.1 hq]
    exact hopen
  · exact List.pairwise_singleton ..

omit [Source σ] in
theorem Waiting.separated {d : Division σ} (hd : d.pending.Pairwise Chamber.Separated) {m : Maze}
    {waiting : List Chamber} (h : d.Waiting m waiting) {a b : Chamber} (ha : a ∈ waiting)
    (hb : b ∈ waiting) (hne : a ≠ b) : a.Separated b := by
  have hpairs : waiting.Pairwise Chamber.Separated := by
    cases h with
    | between => exact hd
    | during hp _ => rw [hp] at hd; exact hd.of_cons
  exact hpairs.forall ha hb hne

/-- Chambers that wait are independent of each other, at every moment of a division. While one of
them is divided with everything inside it, no write leaves it, and what comes of it depends on
nothing beyond the cells around it. No cell of one is a cell in or around another. So two of them,
each with draws of its own, may be divided in either order. -/
theorem waiting_independent {ρ : Type} [Source ρ] {height width : Nat} (hh : 3 ≤ height)
    (hw : 3 ≤ width) {source : ρ} {d : Division ρ}
    (hd : Relation.ReflTransGen Next (fresh height width source) d) {m : Maze}
    {waiting : List Chamber} (hm : d.Waiting m waiting) {a b : Chamber} (ha : a ∈ waiting)
    (hb : b ∈ waiting) (hne : a ≠ b) (s : σ) (t : τ) :
    (∀ e, Relation.ReflTransGen Next (alone a m s) e →
        e.step? = some e.step ∧ e.Confined a m) ∧
      (∀ n, m.Agree a.grown n →
        Result.Alike a.grown (alone a m s).run (alone a n s).run) ∧
      (a.Apart b.grown ∧ b.Apart a.grown) ∧
      (divided? a s m).bind (divided? b t) = (divided? b t m).bind (divided? a s) := by
  have hsound := sound_of_steps (sound_fresh hh hw source) hd
  have hseparated : a.Separated b :=
    hm.separated (separated_of_steps (List.pairwise_singleton ..) hd) ha hb hne
  have halone : (alone a m s).Sound height width := hm.sound_alone hsound ha s
  refine ⟨fun e hsteps => ⟨?_, ?_⟩, fun n hagree => ?_, ⟨?_, ?_⟩, ?_⟩
  · exact step?_eq (sound_of_steps halone hsteps)
  · exact confined_of_steps (confined_alone a m s) hsteps
  · exact run_alone_alike hagree s
  · exact hseparated.apart_grown
  · exact hseparated.symm.apart_grown
  · exact divided?_comm hseparated halone.sides s t

/-- Two quarters with a hole in the wall between them, which both of them look at. -/
theorem waiting_independent_nine_by_nine :
    ∃ (d : Division Script) (n : Maze),
      Relation.ReflTransGen Next (fresh 9 9 (⟨[2, 2, 1, 1, 1, 1]⟩ : Script)) d ∧
      ⟨1, 1, 3, 3⟩ ∈ d.pending ∧ ⟨5, 1, 7, 3⟩ ∈ d.pending ∧ d.maze.isOpen 4 2 = true ∧
      (divided? ⟨1, 1, 3, 3⟩ (⟨[0, 0, 2, 0, 0, 0]⟩ : Script) d.maze).bind
        (divided? ⟨5, 1, 7, 3⟩ (⟨[0, 0, 1, 0, 0, 0]⟩ : Script)) = some n ∧
      (divided? ⟨5, 1, 7, 3⟩ (⟨[0, 0, 1, 0, 0, 0]⟩ : Script) d.maze).bind
        (divided? ⟨1, 1, 3, 3⟩ (⟨[0, 0, 2, 0, 0, 0]⟩ : Script)) = some n := by
  let split : Split := ⟨⟨1, 1, 7, 7⟩, 4, 4⟩
  let cut : Cut := ⟨split, [(2, 4), (6, 4), (4, 2)]⟩
  let d : Division Script :=
    ⟨cut.apply (Maze.bordered 9 9), split.quarters, ⟨[]⟩, [split]⟩
  have hsplit : drawSplit ⟨1, 1, 7, 7⟩ (⟨[2, 2, 1, 1, 1, 1]⟩ : Script) =
      .drew split ⟨[1, 1, 1, 1]⟩ := by decide +kernel
  have hholes : drawHoles split (⟨[1, 1, 1, 1]⟩ : Script) = .drew cut ⟨[]⟩ := by decide +kernel
  have hstep : (fresh 9 9 (⟨[2, 2, 1, 1, 1, 1]⟩ : Script)).step = .divided cut d := by
    rw [step]
    simp only [fresh, Maze.interior, hsplit, hholes]
    rfl
  have hsteps : Relation.ReflTransGen Next (fresh 9 9 (⟨[2, 2, 1, 1, 1, 1]⟩ : Script)) d :=
    .single (.inr ⟨cut, hstep⟩)
  have ha : (⟨1, 1, 3, 3⟩ : Chamber) ∈ d.pending := by decide
  have hb : (⟨5, 1, 7, 3⟩ : Chamber) ∈ d.pending := by decide
  obtain ⟨-, -, -, hcomm⟩ := waiting_independent (by decide) (by decide) hsteps .between ha hb
    (by decide) (⟨[0, 0, 2, 0, 0, 0]⟩ : Script) (⟨[0, 0, 1, 0, 0, 0]⟩ : Script)
  obtain ⟨n, hn⟩ : ∃ n, (divided? ⟨1, 1, 3, 3⟩ (⟨[0, 0, 2, 0, 0, 0]⟩ : Script) d.maze).bind
      (divided? ⟨5, 1, 7, 3⟩ (⟨[0, 0, 1, 0, 0, 0]⟩ : Script)) = some n :=
    Option.isSome_iff_exists.1 (by decide +kernel)
  exact ⟨d, n, hsteps, ha, hb, by decide +kernel, hn, hcomm.symm.trans hn⟩

end Division

end Labyrinth
