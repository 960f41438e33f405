import Labyrinth.Drawing
import Labyrinth.Proofs.Unseen
import Mathlib.Data.List.Sort

/-!
# Descriptions that look alike

A drawing shows less than a description knows. Of the visits of a cell it shows the sides that
any of them reaches and the colour of the latest, and of all visits it asks which colours there
are. Descriptions that differ in nothing else are drawn as the same text, at every width and with
colours or without.

What is not seen is not felt either. No statement looks at the visits that are there, so lines
that are carried out on one of two such descriptions are carried out on the other, and the
two stay alike. The numbers of the lines may differ meanwhile, since they matter only for a
refusal.
-/

namespace Labyrinth

/-! ## Colours in order -/

namespace Color

theorem precedes_iff {a b : Color} : a.precedes b = true ↔
    a.red < b.red ∨ a.red = b.red ∧
      (a.green < b.green ∨ a.green = b.green ∧ a.blue ≤ b.blue) := by
  unfold precedes
  split
  · rw [decide_eq_true_eq]
    omega
  · split
    · rw [decide_eq_true_eq]
      omega
    · rw [decide_eq_true_eq]
      omega

/-- Strictly before, so that no list in this order repeats a colour. -/
def Before (a b : Color) : Prop :=
  a.precedes b = true ∧ a ≠ b

theorem before_iff {a b : Color} : a.Before b ↔
    a.red < b.red ∨ a.red = b.red ∧
      (a.green < b.green ∨ a.green = b.green ∧ a.blue < b.blue) := by
  obtain ⟨r, g, l⟩ := a
  obtain ⟨r', g', l'⟩ := b
  rw [Before, precedes_iff, ne_eq, mk.injEq]
  dsimp only
  omega

theorem Before.trans {a b c : Color} (hab : a.Before b) (hbc : b.Before c) : a.Before c := by
  rw [before_iff] at hab hbc ⊢
  omega

instance : Std.Irrefl Before :=
  ⟨fun _ h => h.2 rfl⟩

instance : Std.Antisymm Before :=
  ⟨fun _ _ hab hba => absurd rfl (hab.trans hba).2⟩

theorem mem_insertAscending {c x : Color} {colors : List Color} :
    x ∈ insertAscending c colors ↔ x = c ∨ x ∈ colors := by
  induction colors with
  | nil => exact List.mem_cons
  | cons d colors ih =>
      unfold insertAscending
      split
      · next h => rw [h, List.mem_cons, or_self_left]
      · split
        · exact List.mem_cons
        · rw [List.mem_cons, ih, List.mem_cons, or_left_comm]

theorem pairwise_insertAscending {c : Color} {colors : List Color}
    (h : colors.Pairwise Before) : (insertAscending c colors).Pairwise Before := by
  induction colors with
  | nil => exact List.pairwise_singleton ..
  | cons d colors ih =>
      obtain ⟨hd, hcolors⟩ := List.pairwise_cons.1 h
      unfold insertAscending
      split
      · exact h
      · next hne =>
          split
          · next hle =>
              have hcd : c.Before d := ⟨hle, hne⟩
              refine List.pairwise_cons.2 ⟨fun x hx => ?_, h⟩
              rcases List.mem_cons.1 hx with rfl | hx
              · exact hcd
              · exact hcd.trans (hd x hx)
          · next hle =>
              have hdc : d.Before c := by
                rw [precedes_iff] at hle
                obtain ⟨r, g, l⟩ := c
                obtain ⟨r', g', l'⟩ := d
                rw [mk.injEq] at hne
                rw [before_iff]
                dsimp only at hle ⊢
                omega
              refine List.pairwise_cons.2 ⟨fun x hx => ?_, ih hcolors⟩
              rcases mem_insertAscending.1 hx with rfl | hx
              · exact hdc
              · exact hd x hx

theorem mem_ascending {x : Color} {colors : List Color} : x ∈ ascending colors ↔ x ∈ colors := by
  induction colors with
  | nil => exact Iff.rfl
  | cons c colors ih =>
      rw [ascending, List.foldr_cons, mem_insertAscending, ← ascending, ih, List.mem_cons]

theorem pairwise_ascending (colors : List Color) : (ascending colors).Pairwise Before := by
  induction colors with
  | nil => exact .nil
  | cons c colors ih => exact pairwise_insertAscending ih

/-- In which order colours are met, and how often each, is lost when they are put in order. -/
theorem ascending_congr {colors others : List Color} (h : ∀ c, c ∈ colors ↔ c ∈ others) :
    ascending colors = ascending others := by
  apply (pairwise_ascending colors).eq_of_mem_iff (pairwise_ascending others)
  intro c
  rw [mem_ascending, mem_ascending, h]

end Color

/-! ## The visits of a cell -/

/-- The visits of a cell that look the same, whatever shapes they are made of. -/
structure VisitsAlike (vs ws : Array Visit) : Prop where
  latest : vs.back?.map Visit.color = ws.back?.map Visit.color
  arms : Description.visitArms vs = Description.visitArms ws
  colors : ∀ c, (∃ v ∈ vs, v.color = c) ↔ ∃ w ∈ ws, w.color = c

theorem visitArms_push (vs : Array Visit) (v : Visit) :
    Description.visitArms (vs.push v) = (Description.visitArms vs).union v.shape.arms :=
  Array.foldl_push

theorem exists_mem_push {vs : Array Visit} {v : Visit} {c : Color} :
    (∃ w ∈ vs.push v, w.color = c) ↔ (∃ w ∈ vs, w.color = c) ∨ v.color = c := by
  simp only [Array.mem_push, or_and_right, exists_or, exists_eq_left]

theorem Sides.union_assoc (s t u : Sides) : (s.union t).union u = s.union (t.union u) := by
  simp only [union, Bool.or_assoc]

namespace VisitsAlike

variable {vs ws : Array Visit}

theorem refl (vs : Array Visit) : VisitsAlike vs vs :=
  ⟨rfl, rfl, fun _ => Iff.rfl⟩

theorem symm (h : VisitsAlike vs ws) : VisitsAlike ws vs :=
  ⟨h.latest.symm, h.arms.symm, fun c => (h.colors c).symm⟩

theorem push (h : VisitsAlike vs ws) (v : Visit) : VisitsAlike (vs.push v) (ws.push v) where
  latest := by rw [Array.back?_push, Array.back?_push]
  arms := by rw [visitArms_push, visitArms_push, h.arms]
  colors := fun c => by rw [exists_mem_push, exists_mem_push, h.colors]

/-- A piece of a line looks like two pieces of the same colour that together reach its sides. -/
theorem push_two (h : VisitsAlike vs ws) {whole first second : Shape} (color : Color)
    (harms : whole.arms = first.arms.union second.arms) :
    VisitsAlike (vs.push ⟨whole, color⟩) ((ws.push ⟨first, color⟩).push ⟨second, color⟩) where
  latest := by rw [Array.back?_push, Array.back?_push]; rfl
  arms := by rw [visitArms_push, visitArms_push, visitArms_push, h.arms, harms, Sides.union_assoc]
  colors := fun c => by
    rw [exists_mem_push, exists_mem_push, exists_mem_push, h.colors, or_assoc, or_self]

end VisitsAlike

/-- Tables of visits that look the same in every cell. -/
def TablesAlike (t u : Table (Array Visit)) : Prop :=
  ∀ row col, Option.Rel VisitsAlike (t.cell? row col) (u.cell? row col)

namespace TablesAlike

variable {t u : Table (Array Visit)}

theorem refl (t : Table (Array Visit)) : TablesAlike t t := by
  intro row col
  cases t.cell? row col with
  | none => exact .none
  | some vs => exact .some (.refl vs)

theorem symm (h : TablesAlike t u) : TablesAlike u t := by
  intro row col
  have hcell := h row col
  generalize t.cell? row col = x, u.cell? row col = y at hcell ⊢
  cases hcell with
  | none => exact .none
  | some hvisits => exact .some hvisits.symm

theorem modifyCell (h : TablesAlike t u) {change change' : Array Visit → Array Visit}
    (hchange : ∀ vs ws, VisitsAlike vs ws → VisitsAlike (change vs) (change' ws)) (row col : Nat) :
    TablesAlike (t.modifyCell row col change) (u.modifyCell row col change') := by
  intro i j
  have hcell := h i j
  rw [Table.cell?_modifyCell, Table.cell?_modifyCell]
  split
  · generalize t.cell? i j = x, u.cell? i j = y at hcell ⊢
    cases hcell with
    | none => exact .none
    | some hvisits => exact .some (hchange _ _ hvisits)
  · exact hcell

theorem lined (h : TablesAlike t u) (color : Color) (line : List (Coordinate × Shape)) :
    TablesAlike (lined t color line) (lined u color line) :=
  List.foldl_rel h fun _ _ _ _ hrel => hrel.modifyCell (fun _ _ hvisits => hvisits.push _) _ _

end TablesAlike

/-- Tables of visits that look the same show the same colours. -/
theorem TablesAlike.mem_colors {t u : Table (Array Visit)} (h : TablesAlike t u) {c : Color}
    (hc : ∃ row col visits, t.cell? row col = some visits ∧ ∃ v ∈ visits, v.color = c) :
    ∃ row col visits, u.cell? row col = some visits ∧ ∃ v ∈ visits, v.color = c := by
  obtain ⟨row, col, visits, hcell, hv⟩ := hc
  have hrel := h row col
  rw [hcell] at hrel
  generalize hcell' : u.cell? row col = found at hrel
  cases hrel with
  | some hvisits => exact ⟨row, col, _, hcell', (hvisits.colors c).1 hv⟩

/-! ## Drawing -/

namespace Description

/-- A description that differs in the visits, but not in how they look. -/
inductive Alike (d : Description) : Description → Prop
  | revisited {visits : Table (Array Visit)} (h : TablesAlike d.visits visits) :
      Alike d { d with visits }

theorem mem_colors_iff {t : Table (Array Visit)} {c : Color} :
    c ∈ (t.toLists.flatten.flatMap Array.toList).map Visit.color ↔
      ∃ row col visits, t.cell? row col = some visits ∧ ∃ v ∈ visits, v.color = c := by
  simp only [List.mem_map, List.mem_flatMap, List.mem_flatten, Array.mem_toList_iff]
  constructor
  · rintro ⟨v, ⟨visits, ⟨cells, hcells, hvisits⟩, hv⟩, hc⟩
    obtain ⟨row, hrow⟩ := List.mem_iff_getElem?.1 hcells
    obtain ⟨col, hcol⟩ := List.mem_iff_getElem?.1 hvisits
    refine ⟨row, col, visits, ?_, v, hv, hc⟩
    rw [Table.cell?_eq_bind, hrow]
    exact hcol
  · rintro ⟨row, col, visits, hcell, v, hv, hc⟩
    rw [Table.cell?_eq_bind] at hcell
    obtain ⟨cells, hrow, hcol⟩ := Option.bind_eq_some_iff.1 hcell
    exact ⟨v, ⟨visits, ⟨cells, List.mem_of_getElem? hrow, List.mem_of_getElem? hcol⟩, hv⟩, hc⟩

variable {d e : Description}

theorem Alike.visitColors_eq (h : d.Alike e) : e.visitColors = d.visitColors := by
  obtain ⟨hvisits⟩ := h
  apply Color.ascending_congr
  intro c
  rw [mem_colors_iff, mem_colors_iff]
  exact ⟨hvisits.symm.mem_colors, hvisits.mem_colors⟩

theorem Alike.visitsIn (h : d.Alike e) (row col : Nat) :
    VisitsAlike (d.visitsIn row col) (e.visitsIn row col) := by
  obtain @⟨visits, hvisits⟩ := h
  have hcell := hvisits row col
  unfold Description.visitsIn
  dsimp only
  generalize d.visits.cell? row col = x, visits.cell? row col = y at hcell ⊢
  cases hcell with
  | none => exact .refl #[]
  | some h => exact h

theorem Alike.drawCell_eq (h : d.Alike e) (painter : Painter) (options : DrawingOptions)
    (colors : List Color) (row col : Nat) (kind : CellKind) :
    e.drawCell painter options colors row col kind =
      d.drawCell painter options colors row col kind := by
  have hvisits := h.visitsIn row col
  unfold drawCell
  generalize d.visitsIn row col = vs, e.visitsIn row col = ws at hvisits ⊢
  have hlatest := hvisits.latest
  obtain ⟨-⟩ := h
  dsimp only
  rw [hvisits.arms]
  split
  · rfl
  · cases hv : vs.back? with
    | none =>
        rw [hv, Option.map_none, eq_comm, Option.map_eq_none_iff] at hlatest
        rw [hlatest]
    | some v =>
        rw [hv, Option.map_some, eq_comm, Option.map_eq_some_iff] at hlatest
        obtain ⟨w, hw, hcolor⟩ := hlatest
        rw [hw]
        cases (visitArms ws).draw? options.cellWidth with
        | none => rfl
        | some line => simp only [hcolor]

/-- Descriptions that look alike are drawn as the same text, or refused alike. -/
theorem Alike.draw_eq (h : d.Alike e) (painter : Painter) (options : DrawingOptions) :
    e.draw painter options = d.draw painter options := by
  have hcell := h.drawCell_eq painter options
  have hcolors := h.visitColors_eq
  have hlines : e.drawLines painter options = d.drawLines painter options := by
    unfold drawLines drawRow
    rw [hcolors]
    simp only [hcell]
    obtain ⟨-⟩ := h
    rfl
  unfold draw
  rw [hlines]
  obtain ⟨-⟩ := h
  rfl

end Description

/-! ## Going on -/

namespace Draft

/-- A draft that differs in how the visits came about and in the lines that set the markers. -/
inductive Alike (d : Draft) : Draft → Prop
  | revisited {visits : Table (Array Visit)} {markerLines : MarkerLines}
      (h : TablesAlike d.description.visits visits) :
      Alike d { d.withVisits visits with markerLines }

variable {d d' e : Draft}

theorem Alike.description (h : d.Alike d') : d.description.Alike d'.description := by
  obtain ⟨hvisits⟩ := h
  exact .revisited hvisits

theorem alike_iff_resembles : d.Alike d' ↔ Resembles TablesAlike Eq d d' := by
  constructor
  · rintro ⟨hvisits⟩
    exact .differing hvisits rfl
  · rintro ⟨hvisits, rfl⟩
    exact .revisited hvisits

end Draft

theorem TablesAlike.unseen : Unseen TablesAlike Eq where
  refl := .refl
  lined := fun h color line => h.lined color line
  find := by
    rintro _ _ rfl _
    rfl
  snoc := by
    rintro _ _ rfl _
    rfl

namespace Document

variable {d d' e : Draft}

/-- Lines that are carried out on one draft are carried out on one that looks alike, under whatever
numbers. -/
theorem alike_each {lines : List Text} (h : d.Alike d') (hd : d.description.Framed)
    (hd' : d'.description.Framed) {number : Nat}
    (hdone : Attempt.each carryOut d (lines.zipIdx number) = .done e) (number' : Nat) :
    ∃ e', Attempt.each carryOut d' (lines.zipIdx number') = .done e' ∧ e.Alike e' := by
  obtain ⟨e', hdone', he⟩ :=
    resembles_each TablesAlike.unseen (Draft.alike_iff_resembles.1 h) hd hd' hdone number'
  exact ⟨e', hdone', Draft.alike_iff_resembles.2 he⟩

theorem alike_finish (h : d.Alike d') (hd : d.description.Framed) (hd' : d'.description.Framed)
    (hdone : finish d = .done e) : ∃ e', finish d' = .done e' ∧ e.Alike e' := by
  obtain ⟨e', hdone', he⟩ := resembles_finish (Draft.alike_iff_resembles.1 h) hd hd' hdone
  exact ⟨e', hdone', Draft.alike_iff_resembles.2 he⟩

end Document

end Labyrinth
