import Labyrinth.Proofs.Reached
import Mathlib.Data.List.Forall2

/-!
# White space

White space changes nothing but the numbers of lines. Blanks inside a line are gone before the line
is read. A blank line does nothing, but the lines below it stand one line lower, and a report names
the line where its reader finds it.

A draft remembers numbers of lines, and so does a report, but nothing is ever decided by them. If
the lines of a document are numbered otherwise, the same is carried out, and what is remembered and
what is reported is numbered otherwise in the same way. This is said first of one line, then of all
lines, and then of the end of a document, where the remembered numbers come back.
-/

namespace Labyrinth

namespace Attempt

variable {α β σ τ ε δ : Type} {g : σ → τ}

theorem andThen_embed {next : σ → Attempt σ ε} {next' : τ → Attempt τ ε}
    (hnext : ∀ s, next' (g s) = (next s).embed g) (a : Attempt σ ε) :
    (a.embed g).andThen next' = (a.andThen next).embed g := by
  obtain ⟨s, fault⟩ := a
  cases fault with
  | none => exact hnext s
  | some e => rfl

theorem andThen_embed_mapFault {h : ε → δ} {next : σ → Attempt σ ε} {next' : τ → Attempt τ δ}
    (hnext : ∀ s, next' (g s) = ((next s).embed g).mapFault h) (a : Attempt σ ε) :
    ((a.embed g).mapFault h).andThen next' = ((a.andThen next).embed g).mapFault h := by
  obtain ⟨s, fault⟩ := a
  cases fault with
  | none => exact hnext s
  | some e => rfl

/-- A loop commutes with what each of its steps commutes with. -/
theorem each_embed_mapFault {h : ε → δ} {p : α → β} {step : σ → α → Attempt σ ε}
    {step' : τ → β → Attempt τ δ}
    (hstep : ∀ s x, step' (g s) (p x) = ((step s x).embed g).mapFault h) (s : σ) (xs : List α) :
    each step' (g s) (xs.map p) = ((each step s xs).embed g).mapFault h := by
  induction xs generalizing s with
  | nil => rfl
  | cons x xs ih =>
      rw [List.map_cons, each, each, hstep]
      obtain ⟨s', fault⟩ := step s x
      cases fault with
      | none => exact ih s'
      | some e => rfl

end Attempt

/-! ## Other numbers -/

namespace MarkerLines

def map (f : Nat → Nat) (l : MarkerLines) : MarkerLines :=
  ⟨f l.entrance, f l.exit, f l.currentPosition⟩

@[simp]
theorem get_map (f : Nat → Nat) (l : MarkerLines) (m : Marker) : (l.map f).get m = f (l.get m) := by
  cases m <;> rfl

@[simp]
theorem put_map (f : Nat → Nat) (l : MarkerLines) (m : Marker) (line : Nat) :
    (l.map f).put m (f line) = (l.put m line).map f := by
  cases m <;> rfl

end MarkerLines

namespace Draft

/-- The same draft of a document whose lines have other numbers. -/
def renumbered (f : Nat → Nat) (d : Draft) : Draft :=
  { d with markerLines := d.markerLines.map f }

variable (f : Nat → Nat) (d : Draft)

@[simp]
theorem description_renumbered : (d.renumbered f).description = d.description := rfl

@[simp]
theorem paths_renumbered : (d.renumbered f).paths = d.paths := rfl

@[simp]
theorem grid_renumbered : (d.renumbered f).grid = d.grid := rfl

@[simp]
theorem markerLines_renumbered : (d.renumbered f).markerLines = d.markerLines.map f := rfl

theorem checkChain_renumbered (previous : Option Coordinate) (points : List Coordinate) :
    (d.renumbered f).checkChain previous points = d.checkChain previous points := by
  induction points generalizing previous with
  | nil => rfl
  | cons c points ih => simp only [checkChain, grid_renumbered, ih]

/-- What a line means does not depend on the numbers of the lines above it. -/
theorem understand_renumbered (line : Text) :
    (d.renumbered f).understand line = d.understand line := by
  have hresolve : (d.renumbered f).resolve = d.resolve := by
    funext s
    cases s with
    | chain color points => simp only [resolve, checkChain_renumbered]
    | _ => rfl
  simp only [understand, understand.readAs, grid_renumbered, hresolve]

theorem applySetting_renumbered (number : Nat) (s : Setting) :
    (d.renumbered f).applySetting (f number) s = (d.applySetting number s).renumbered f := by
  cases s with
  | marker m c => simp [applySetting, renumbered]
  | chars _ _ more => cases more <;> rfl
  | ints _ _ more => cases more <;> rfl
  | _ => rfl

theorem register_renumbered (p : Path) :
    register p (d.renumbered f) = (register p d).embed (renumbered f) := by
  simp only [register, paths_renumbered]
  cases d.paths.register p <;> rfl

/-- An action leaves the new number of its line where it would leave the old one. -/
theorem perform_renumbered (number : Nat) (action : Action) :
    (d.renumbered f).perform (f number) action =
      (d.perform number action).embed (renumbered f) := by
  cases action with
  | setting s => exact congrArg Attempt.done (applySetting_renumbered f d number s)
  | row index cells => rfl
  | path p points =>
      have hregister := fun d => register_renumbered f d p
      exact Attempt.andThen_embed hregister
        (d.writing fun m => Attempt.each (writeCell .path) m points)
  | visit s => rfl

theorem execute_renumbered (number : Nat) (line : Text) :
    (d.renumbered f).execute (f number) line = (d.execute number line).embed (renumbered f) := by
  simp only [execute, understand_renumbered]
  cases d.understand line with
  | error e => rfl
  | ok action => exact perform_renumbered f d number action

end Draft

/-- The same report on a document whose lines have other numbers. -/
def Stop.renumbered (f : Nat → Nat) (s : Stop) : Stop :=
  { s with line := f s.line }

namespace Document

section Renumbered

variable (f : Nat → Nat)

/-- What becomes of a document whose lines have other numbers. -/
def renumbered (a : Attempt Draft Stop) : Attempt Draft Stop :=
  (a.embed (Draft.renumbered f)).mapFault (Stop.renumbered f)

theorem carryOut_renumbered (d : Draft) (entry : Text × Nat) :
    carryOut (d.renumbered f) (entry.map id f) = renumbered f (carryOut d entry) := by
  obtain ⟨line, number⟩ := entry
  by_cases hblank : normalized line = []
  · rw [carryOut_of_blank hblank, carryOut_of_blank hblank]
    rfl
  · rw [carryOut_of_statement hblank, carryOut_of_statement hblank]
    simp only [Prod.map_apply, id_eq, Draft.execute_renumbered]
    obtain ⟨e, fault⟩ := d.execute number (normalized line)
    cases fault <;> rfl

theorem checkMarker_renumbered (d : Draft) (m : Marker) :
    checkMarker (d.renumbered f) m = renumbered f (checkMarker d m) := by
  simp only [checkMarker, Draft.description_renumbered, Draft.grid_renumbered,
    Draft.markerLines_renumbered, MarkerLines.get_map]
  split
  · rfl
  · split <;> rfl

theorem openMarker_renumbered (d : Draft) (m : Marker) :
    openMarker (d.renumbered f) m = renumbered f (openMarker d m) := by
  simp only [openMarker, Draft.description_renumbered, Draft.markerLines_renumbered,
    MarkerLines.get_map]
  split
  · rfl
  · next c hm =>
      obtain ⟨description, paths, markerLines⟩ := d
      simp only [Draft.writing, Draft.renumbered]
      obtain ⟨written, fault⟩ := Draft.writeCell .path description c
      cases fault <;> rfl

/-- The end of a document reports the new number of the line that set a marker where it would
report the old one. -/
theorem finish_renumbered (d : Draft) : finish (d.renumbered f) = renumbered f (finish d) := by
  unfold finish
  rw [Draft.grid_renumbered]
  split
  · rfl
  · have hcheck := Attempt.each_embed_mapFault (p := id) (checkMarker_renumbered f) d Marker.all
    have hopen := fun d =>
      Attempt.each_embed_mapFault (p := id) (openMarker_renumbered f) d [.entrance, .exit]
    rw [List.map_id] at hcheck
    simp only [List.map_id] at hopen
    rw [hcheck]
    exact Attempt.andThen_embed_mapFault hopen _

/-- The lines of a document and its end, under other numbers. -/
theorem each_andThen_finish_renumbered (d : Draft) (entries : List (Text × Nat)) :
    (Attempt.each carryOut (d.renumbered f) (entries.map (Prod.map id f))).andThen finish =
      renumbered f ((Attempt.each carryOut d entries).andThen finish) := by
  rw [Attempt.each_embed_mapFault (carryOut_renumbered f)]
  exact Attempt.andThen_embed_mapFault (finish_renumbered f) _

end Renumbered

/-! ## Blanks in lines -/

/-- Lines that are read alike are carried out alike. -/
theorem carryOut_congr {line line' : Text} (h : normalized line' = normalized line) (d : Draft)
    (number : Nat) : carryOut d (line', number) = carryOut d (line, number) := by
  simp only [carryOut, h]

theorem each_carryOut_congr {lines lines' : List Text}
    (h : List.Forall₂ (fun line line' => normalized line' = normalized line) lines lines')
    (d : Draft) (number : Nat) :
    Attempt.each carryOut d (lines'.zipIdx number) =
      Attempt.each carryOut d (lines.zipIdx number) := by
  induction h generalizing d number with
  | nil => rfl
  | cons hline _ ih => simp only [List.zipIdx_cons, Attempt.each, carryOut_congr hline, ih]

theorem compileLines_congr {lines lines' : List Text}
    (h : List.Forall₂ (fun line line' => normalized line' = normalized line) lines lines') :
    compileLines lines' = compileLines lines := by
  cases h with
  | nil => rfl
  | cons hheader hrest =>
      simp only [compileLines, checkHeader, hheader, numbered, each_carryOut_congr hrest]

end Document

namespace Text

/-- The second text is the first with blanks put in. -/
inductive Spaced : Text → Text → Prop
  | nil : Spaced [] []
  | keep (c : Char) {s t : Text} (h : Spaced s t) : Spaced (c :: s) (c :: t)
  | put {c : Char} {s t : Text} (hc : isBlank c = true) (h : Spaced s t) : Spaced s (c :: t)

theorem Spaced.refl (s : Text) : Spaced s s := by
  induction s with
  | nil => exact .nil
  | cons c s ih => exact .keep c ih

theorem Spaced.squeezed_eq {s t : Text} (h : Spaced s t) : squeezed t = squeezed s := by
  induction h with
  | nil => rfl
  | keep c _ ih =>
      unfold squeezed at ih ⊢
      rw [List.filter_cons, List.filter_cons, ih]
  | put hc _ ih =>
      unfold squeezed at ih ⊢
      rw [List.filter_cons_of_neg (by simp [hc]), ih]

end Text

namespace Document

/-! ## Blank lines -/

/-- The number of a line when another line is put in, which is then line `first`. -/
def lowered (first number : Nat) : Nat :=
  if first ≤ number then number + 1 else number

/-- The lines above the one that is put in keep their numbers, and the others stand lower. -/
theorem map_lowered_numbered (before after : List Text) :
    (numbered (before ++ after)).map (Prod.map id (lowered (before.length + 2))) =
      numbered before ++ after.zipIdx (before.length + 3) := by
  have habove : ∀ entry ∈ numbered before,
      Prod.map id (lowered (before.length + 2)) entry = entry := by
    intro entry hentry
    have hlt := List.snd_lt_add_of_mem_zipIdx hentry
    have hkept : lowered (before.length + 2) entry.2 = entry.2 := if_neg (by omega)
    simp only [Prod.map, id_eq, hkept]
  have hbelow : ∀ entry ∈ after.zipIdx (before.length + 2),
      Prod.map id (lowered (before.length + 2)) entry = (entry.1, entry.2 + 1) := by
    intro entry hentry
    have hle := List.le_snd_of_mem_zipIdx hentry
    simp only [Prod.map, id_eq, lowered, if_pos hle]
  have hsplit : numbered (before ++ after) =
      numbered before ++ after.zipIdx (before.length + 2) := by
    rw [numbered, List.zipIdx_append, Nat.add_comm 2, numbered]
  have hnext : after.zipIdx (before.length + 3) =
      (after.zipIdx (before.length + 2)).map fun entry => (entry.1, entry.2 + 1) :=
    List.zipIdx_succ
  rw [hsplit, hnext, List.map_append, List.map_congr_left habove, List.map_congr_left hbelow,
    List.map_id']

/-- A blank line does nothing but take a number. -/
theorem each_carryOut_blank {blank : Text} (before after : List Text)
    (hblank : normalized blank = []) (d : Draft) :
    Attempt.each carryOut d (numbered (before ++ blank :: after)) =
      Attempt.each carryOut d (numbered before ++ after.zipIdx (before.length + 3)) := by
  have hlines : numbered (before ++ blank :: after) =
      numbered before ++ (blank, before.length + 2) :: after.zipIdx (before.length + 3) := by
    rw [numbered, List.zipIdx_append, List.zipIdx_cons, Nat.add_comm 2, numbered]
  have hskip : ∀ d : Draft, carryOut d (blank, before.length + 2) = .done d := fun d =>
    carryOut_of_blank hblank
  rw [hlines, Attempt.each_append, Attempt.each_append]
  simp only [Attempt.each, hskip, Attempt.done]

theorem compileLines_blank {header blank : Text} (before after : List Text)
    (hblank : normalized blank = []) :
    compileLines (header :: (before ++ blank :: after)) =
      renumbered (lowered (before.length + 2)) (compileLines (header :: (before ++ after))) := by
  have hunset : ({} : Draft).renumbered (lowered (before.length + 2)) = {} := by
    have hzero : lowered (before.length + 2) 0 = 0 := if_neg (by omega)
    simp only [Draft.renumbered, MarkerLines.map, hzero]
  simp only [compileLines]
  cases checkHeader header with
  | error r =>
      have hfirst : lowered (before.length + 2) 1 = 1 := if_neg (by omega)
      simp [renumbered, Attempt.failed, Attempt.embed, Attempt.mapFault, hunset, Stop.renumbered,
        hfirst]
  | ok =>
      have hend := each_andThen_finish_renumbered (lowered (before.length + 2)) {}
        (numbered (before ++ after))
      rw [map_lowered_numbered, hunset] at hend
      simp only [each_carryOut_blank before after hblank, hend]

/-- White space between the lines of a document and inside them makes no difference to what it
describes and to the paths that it registers, and none to the kind and the reason of a refusal.
Only its line is another one if a blank line has been put in above it. -/
theorem compile_spaced (text text' : Text) :
    (List.Forall₂ Text.Spaced (Text.lines text) (Text.lines text') →
      compile text' = compile text) ∧
    ∀ (header blank : Text) (before after : List Text),
      (∀ c ∈ blank, Text.isBlank c = true) →
      Text.lines text = header :: (before ++ after) →
      Text.lines text' = header :: (before ++ blank :: after) →
      (compile text').state.description = (compile text).state.description ∧
      (compile text').state.paths = (compile text).state.paths ∧
      (compile text').fault = (compile text).fault.map fun stop =>
        ⟨if before.length + 2 ≤ stop.line then stop.line + 1 else stop.line, stop.fault⟩ := by
  constructor
  · intro hspaced
    exact compileLines_congr (hspaced.imp fun line line' h => by rw [normalized, h.squeezed_eq]; rfl)
  · intro header blank before after hall hlines hlines'
    have hblank : normalized blank = [] := by
      rw [normalized, Text.squeezed, List.filter_eq_nil_iff.2 fun c hc => by simp [hall c hc]]
      rfl
    have hlowered : compile text' = renumbered (lowered (before.length + 2)) (compile text) := by
      rw [compile, compile, hlines, hlines', compileLines_blank before after hblank]
    rw [hlowered]
    exact ⟨rfl, rfl, rfl⟩

/-- An exit outside the grid, which is still reported in its line when two lines are indented, and
one line lower when a blank line stands above. -/
theorem compile_spaced_stray_exit :
    ∃ text spaced blanked : Text, text ≠ spaced ∧
      (compile text).fault = some ⟨3, .reason (.markerOutside .exit ⟨5, 5⟩ 1 2)⟩ ∧
      compile spaced = compile text ∧
      (compile blanked).fault = some ⟨4, .reason (.markerOutside .exit ⟨5, 5⟩ 1 2)⟩ := by
  let header := "[version:1.0]".toList
  let before := ["[size:1,2]".toList]
  let after := ["[exit:c(5,5)]".toList, "r0:pp;".toList]
  let text := "[version:1.0]\n[size:1,2]\n[exit:c(5,5)]\nr0:pp;".toList
  let spaced := " [version:1.0]\n[size:1,2]\n\u2003[exit:c(5,5)]\nr0:pp;".toList
  let blanked := "[version:1.0]\n[size:1,2]\n \t\n[exit:c(5,5)]\nr0:pp;".toList
  have hlines : Text.lines text = header :: (before ++ after) := by decide +kernel
  have hspaced : List.Forall₂ Text.Spaced (Text.lines text) (Text.lines spaced) := by
    have hlines' : Text.lines spaced =
        [' ' :: header, "[size:1,2]".toList, '\u2003' :: "[exit:c(5,5)]".toList,
          "r0:pp;".toList] := by
      decide +kernel
    rw [hlines, hlines']
    exact .cons (.put rfl (.refl _)) (.cons (.refl _)
      (.cons (.put rfl (.refl _)) (.cons (.refl _) .nil)))
  have hfault : (compile text).fault =
      some ⟨3, .reason (.markerOutside .exit ⟨5, 5⟩ 1 2)⟩ := by
    decide +kernel
  refine ⟨text, spaced, blanked, by decide, hfault, (compile_spaced text spaced).1 hspaced, ?_⟩
  have hblank : ∀ c ∈ [' ', '\t'], Text.isBlank c = true :=
    List.forall_mem_cons.2 ⟨rfl, List.forall_mem_singleton.2 rfl⟩
  rw [((compile_spaced text blanked).2 header _ before after hblank hlines
    (by decide +kernel)).2.2, hfault]
  rfl

end Document

end Labyrinth
