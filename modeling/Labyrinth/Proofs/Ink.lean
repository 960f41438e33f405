import Labyrinth.Drawing
import Labyrinth.Proofs.NormalForms
import Labyrinth.Proofs.Reached

/-!
# What a drawing is made of

Without colours, a drawing is made of blanks, of digits, of the pieces that lines and frame are
drawn with, and of the placeholders that the settings put into cells. Only the last come from the
document. So what is to be known of a character in a drawing, that it breaks no line or starts no
escape sequence, is known if it is known of the placeholders. For a drawing in colours it has to be
known of what the painter adds, too.

In a draft that is reached each placeholder is one character. It is what it was in the beginning, or
a line has set it, and then it is a character of the line.
-/

namespace Labyrinth

/-! ## The characters of padded texts -/

namespace Text

variable {P : Char → Prop} {s : Text}

theorem forall_mem_spaces (hblank : P ' ') (n : Int) : ∀ c ∈ spaces n, P c := by
  intro c hc
  rw [List.eq_of_mem_replicate hc]
  exact hblank

theorem forall_mem_times (h : ∀ c ∈ s, P c) (n : Int) : ∀ c ∈ times n s, P c := by
  intro c hc
  obtain ⟨t, ht, hct⟩ := List.mem_flatten.1 hc
  rw [List.eq_of_mem_replicate ht] at hct
  exact h c hct

theorem forall_mem_centred (hblank : P ' ') (h : ∀ c ∈ s, P c) (width : Int) :
    ∀ c ∈ centred width s, P c := by
  intro c hc
  rcases List.mem_append.1 hc with hc | hc
  · rcases List.mem_append.1 hc with hc | hc
    · exact forall_mem_spaces hblank _ c hc
    · exact h c hc
  · exact forall_mem_spaces hblank _ c hc

theorem forall_mem_alignedRight (hblank : P ' ') (h : ∀ c ∈ s, P c) (width : Int) :
    ∀ c ∈ alignedRight width s, P c := by
  intro c hc
  rcases List.mem_append.1 hc with hc | hc
  · exact forall_mem_spaces hblank _ c hc
  · exact h c hc

theorem mem_of_mem_ending {count : Int} {c : Char} (h : c ∈ ending count s) : c ∈ s := by
  unfold ending at h
  split at h
  · exact List.mem_of_mem_drop h
  · exact List.mem_of_mem_drop h

end Text

/-! ## Ink -/

/-- The texts that a document can choose to be put into cells. -/
def Settings.placeholders (s : Settings) : List Text :=
  [s.pathChar, s.wallChar, s.visitedChar, s.positionChar]

namespace Description

/-- The characters that a description can be drawn with. -/
inductive Ink (d : Description) (c : Char) : Prop
  | blank (h : c = ' ')
  | digit (h : Numeral.isDigit c = true)
  | piece {s : Sides} (h : s.glyph? = some c)
  | placeholder {t : Text} (h : t ∈ d.settings.placeholders) (hc : c ∈ t)

variable {d : Description}

theorem ink_of_ofNat {n : Nat} {c : Char} (h : c ∈ Numeral.ofNat n) : d.Ink c :=
  .digit (Numeral.isDigit_of_mem_ofNat h)

theorem ink_stroke (reached : Bool) : d.Ink (Sides.stroke reached) := by
  cases reached with
  | false => exact .blank rfl
  | true => exact .piece (s := ⟨true, false, true, false⟩) rfl

theorem ink_of_draw? {s : Sides} {width : Int} {line : Text} (h : s.draw? width = some line) :
    ∀ c ∈ line, d.Ink c := by
  obtain ⟨glyph, hglyph, rfl⟩ := Option.map_eq_some_iff.1 h
  intro c hc
  rcases List.mem_append.1 hc with hc | hc
  · rcases List.mem_append.1 hc with hc | hc
    · rw [List.eq_of_mem_replicate hc]
      exact ink_stroke _
    · rw [List.mem_singleton.1 hc]
      exact .piece hglyph
  · rw [List.eq_of_mem_replicate hc]
    exact ink_stroke _

theorem ink_side : d.Ink '│' :=
  .piece (s := ⟨false, true, false, true⟩) rfl

def corners : List Char := ['┌', '┐', '└', '┘']

theorem ink_corner {c : Char} (h : c ∈ corners) : d.Ink c := by
  simp only [corners, List.mem_cons, List.not_mem_nil, or_false] at h
  rcases h with rfl | rfl | rfl | rfl
  · exact .piece (s := ⟨false, false, true, true⟩) rfl
  · exact .piece (s := ⟨true, false, false, true⟩) rfl
  · exact .piece (s := ⟨false, true, true, false⟩) rfl
  · exact .piece (s := ⟨true, true, false, false⟩) rfl

theorem ink_frame (w : Int) {left right : Char} (hleft : left ∈ corners)
    (hright : right ∈ corners) :
    ∀ c ∈ left :: Text.times (d.width * w) ['─'] ++ [right], d.Ink c := by
  intro c hc
  rcases List.mem_append.1 hc with hc | hc
  · rcases List.mem_cons.1 hc with rfl | hc
    · exact ink_corner hleft
    · exact Text.forall_mem_times (List.forall_mem_singleton.2 (ink_stroke true)) _ c hc
  · rw [List.mem_singleton.1 hc]
    exact ink_corner hright

theorem ink_drawHeader (options : DrawingOptions) : ∀ c ∈ d.drawHeader options, d.Ink c := by
  intro c hc
  rcases List.mem_append.1 hc with hc | hc
  · exact Text.forall_mem_spaces (.blank rfl) _ c hc
  · obtain ⟨col, -, hc⟩ := List.mem_flatMap.1 hc
    exact Text.forall_mem_centred (.blank rfl)
      (fun c hc => ink_of_ofNat (Text.mem_of_mem_ending hc)) _ c hc

/-- What stands in front of the frame in a row of cells. -/
def rowLabel (d : Description) (row : Nat) : Text :=
  if d.settings.showIndices then
    Text.alignedRight (d.labelWidth - 1) (Numeral.ofNat row) ++ [' ']
  else []

theorem ink_rowLabel (row : Nat) : ∀ c ∈ d.rowLabel row, d.Ink c := by
  intro c hc
  unfold rowLabel at hc
  split at hc
  · rcases List.mem_append.1 hc with hc | hc
    · exact Text.forall_mem_alignedRight (.blank rfl) (fun c hc => ink_of_ofNat hc) _ c hc
    · rw [List.mem_singleton.1 hc]
      exact .blank rfl
  · exact absurd hc List.not_mem_nil

/-! ## Drawing -/

section Painted

variable {P : Char → Prop} {painter : Painter} {options : DrawingOptions}
  (hink : ∀ c, d.Ink c → P c)
  (hstyled : ∀ style s, (∀ c ∈ s, P c) → ∀ c ∈ styled painter options style s, P c)
include hink hstyled

theorem forall_mem_drawCell (colors : List Color) (row col : Nat) (kind : CellKind) :
    ∀ c ∈ d.drawCell painter options colors row col kind, P c := by
  have hplaceholder : ∀ t ∈ d.settings.placeholders, ∀ c ∈ t, P c :=
    fun t ht c hc => hink c (.placeholder ht hc)
  have hblank : P ' ' := hink _ (.blank rfl)
  unfold drawCell
  dsimp only
  split
  · exact hstyled _ _ (Text.forall_mem_centred hblank
      (hplaceholder _ (by simp [Settings.placeholders])) _)
  · split
    · next hline => exact hstyled _ _ fun c hc => hink c (ink_of_draw? hline c hc)
    · split
      · exact hstyled _ _ (Text.forall_mem_times
          (hplaceholder _ (by simp [Settings.placeholders])) _)
      · exact Text.forall_mem_times (hplaceholder _ (by simp [Settings.placeholders])) _

theorem forall_mem_drawFrame {left right : Char} (hleft : left ∈ corners)
    (hright : right ∈ corners) : ∀ c ∈ d.drawFrame painter options left right, P c := by
  intro c hc
  rcases List.mem_append.1 hc with hc | hc
  · exact Text.forall_mem_spaces (hink _ (.blank rfl)) _ c hc
  · exact hstyled _ _ (fun c hc => hink c (ink_frame _ hleft hright c hc)) c hc

theorem forall_mem_drawRow (colors : List Color) (row : Nat) (cells : List CellKind) :
    ∀ c ∈ d.drawRow painter options colors row cells, P c := by
  have hside : ∀ c ∈ styled painter options .white ['│'], P c :=
    hstyled _ _ (List.forall_mem_singleton.2 (hink _ ink_side))
  intro c hc
  rcases List.mem_append.1 hc with hc | hc
  · rcases List.mem_append.1 hc with hc | hc
    · rcases List.mem_append.1 hc with hc | hc
      · exact hink c (ink_rowLabel row c hc)
      · exact hside c hc
    · obtain ⟨⟨kind, col⟩, -, hc⟩ := List.mem_flatMap.1 hc
      exact forall_mem_drawCell hink hstyled colors row col kind c hc
  · exact hside c hc

/-- What is so of ink, and what painting does not change, is so of all characters of a drawing. -/
theorem forall_mem_drawLines {line : Text} (h : line ∈ d.drawLines painter options) :
    ∀ c ∈ line, P c := by
  simp only [drawLines, List.mem_append, List.mem_singleton, List.mem_map] at h
  rcases h with ((h | rfl) | ⟨⟨cells, row⟩, -, rfl⟩) | rfl
  · split at h
    · rw [List.mem_singleton.1 h]
      exact fun c hc => hink c (ink_drawHeader options c hc)
    · exact absurd h List.not_mem_nil
  · exact forall_mem_drawFrame hink hstyled (by decide) (by decide)
  · exact forall_mem_drawRow hink hstyled _ row cells
  · exact forall_mem_drawFrame hink hstyled (by decide) (by decide)

end Painted

/-- Without colours, every cell is drawn in ink. -/
theorem ink_drawCell (painter : Painter) (w : Int) (colors : List Color) (row col : Nat)
    (kind : CellKind) : ∀ c ∈ d.drawCell painter ⟨w, false⟩ colors row col kind, d.Ink c := by
  have hplain : ∀ style s, (∀ c ∈ s, d.Ink c) →
      ∀ c ∈ styled painter ⟨w, false⟩ style s, d.Ink c := fun _ _ h => h
  exact forall_mem_drawCell (fun _ h => h) hplain colors row col kind

end Description

/-! ## Placeholders -/

namespace Setting

theorem mem_of_readChars {value : Text} {path wall : Char} {more : Option (Char × Char)}
    (h : readChars value = .ok (.chars path wall more)) :
    path ∈ value ∧ wall ∈ value ∧ ∀ two ∈ more, two.1 ∈ value ∧ two.2 ∈ value := by
  have hfiltered : ∀ {chars : Text}, value.filter (· ≠ '"') = chars → ∀ c ∈ chars, c ∈ value := by
    rintro _ rfl c hc
    exact (List.mem_filter.1 hc).1
  unfold readChars at h
  split at h
  · next heq =>
      cases h
      have hmem := hfiltered heq
      exact ⟨hmem _ (by simp), hmem _ (by simp), fun _ => nofun⟩
  · next heq =>
      cases h
      have hmem := hfiltered heq
      refine ⟨hmem _ (by simp), hmem _ (by simp), ?_⟩
      rintro _ ⟨⟩
      exact ⟨hmem _ (by simp), hmem _ (by simp)⟩
  · cases h

/-- Placeholders are characters of the line that sets them. -/
theorem mem_of_read {line : Text} {path wall : Char} {more : Option (Char × Char)}
    (h : read line = .ok (.chars path wall more)) :
    path ∈ line ∧ wall ∈ line ∧ ∀ two ∈ more, two.1 ∈ line ∧ two.2 ∈ line := by
  obtain ⟨value, rfl, hvalue⟩ := exists_of_read h
  obtain ⟨hpath, hwall, hmore⟩ := mem_of_readChars hvalue
  have hline : ∀ c ∈ value, c ∈ '[' :: ("placeholder-char".toList ++ ':' :: value ++ [']']) := by
    intro c hc
    simp [hc]
  exact ⟨hline _ hpath, hline _ hwall, fun two htwo => (hmore two htwo).imp (hline _) (hline _)⟩

end Setting

/-- A character that breaks no line. -/
def Text.IsMark (t : Text) : Prop :=
  ∃ c, t = [c] ∧ isLineBreak c = false

/-- Whatever the settings put into a cell is one character, and it breaks no line. -/
structure Settings.Marked (s : Settings) : Prop where
  path : s.pathChar.IsMark
  wall : s.wallChar.IsMark
  visited : s.visitedChar.IsMark
  position : s.positionChar.IsMark

theorem Settings.marked_default : ({} : Settings).Marked :=
  ⟨⟨_, rfl, by decide⟩, ⟨_, rfl, by decide⟩, ⟨_, rfl, by decide⟩, ⟨_, rfl, by decide⟩⟩

theorem Settings.Marked.of_mem {s : Settings} (hs : s.Marked) {t : Text}
    (ht : t ∈ s.placeholders) : t.IsMark := by
  simp only [placeholders, List.mem_cons, List.not_mem_nil, or_false] at ht
  rcases ht with rfl | rfl | rfl | rfl
  · exact hs.path
  · exact hs.wall
  · exact hs.visited
  · exact hs.position

theorem Draft.marked_applySetting {d : Draft} {line : Text} {s : Setting}
    (hread : Setting.read (normalized line) = .ok s) (hd : d.description.settings.Marked)
    (number : Nat) : (d.applySetting number s).description.settings.Marked := by
  have hmark : ∀ c ∈ normalized line, Text.IsMark [c] :=
    fun c hc => ⟨c, rfl, (isNormal_of_mem_normalized hc).not_lineBreak⟩
  cases s with
  | marker m c => cases m <;> exact hd
  | chars path wall more =>
      obtain ⟨hpath, hwall, hmore⟩ := Setting.mem_of_read hread
      cases more with
      | none => exact ⟨hmark _ hpath, hmark _ hwall, hd.visited, hd.position⟩
      | some two =>
          obtain ⟨hvisited, hposition⟩ := hmore two rfl
          exact ⟨hmark _ hpath, hmark _ hwall, hmark _ hvisited, hmark _ hposition⟩
  | ints _ _ more => cases more <;> exact ⟨hd.path, hd.wall, hd.visited, hd.position⟩
  | _ => exact ⟨hd.path, hd.wall, hd.visited, hd.position⟩

/-- In a draft that is reached, every placeholder is one character. -/
theorem Document.marked_of_reached {d : Draft} (h : Reached d) : d.description.settings.Marked := by
  refine (h.induction (P := fun d => d.description.settings.Marked) Settings.marked_default ?_
    fun _ hd => hd).1
  intro d entry hframed hd
  refine state_carryOut (P := fun d => d.description.settings.Marked) hframed hd
    fun e _ hcarried => ?_
  cases hcarried with
  | setting hread => exact Draft.marked_applySetting hread hd entry.2
  | _ => exact hd

theorem Numeral.not_lineBreak_of_isDigit {c : Char} (h : isDigit c = true) :
    Text.isLineBreak c = false := by
  rw [isDigit_iff] at h
  rw [← Bool.not_eq_true]
  intro hbreak
  simp only [Text.isLineBreak, Bool.or_eq_true, Bool.and_eq_true, decide_eq_true_eq,
    beq_iff_eq] at hbreak
  omega

/-- Ink breaks no line. -/
theorem Description.Ink.not_lineBreak {d : Description} {c : Char} (h : d.Ink c)
    (hd : d.settings.Marked) : Text.isLineBreak c = false := by
  cases h with
  | blank h =>
      rw [h]
      decide
  | digit h => exact Numeral.not_lineBreak_of_isDigit h
  | @piece s h =>
      obtain ⟨_ | _, _ | _, _ | _, _ | _⟩ := s <;> cases h <;> decide
  | placeholder ht hc =>
      obtain ⟨c', rfl, hbreak⟩ := hd.of_mem ht
      rw [List.mem_singleton.1 hc]
      exact hbreak

end Labyrinth
