import Labyrinth.Drawing.Terminal
import Labyrinth.Proofs.Ink
import Mathlib.Data.List.Forall2

/-!
# Colours are only escapes

A drawing in colours is the drawing without colours and escape sequences in between. Deleting them
again gives the plain drawing, at every width of a cell and also where both are refused.

Deleting is not a matter of single characters. Where a sequence ends depends on what comes after
it begins, so it cannot be done for any two parts of a text on their own: the first might end in
the middle of a sequence. `Shows` is therefore said of a text in front of whatever may follow, and
then texts that show something can be put together. What has no escape character in it shows
itself, a sequence shows nothing, and a drawing is put together from these.
-/

namespace Labyrinth

/-! ## Deleting escape sequences -/

namespace Text

/-- What follows the escape sequence at the front of a text, if there is one. -/
def afterEscape? : Text → Option Text
  | '\x1b' :: '[' :: s =>
    match s.dropWhile isParameter with
    | 'm' :: rest => some rest
    | _ => none
  | _ => none

theorem length_lt_of_afterEscape? {s rest : Text} (h : afterEscape? s = some rest) :
    rest.length < s.length := by
  unfold afterEscape? at h
  split at h
  · next s =>
      split at h
      · next heq =>
          cases h
          have hle := (List.dropWhile_suffix isParameter (l := s)).length_le
          rw [heq, List.length_cons] at hle
          rw [List.length_cons, List.length_cons]
          omega
      · cases h
  · cases h

/-- The text without its escape sequences. -/
def withoutEscapes : Text → Text
  | [] => []
  | c :: s =>
    match _h : afterEscape? (c :: s) with
    | some rest => withoutEscapes rest
    | none => c :: withoutEscapes s
termination_by s => s.length
decreasing_by
  · exact length_lt_of_afterEscape? _h
  · exact Nat.lt_succ_self _

theorem withoutEscapes_of_afterEscape? {s rest : Text} (h : afterEscape? s = some rest) :
    withoutEscapes s = withoutEscapes rest := by
  cases s with
  | nil => cases h
  | cons c s =>
      rw [withoutEscapes]
      split
      · next heq =>
          rw [h] at heq
          cases heq
          rfl
      · next heq =>
          rw [h] at heq
          cases heq

theorem withoutEscapes_cons {c : Char} (hc : c ≠ '\x1b') (s : Text) :
    withoutEscapes (c :: s) = c :: withoutEscapes s := by
  have hnone : afterEscape? (c :: s) = none := by
    unfold afterEscape?
    split
    · next heq =>
        cases heq
        exact absurd rfl hc
    · rfl
  rw [withoutEscapes]
  split
  · next heq =>
      rw [hnone] at heq
      cases heq
  · rfl

/-- What the first text shows is the second: this is left of it without escapes, whatever
follows. -/
def Shows (s t : Text) : Prop :=
  ∀ rest, withoutEscapes (s ++ rest) = t ++ withoutEscapes rest

theorem Shows.nil : Shows [] [] :=
  fun _ => rfl

theorem Shows.append {s t s' t' : Text} (h : Shows s t) (h' : Shows s' t') :
    Shows (s ++ s') (t ++ t') := by
  intro rest
  rw [List.append_assoc, h, h', List.append_assoc]

theorem shows_self {s : Text} (h : '\x1b' ∉ s) : Shows s s := by
  intro rest
  induction s with
  | nil => rfl
  | cons c s ih =>
      have hc : c ≠ '\x1b' := fun heq => h (heq ▸ List.mem_cons_self)
      rw [List.cons_append, withoutEscapes_cons hc, ih fun hs => h (List.mem_cons_of_mem c hs),
        List.cons_append]

theorem Shows.eq {s t : Text} (h : Shows s t) : withoutEscapes s = t := by
  have hall := h []
  rw [List.append_nil, withoutEscapes, List.append_nil] at hall
  exact hall

theorem shows_escape {parameters : Text} (h : ∀ c ∈ parameters, isParameter c = true) :
    Shows (escape parameters) [] := by
  intro rest
  refine withoutEscapes_of_afterEscape? ?_
  have hend : (parameters ++ 'm' :: rest).dropWhile isParameter = 'm' :: rest := by
    rw [List.dropWhile_append_of_pos h]
    rfl
  have hescape : escape parameters ++ rest = '\x1b' :: '[' :: (parameters ++ 'm' :: rest) := by
    simp [escape]
  simp only [hescape, afterEscape?, hend]

theorem shows_flatMap {α : Type} {f g : α → Text} {xs : List α}
    (h : ∀ x ∈ xs, Shows (f x) (g x)) : Shows (xs.flatMap f) (xs.flatMap g) := by
  induction xs with
  | nil => exact .nil
  | cons x xs ih =>
      rw [List.flatMap_cons, List.flatMap_cons]
      exact (h x List.mem_cons_self).append (ih fun y hy => h y (List.mem_cons_of_mem x hy))

theorem shows_joined {separator : Text} (hseparator : '\x1b' ∉ separator) {parts others : List Text}
    (h : List.Forall₂ Shows parts others) :
    Shows (joined separator parts) (joined separator others) := by
  induction h with
  | nil => exact .nil
  | @cons part other parts others hpart hparts ih =>
      cases hparts with
      | nil => exact hpart
      | cons _ _ => exact (hpart.append (shows_self hseparator)).append ih

end Text

/-- A painted text shows what the text shows. -/
theorem Painter.Escaping.shows {painter : Painter} {code : Style → Text}
    (hpainter : painter.Escaping code) (style : Style) {s t : Text} (h : Text.Shows s t) :
    Text.Shows (painter style s) t := by
  have hstart := Text.shows_escape (hpainter.isParameter style)
  have hstop : Text.Shows (Text.escape ['0']) [] :=
    Text.shows_escape (List.forall_mem_singleton.2 (by decide))
  have hpainted := (hstart.append h).append hstop
  rw [List.nil_append, List.append_nil] at hpainted
  rw [hpainter.paint]
  exact hpainted

/-! ## Drawing in colours -/

namespace Description

open Text

variable {d : Description}

theorem Ink.ne_escape {c : Char} (h : d.Ink c)
    (hplaceholders : ∀ t ∈ d.settings.placeholders, '\x1b' ∉ t) : c ≠ '\x1b' := by
  rintro rfl
  cases h with
  | blank h => cases h
  | digit h => cases h
  | @piece s h => obtain ⟨_ | _, _ | _, _ | _, _ | _⟩ := s <;> cases h
  | placeholder ht hc => exact hplaceholders _ ht hc

theorem shows_of_ink {s : Text} (hplaceholders : ∀ t ∈ d.settings.placeholders, '\x1b' ∉ t)
    (h : ∀ c ∈ s, d.Ink c) : Shows s s :=
  shows_self fun hmem => (h _ hmem).ne_escape hplaceholders rfl

/-- With colours, a cell is drawn as without, or this is put into a style. -/
theorem drawCell_colored (d : Description) (painter : Painter) (w : Int) (colors : List Color)
    (row col : Nat) (kind : CellKind) :
    d.drawCell painter ⟨w, true⟩ colors row col kind =
        d.drawCell painter ⟨w, false⟩ colors row col kind ∨
      ∃ style, d.drawCell painter ⟨w, true⟩ colors row col kind =
        painter style (d.drawCell painter ⟨w, false⟩ colors row col kind) := by
  simp only [drawCell, styled_plain, styled_colored]
  split
  · exact .inr ⟨_, rfl⟩
  · split
    · exact .inr ⟨_, rfl⟩
    · cases kind with
      | wall => exact .inr ⟨_, rfl⟩
      | path => exact .inl rfl

section Shows

variable {painter : Painter} {code : Style → Text} (hpainter : painter.Escaping code)
  (hplaceholders : ∀ t ∈ d.settings.placeholders, '\x1b' ∉ t)
include hpainter hplaceholders

theorem shows_styled (w : Int) (style : Style) {s : Text} (h : ∀ c ∈ s, d.Ink c) :
    Shows (styled painter ⟨w, true⟩ style s) (styled painter ⟨w, false⟩ style s) :=
  hpainter.shows style (shows_of_ink hplaceholders h)

theorem shows_drawCell (w : Int) (colors : List Color) (row col : Nat) (kind : CellKind) :
    Shows (d.drawCell painter ⟨w, true⟩ colors row col kind)
      (d.drawCell painter ⟨w, false⟩ colors row col kind) := by
  have hplain := shows_of_ink hplaceholders (ink_drawCell painter w colors row col kind)
  rcases d.drawCell_colored painter w colors row col kind with heq | ⟨style, heq⟩
  · rw [heq]
    exact hplain
  · rw [heq]
    exact hpainter.shows style hplain

theorem shows_drawFrame (w : Int) {left right : Char} (hleft : left ∈ corners)
    (hright : right ∈ corners) :
    Shows (d.drawFrame painter ⟨w, true⟩ left right) (d.drawFrame painter ⟨w, false⟩ left right) :=
  (shows_of_ink hplaceholders (Text.forall_mem_spaces (.blank rfl) _)).append
    (shows_styled hpainter hplaceholders w .white (ink_frame w hleft hright))

theorem shows_drawRow (w : Int) (colors : List Color) (row : Nat) (cells : List CellKind) :
    Shows (d.drawRow painter ⟨w, true⟩ colors row cells)
      (d.drawRow painter ⟨w, false⟩ colors row cells) := by
  have hside := shows_styled hpainter hplaceholders w .white
    (List.forall_mem_singleton.2 ink_side)
  have hlabel := shows_of_ink hplaceholders (ink_rowLabel (d := d) row)
  exact ((hlabel.append hside).append
    (shows_flatMap fun _ _ => shows_drawCell hpainter hplaceholders w colors _ _ _)).append hside

theorem shows_drawLines (w : Int) :
    List.Forall₂ Shows (d.drawLines painter ⟨w, true⟩) (d.drawLines painter ⟨w, false⟩) := by
  have hframe : ∀ {left right : Char}, left ∈ corners → right ∈ corners →
      List.Forall₂ Shows [d.drawFrame painter ⟨w, true⟩ left right]
        [d.drawFrame painter ⟨w, false⟩ left right] := fun hleft hright =>
    .cons (shows_drawFrame hpainter hplaceholders w hleft hright) .nil
  refine List.rel_append (List.rel_append (List.rel_append ?_ (hframe (by decide) (by decide))) ?_)
    (hframe (by decide) (by decide))
  · split
    · exact .cons (shows_of_ink hplaceholders (ink_drawHeader _)) .nil
    · exact .nil
  · rw [List.forall₂_map_left_iff, List.forall₂_map_right_iff, List.forall₂_same]
    exact fun _ _ => shows_drawRow hpainter hplaceholders w _ _ _

end Shows

/-- Colours add nothing but escapes. If the painter writes escape sequences and no placeholder has
an escape character in it, then a drawing in colours is the plain drawing once its escape sequences
are deleted. The two are refused at the same widths of a cell, and for the same reason. -/
theorem withoutEscapes_draw {painter : Painter} {code : Style → Text}
    (hpainter : painter.Escaping code) (hplaceholders : ∀ t ∈ d.settings.placeholders, '\x1b' ∉ t)
    (w : Int) : (d.draw painter ⟨w, true⟩).map withoutEscapes = d.draw painter ⟨w, false⟩ := by
  have hfault : d.drawingFault? ⟨w, true⟩ = d.drawingFault? ⟨w, false⟩ := rfl
  unfold draw
  rw [hfault]
  split
  · rfl
  · exact congrArg Except.ok
      (shows_joined (by decide) (shows_drawLines hpainter hplaceholders w)).eq

/-- Placeholders that could stand in a sequence are no sequence. -/
theorem withoutEscapes_draw_around_a_corner :
    ∃ (text : Text) (d : Draft), Document.compile text = .done d ∧
      (∀ t ∈ d.description.settings.placeholders, '\x1b' ∉ t) ∧
      (d.description.draw .terminal ⟨2, true⟩).map withoutEscapes =
        d.description.draw .terminal ⟨2, false⟩ ∧
      d.description.draw .terminal ⟨2, true⟩ ≠ d.description.draw .terminal ⟨2, false⟩ := by
  let text := ("[version:1.0]\n[size:2,3]\n[placeholder-char:m;]\np1:c(0,0)rd;\nv:p(1,1,2);\n" ++
    "[current-position:c(1,1)]").toList
  have h : Document.compile text = .done (Document.compile text).state :=
    Attempt.eq_done_iff.2 ⟨rfl, by decide +kernel⟩
  have hplaceholders :
      ∀ t ∈ (Document.compile text).state.description.settings.placeholders, '\x1b' ∉ t := by
    decide +kernel
  refine ⟨text, _, h, hplaceholders,
    withoutEscapes_draw Painter.escaping_terminal hplaceholders 2, ?_⟩
  decide +kernel

end Description

end Labyrinth
