import Labyrinth.Proofs.Literals
import Labyrinth.Proofs.Replacing

/-!
# Spelled ranges and chains

The same visits can be stated as a range of a path or as a chain of coordinates. Here is how
lines state the one and the other: which texts they are in normal form, and what is read from
them. A range is spelled with three numerals, however they are written, and perhaps a colour. A
chain is spelled with the colour and the coordinates as they are printed.
-/

namespace Labyrinth

namespace Text

theorem fields_eq_singleton {separator : Char} {s t : Text} (h : fields separator s = [t]) :
    t = s ∧ separator ∉ s := by
  induction s generalizing t with
  | nil =>
      cases h
      exact ⟨rfl, List.not_mem_nil⟩
  | cons c s ih =>
      unfold fields at h
      split at h
      · exact absurd (List.cons.inj h).2 (fields_ne_nil separator s)
      · next hc =>
          split at h
          · next hnil => exact absurd hnil (fields_ne_nil separator s)
          · next field rest hfields =>
              obtain ⟨rfl, rfl⟩ := List.cons.inj h
              obtain ⟨rfl, hs⟩ := ih hfields
              refine ⟨rfl, fun hmem => ?_⟩
              rcases List.mem_cons.1 hmem with rfl | hmem
              · exact hc rfl
              · exact hs hmem

theorem cut?_append {separator : Char} {s : Text} (h : separator ∉ s) (t : Text) :
    cut? separator (s ++ separator :: t) = some (s, t) := by
  induction s with
  | nil => exact if_pos rfl
  | cons c s ih =>
      have hc : c ≠ separator := fun heq => h (by rw [heq]; exact List.mem_cons_self)
      rw [List.cons_append, cut?, if_neg hc, ih fun hmem => h (List.mem_cons_of_mem c hmem)]
      rfl

theorem mem_joined {separator : Text} {parts : List Text} {c : Char}
    (h : c ∈ joined separator parts) : c ∈ separator ∨ ∃ part ∈ parts, c ∈ part := by
  induction parts with
  | nil => cases h
  | cons part parts ih =>
      cases parts with
      | nil => exact .inr ⟨part, List.mem_cons_self, h⟩
      | cons next parts =>
          rw [joined, List.mem_append, List.mem_append] at h
          rcases h with (h | h) | h
          · exact .inr ⟨part, List.mem_cons_self, h⟩
          · exact .inl h
          · rcases ih h with hc | ⟨p, hp, hc⟩
            · exact .inl hc
            · exact .inr ⟨p, List.mem_cons_of_mem _ hp, hc⟩

theorem mem_joined_of_mem {separator : Text} {parts : List Text} {part : Text} {c : Char}
    (hpart : part ∈ parts) (hc : c ∈ part) : c ∈ joined separator parts := by
  induction parts with
  | nil => cases hpart
  | cons first parts ih =>
      cases parts with
      | nil =>
          rw [List.mem_singleton.1 hpart] at hc
          exact hc
      | cons next parts =>
          rw [joined]
          rcases List.mem_cons.1 hpart with rfl | hpart
          · exact List.mem_append_left _ (List.mem_append_left _ hc)
          · exact List.mem_append_right _ (ih hpart)

end Text

/-! ## Ranges -/

namespace Statement

theorem readRangeFields_of_writes {a b c : Text} {id first last : Int} (ha : Numeral.Writes a id)
    (hb : Numeral.Writes b first) (hc : Numeral.Writes c last) (color : Except Reason Color) :
    readRangeFields [a, b, c] color = (do
      let color ← color
      if first < 0 ∨ last < first then .error (.invalidRange first last)
      else .ok (.range id first last color)) := by
  unfold readRangeFields
  simp only [integers_of_writes ha hb hc]

/-- The colour that a range names, or the one it has if it names none. -/
inductive Tints : Option Text → Color → Prop
  | unnamed : Tints none .lightGray
  | named {tint : Text} {color : Color} (single : ',' ∉ tint)
      (read : Color.parse tint = .ok color) : Tints (some tint) color

theorem fields_of_tint {a b c : Text} {id first last : Int} (ha : Numeral.Writes a id)
    (hb : Numeral.Writes b first) (hc : Numeral.Writes c last) (tint : Text) :
    Text.fields ',' (Text.joined [','] [a, b, c, tint]) = a :: b :: c :: Text.fields ',' tint := by
  simp only [Text.joined, List.append_assoc, List.singleton_append]
  rw [Text.fields_append ha.comma_not_mem, Text.fields_append hb.comma_not_mem,
    Text.fields_append hc.comma_not_mem]

theorem readRange_rangeText (fields : List Text) :
    readRange (rangeText fields) =
      match Text.fields ',' (Text.joined [','] fields) with
      | [id, first, last] => readRangeFields [id, first, last] (.ok .lightGray)
      | [id, first, last, color] =>
        readRangeFields [id, first, last] ((Color.parse color).mapError .color)
      | fields => .error (.rangeFieldCount fields.length) := by
  have hinner : (do
      let s ← Text.after? "v:p(".toList (rangeText fields)
      let s ← Text.before? ';' s
      Text.before? ')' s) = some (Text.joined [','] fields) := by
    rw [rangeText]
    simp only [Text.after?_append, Option.bind_eq_bind, Option.bind_some, Text.before?_append]
  unfold readRange
  split
  · next hnone =>
      rw [hinner] at hnone
      cases hnone
  · next inner hsome =>
      rw [hinner] at hsome
      obtain rfl := Option.some.inj hsome
      rfl

theorem isNormal_of_mem_rangeText {fields : List Text}
    (h : ∀ field ∈ fields, ∀ c ∈ field, Text.IsNormal c) :
    ∀ c ∈ rangeText fields, Text.IsNormal c := by
  intro c hc
  simp only [rangeText, List.mem_append] at hc
  rcases hc with hc | (hc | hc) | hc
  · exact Text.isNormal_of_all (by decide) c hc
  · rcases Text.mem_joined hc with hc | ⟨field, hfield, hc⟩
    · exact Text.isNormal_of_all (by decide) c hc
    · exact h field hfield c hc
  · exact Text.isNormal_of_all (by decide) c hc
  · exact Text.isNormal_of_all (by decide) c hc

end Statement

namespace Document

/-- A line that states the moves `first` to `last` of a path as visited: three numerals in a
bracket, and behind them perhaps a colour. -/
inductive SpellsRange (line : Text) (id first last : Int) (tint : Option Text) : Prop
  | spelled {a b c : Text}
      (written : normalized line = Statement.rangeText (a :: b :: c :: tint.toList))
      (path : Numeral.Writes a id) (start : Numeral.Writes b first) (stop : Numeral.Writes c last) :
      SpellsRange line id first last tint

namespace SpellsRange

variable {line : Text} {id first last : Int} {tint : Option Text}

theorem exists_written (h : SpellsRange line id first last tint) :
    ∃ s, normalized line = 'v' :: ':' :: s := by
  obtain ⟨hwritten, -, -, -⟩ := h
  exact ⟨_, hwritten⟩

theorem not_header (h : SpellsRange line id first last tint) : checkHeader line ≠ .ok () := by
  obtain ⟨s, hs⟩ := h.exists_written
  exact checkHeader_ne_ok hs (by decide)

theorem ne_nil (h : SpellsRange line id first last tint) : normalized line ≠ [] := by
  obtain ⟨s, hs⟩ := h.exists_written
  rw [hs]
  exact List.cons_ne_nil _ _

theorem form_eq (h : SpellsRange line id first last tint) :
    Form.of? (normalized line) = some .range := by
  obtain ⟨hwritten, -, -, -⟩ := h
  rw [hwritten]
  rfl

open Outcome in
/-- What is read from the line, if it is read at all. -/
theorem exists_tint (h : SpellsRange line id first last tint) {s : Statement}
    (hs : Statement.ofLine? (normalized line) = some s) :
    ∃ color, s = .range id first last color ∧ Statement.Tints tint color ∧ 0 ≤ first ∧
      first ≤ last := by
  obtain ⟨hform, hread⟩ := Statement.ofLine?_eq_some_iff.1 hs
  rw [h.form_eq] at hform
  rw [← Option.some.inj hform, Statement.read] at hread
  obtain @⟨a, b, c, hwritten, hpath, hstart, hstop⟩ := h
  have hcolor : ∀ {color : Except Reason Color},
      Statement.readRangeFields [a, b, c] color = .ok s →
      ∃ c, color = .ok c ∧ s = .range id first last c ∧ 0 ≤ first ∧ first ≤ last := by
    intro color hread
    rw [Statement.readRangeFields_of_writes hpath hstart hstop] at hread
    obtain ⟨c, hc, hread⟩ := bind_eq_ok.1 hread
    split at hread
    · cases hread
    · exact ⟨c, hc, (Except.ok.inj hread).symm, by omega, by omega⟩
  rw [hwritten, Statement.readRange_rangeText] at hread
  cases tint with
  | none =>
      rw [Option.toList_none, fields_of_writes hpath hstart hstop] at hread
      obtain ⟨c, hc, hs, hle⟩ := hcolor hread
      cases hc
      exact ⟨_, hs, .unnamed, hle⟩
  | some tint =>
      rw [Option.toList_some, Statement.fields_of_tint hpath hstart hstop] at hread
      split at hread
      · next heq =>
          simp only [List.cons.injEq] at heq
          exact absurd heq.2.2.2 (Text.fields_ne_nil ',' tint)
      · next heq =>
          simp only [List.cons.injEq] at heq
          obtain ⟨rfl, rfl, rfl, hfields⟩ := heq
          obtain ⟨rfl, hsingle⟩ := Text.fields_eq_singleton hfields
          obtain ⟨c, hc, hs, hle⟩ := hcolor hread
          exact ⟨c, hs, .named hsingle (mapError_eq_ok.1 hc), hle⟩
      · cases hread

/-- A spelled range is read if its colour is one and its numbers are in order. -/
theorem stated (h : SpellsRange line id first last tint) {color : Color}
    (hcolor : Statement.Tints tint color) (hfirst : 0 ≤ first) (hle : first ≤ last) :
    Statement.ofLine? (normalized line) = some (.range id first last color) := by
  refine Statement.ofLine?_of_read h.form_eq ?_
  obtain ⟨hwritten, hpath, hstart, hstop⟩ := h
  have horder : ¬ (first < 0 ∨ last < first) := by omega
  rw [hwritten, Statement.read, Statement.readRange_rangeText]
  cases hcolor with
  | unnamed =>
      simp only [Option.toList_none, fields_of_writes hpath hstart hstop,
        Statement.readRangeFields_of_writes hpath hstart hstop, if_neg horder]
      rfl
  | named hsingle hread =>
      simp only [Option.toList_some, Statement.fields_of_tint hpath hstart hstop,
        Text.fields_of_not_mem hsingle, Statement.readRangeFields_of_writes hpath hstart hstop,
        if_neg horder, hread]
      rfl

theorem isNormal_of_mem_tint {t : Text} (h : SpellsRange line id first last (some t)) :
    ∀ c ∈ t, Text.IsNormal c := by
  obtain ⟨hwritten, -, -, -⟩ := h
  intro c hc
  have hmem : c ∈ normalized line := by
    rw [hwritten, Statement.rangeText]
    refine List.mem_append_right _ (List.mem_append_left _ (List.mem_append_left _ ?_))
    exact Text.mem_joined_of_mem (by simp) hc
  exact isNormal_of_mem_normalized hmem

/-- The text of a range statement is a line that states it, if its colour is in normal form. -/
theorem of_writes {a b c : Text} (htint : ∀ t ∈ tint, ∀ c ∈ t, Text.IsNormal c)
    (ha : Numeral.Writes a id) (hb : Numeral.Writes b first) (hc : Numeral.Writes c last) :
    (∀ x ∈ Statement.rangeText (a :: b :: c :: tint.toList), Text.IsNormal x) ∧
      SpellsRange (Statement.rangeText (a :: b :: c :: tint.toList)) id first last tint := by
  have hnormal : ∀ x ∈ Statement.rangeText (a :: b :: c :: tint.toList), Text.IsNormal x := by
    refine Statement.isNormal_of_mem_rangeText fun field hfield x hx => ?_
    simp only [List.mem_cons, Option.mem_toList] at hfield
    rcases hfield with rfl | rfl | rfl | hfield
    · exact Text.isNormal_of_isPlain (ha.isPlain_of_mem hx)
    · exact Text.isNormal_of_isPlain (hb.isPlain_of_mem hx)
    · exact Text.isNormal_of_isPlain (hc.isPlain_of_mem hx)
    · exact htint field hfield x hx
  exact ⟨hnormal, .spelled (normalized_of_isNormal hnormal) ha hb hc⟩

end SpellsRange

end Document

/-! ## Chains -/

theorem Coordinate.arrow_not_mem_text (c : Coordinate) : '>' ∉ c.text := by
  have hnumeral : ∀ n : Int, '>' ∉ Numeral.ofInt n := by
    intro n hmem
    cases n with
    | ofNat n => exact absurd (Numeral.isDigit_of_mem_ofNat hmem) (by decide)
    | negSucc n =>
        rcases List.mem_cons.1 hmem with heq | hmem
        · exact absurd heq (by decide)
        · exact absurd (Numeral.isDigit_of_mem_ofNat hmem) (by decide)
  simp only [text, List.mem_append, hnumeral, or_false]
  decide

namespace Statement

/-- The text of a chain statement, with its colour as it is written. -/
def chainText (tint : Text) (points : List Coordinate) : Text :=
  "vc:".toList ++ (tint ++ ',' :: (Text.joined ['>'] (points.map Coordinate.text) ++ [';']))

theorem isNormal_of_mem_chainText {tint : Text} (htint : ∀ c ∈ tint, Text.IsNormal c)
    (points : List Coordinate) : ∀ c ∈ chainText tint points, Text.IsNormal c := by
  intro c hc
  rw [chainText, List.mem_append, List.mem_append, List.mem_cons, List.mem_append] at hc
  rcases hc with hc | hc | hc | hc | hc
  · exact Text.isNormal_of_all (by decide) c hc
  · exact htint c hc
  · exact Text.isNormal_of_all (by decide) c (List.mem_singleton.2 hc)
  · rcases Text.mem_joined hc with hc | ⟨part, hpart, hc⟩
    · exact Text.isNormal_of_all (by decide) c hc
    · obtain ⟨point, -, rfl⟩ := List.mem_map.1 hpart
      exact Text.isNormal_of_isPlain (Coordinate.isPlain_of_mem_text hc)
  · exact Text.isNormal_of_all (by decide) c hc

/-- A chain of legible coordinates is read back. -/
theorem ofLine?_chainText {tint : Text} {color : Color} {points : List Coordinate}
    (hread : Color.parse tint = .ok color) (htint : ∀ c ∈ tint, Text.IsNormal c)
    (hpoints : ∀ c ∈ points, c.Legible) (hlength : 2 ≤ points.length) :
    ofLine? (chainText tint points) = some (.chain color points) := by
  obtain ⟨components, rfl, hbracket⟩ := Color.exists_components hread htint
  have hshape : chainText ("rgb(".toList ++ components ++ [')']) points =
      "vc:rgb(".toList ++ (components ++ ')' ::
        ([','] ++ (Text.joined ['>'] (points.map Coordinate.text) ++ [';']))) := by
    simp only [chainText, List.append_assoc, List.cons_append, List.nil_append]
    rfl
  have hform : Form.of? (chainText ("rgb(".toList ++ components ++ [')']) points) =
      some .chain := rfl
  have hfields : Text.fields '>' (Text.joined ['>'] (points.map Coordinate.text)) =
      points.map Coordinate.text := by
    apply Text.fields_joined
    · intro hnil
      rw [List.map_eq_nil_iff] at hnil
      rw [hnil] at hlength
      exact absurd hlength (by decide)
    · intro part hpart
      obtain ⟨point, -, rfl⟩ := List.mem_map.1 hpart
      exact point.arrow_not_mem_text
  refine ofLine?_of_read hform ?_
  rw [read, readChain, hshape]
  simp only [Text.after?_append, Option.bind_eq_bind, Option.bind_some,
    Text.cut?_append hbracket, Text.before?_append, Option.pure_def, hread, hfields,
    Coordinate.mapM_parse_text hpoints]
  exact if_neg (Nat.not_lt.2 hlength)

end Statement

end Labyrinth
