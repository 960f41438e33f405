import Labyrinth.Text.Lines

/-!
# Lines of texts put together

A text is appended to another by way of a line feed, and the lines of the whole
are those of the two parts. What happens at the seam depends on how the first part
ends: the line feed may close its last line, it may form one break with a carriage
return, or it may stand on a line of its own. The three differ by a blank line.

Splitting looks one character ahead, for a carriage return before a line feed.
`lines_pair` removes that: such a pair has the same lines as the line feed alone.
So the proofs here go along the text one character at a time.

The other way round, any lines without a break in them are the lines of a text, and so a line of
a text can be replaced by others.
-/

namespace Labyrinth

namespace Text

theorem lines_lineFeed (t : Text) : lines ('\n' :: t) = [] :: lines t := by
  rw [lines.eq_def]
  rfl

theorem lines_pair {s : Text} (h : s.head? = some '\n') : lines ('\r' :: s) = lines s := by
  obtain ⟨t, rfl⟩ := List.head?_eq_some_iff.1 h
  rw [lines_lineFeed]
  rfl

theorem lines_cons {c : Char} {s : Text} (h : ¬ (c = '\r' ∧ s.head? = some '\n')) :
    lines (c :: s) =
      if isLineBreak c then [] :: lines s
      else match lines s with
        | [] => [[c]]
        | line :: below => (c :: line) :: below := by
  rw [lines.eq_def]
  split
  · next heq => cases heq
  · next heq =>
      cases heq
      exact absurd ⟨rfl, rfl⟩ h
  · next heq =>
      cases heq
      rfl

theorem lines_append_lineFeed (s t : Text) :
    lines (s ++ '\n' :: t) = lines (s ++ ['\n']) ++ lines t := by
  induction s with
  | nil =>
      rw [List.nil_append, List.nil_append, lines_lineFeed, lines_lineFeed]
      rfl
  | cons c s ih =>
      have hhead : (s ++ '\n' :: t).head? = (s ++ ['\n']).head? := by
        rw [List.head?_append, List.head?_append]
        rfl
      rw [List.cons_append, List.cons_append]
      by_cases hpair : c = '\r' ∧ (s ++ ['\n']).head? = some '\n'
      · obtain ⟨rfl, h⟩ := hpair
        rw [lines_pair h, lines_pair (hhead.trans h), ih]
      · have hne : lines (s ++ ['\n']) ≠ [] := by
          intro h
          rw [lines_eq_nil_iff] at h
          simp at h
        rw [lines_cons hpair, lines_cons (by rw [hhead]; exact hpair), ih]
        cases hlines : lines (s ++ ['\n']) with
        | nil => exact absurd hlines hne
        | cons line below => split <;> rfl

/-- A line feed at the end closes the last line, unless a break has done so already. -/
theorem lines_snoc_lineFeed (s : Text) :
    lines (s ++ ['\n']) = lines s ∨ lines (s ++ ['\n']) = lines s ++ [[]] := by
  induction s with
  | nil => exact .inr (lines_lineFeed [])
  | cons c s ih =>
      rw [List.cons_append]
      by_cases hpair : c = '\r' ∧ s.head? = some '\n'
      · obtain ⟨rfl, h⟩ := hpair
        have h' : (s ++ ['\n']).head? = some '\n' := by
          rw [List.head?_append, h]
          rfl
        rw [lines_pair h, lines_pair h']
        exact ih
      · cases s with
        | nil =>
            by_cases hc : c = '\r'
            · -- The line feed joins the break at the end.
              left
              rw [hc]
              rfl
            · rw [lines_cons hpair, List.nil_append, lines_cons fun h => hc h.1, lines_lineFeed]
              cases isLineBreak c with
              | true => exact .inr rfl
              | false => exact .inl rfl
        | cons d s =>
            have hpair' : ¬ (c = '\r' ∧ (d :: s ++ ['\n']).head? = some '\n') := hpair
            rw [lines_cons hpair, lines_cons hpair']
            cases hlines : lines (d :: s) with
            | nil => cases lines_eq_nil_iff.1 hlines
            | cons line below =>
                rw [hlines] at ih
                rcases ih with ih | ih
                · left
                  rw [ih]
                · right
                  rw [ih]
                  split <;> rfl

/-- A line without a break in it is read back as it is. -/
theorem lines_line_append {s : Text} (h : ∀ c ∈ s, isLineBreak c = false) (t : Text) :
    lines (s ++ '\n' :: t) = s :: lines t := by
  induction s with
  | nil => exact lines_lineFeed t
  | cons c s ih =>
      have hc := h c List.mem_cons_self
      have hne : ¬ (c = '\r' ∧ (s ++ '\n' :: t).head? = some '\n') := by
        rintro ⟨rfl, -⟩
        cases hc
      rw [List.cons_append, lines_cons hne, ih fun d hd => h d (List.mem_cons_of_mem _ hd), hc]
      rfl

theorem not_isLineBreak_of_mem_lines {s line : Text} (h : line ∈ lines s) :
    ∀ c ∈ line, isLineBreak c = false := by
  fun_induction lines s generalizing line with
  | case1 => cases h
  | case2 rest ih =>
      rcases List.mem_cons.1 h with rfl | h
      · exact fun c hc => absurd hc List.not_mem_nil
      · exact ih h
  | case3 c rest _ _ ih =>
      rcases List.mem_cons.1 h with rfl | h
      · exact fun c hc => absurd hc List.not_mem_nil
      · exact ih h
  | case4 c rest _ hc _ ih =>
      obtain rfl := List.mem_singleton.1 h
      intro d hd
      rw [List.mem_singleton.1 hd]
      exact Bool.eq_false_iff.2 hc
  | case5 c rest _ hc first below hlines ih =>
      rcases List.mem_cons.1 h with rfl | h
      · intro d hd
        rcases List.mem_cons.1 hd with rfl | hd
        · exact Bool.eq_false_iff.2 hc
        · exact ih (by rw [hlines]; exact List.mem_cons_self) d hd
      · exact ih (by rw [hlines]; exact List.mem_cons_of_mem _ h)

/-- Lines without breaks in them are the lines of a text. -/
theorem exists_lines_eq {rows : List Text} (h : ∀ line ∈ rows, ∀ c ∈ line, isLineBreak c = false) :
    ∃ t, lines t = rows := by
  induction rows with
  | nil => exact ⟨[], rfl⟩
  | cons line rows ih =>
      obtain ⟨t, ht⟩ := ih fun other hother => h other (List.mem_cons_of_mem _ hother)
      refine ⟨line ++ '\n' :: t, ?_⟩
      rw [lines_line_append (h line List.mem_cons_self), ht]

/-- A line of a text can be replaced by others. -/
theorem exists_lines_replaced {s line : Text} {before after rows : List Text}
    (hs : lines s = before ++ line :: after)
    (h : ∀ row ∈ rows, ∀ c ∈ row, isLineBreak c = false) :
    ∃ t, lines t = before ++ (rows ++ after) := by
  have hkept : ∀ row, row ∈ before ∨ row ∈ after → ∀ c ∈ row, isLineBreak c = false := by
    intro row hrow
    apply not_isLineBreak_of_mem_lines (s := s)
    rw [hs, List.mem_append, List.mem_cons]
    exact hrow.imp_right .inr
  apply exists_lines_eq
  intro row hrow
  rw [List.mem_append, List.mem_append] at hrow
  rcases hrow with hrow | hrow | hrow
  · exact hkept row (.inl hrow)
  · exact h row hrow
  · exact hkept row (.inr hrow)

end Text

end Labyrinth
