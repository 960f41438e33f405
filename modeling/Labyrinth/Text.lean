/-!
# Texts

A document, a line, a field of a line and a written number are all sequences of
Unicode characters that get cut, filtered and joined, so a text is the list of
its characters. Everything a reader of a statement does to its line is a cut of
one of three kinds: the rest after a fixed beginning, the part before a fixed
end, and the two sides of the first separator.
-/

namespace Labyrinth

/-- A text, one element per Unicode character. -/
abbrev Text := List Char

namespace Text

def shown (s : Text) : String :=
  String.ofList s

/-- What follows `beginning`, if the text begins so. -/
def after? : (beginning : Text) → Text → Option Text
  | [], s => some s
  | _ :: _, [] => none
  | b :: beginning, c :: s => if b = c then after? beginning s else none

/-- What precedes the character `last`, if the text ends so. -/
def before? (last : Char) : Text → Option Text
  | [] => none
  | [c] => if c = last then some [] else none
  | c :: d :: s => (before? last (d :: s)).map (c :: ·)

/-- The two sides of the first `separator`, or nothing if it does not occur. -/
def cut? (separator : Char) : Text → Option (Text × Text)
  | [] => none
  | c :: s =>
    if c = separator then some ([], s)
    else (cut? separator s).map fun (left, right) => (c :: left, right)

/-- The fields between the `separator`s; one more than there are separators. -/
def fields (separator : Char) : Text → List Text
  | [] => [[]]
  | c :: s =>
    if c = separator then [] :: fields separator s
    else match fields separator s with
      | [] => [[c]]
      | field :: rest => (c :: field) :: rest

def joined (separator : Text) : List Text → Text
  | [] => []
  | [s] => s
  | s :: t :: rest => s ++ separator ++ joined separator (t :: rest)

/-- A text `count` times over; a negative count asks for nothing. -/
def times (count : Int) (s : Text) : Text :=
  (List.replicate count.toNat s).flatten

theorem after?_append (beginning s : Text) : after? beginning (beginning ++ s) = some s := by
  induction beginning with
  | nil => rfl
  | cons b beginning ih => simp [after?, ih]

theorem before?_append (last : Char) (s : Text) : before? last (s ++ [last]) = some s := by
  induction s with
  | nil => simp [before?]
  | cons c s ih =>
      cases s with
      | nil => simp [before?]
      | cons d s => simpa [before?] using ih

theorem eq_append_of_after? {beginning s rest : Text} (h : after? beginning s = some rest) :
    s = beginning ++ rest := by
  induction beginning generalizing s with
  | nil => exact Option.some.inj h
  | cons b beginning ih =>
      cases s with
      | nil => simp [after?] at h
      | cons c s =>
          unfold after? at h
          split at h
          · next hc => rw [hc, ih h, List.cons_append]
          · simp at h

theorem eq_append_of_before? {last : Char} {s t : Text} (h : before? last s = some t) :
    s = t ++ [last] := by
  induction s generalizing t with
  | nil => simp [before?] at h
  | cons c s ih =>
      cases s with
      | nil =>
          unfold before? at h
          split at h
          · next hc => rw [hc, ← Option.some.inj h, List.nil_append]
          · simp at h
      | cons d s =>
          obtain ⟨t', ht, rfl⟩ := Option.map_eq_some_iff.1 h
          rw [ih ht, List.cons_append]

theorem eq_append_of_cut? {separator : Char} {s left right : Text}
    (h : cut? separator s = some (left, right)) : s = left ++ separator :: right := by
  induction s generalizing left right with
  | nil => simp [cut?] at h
  | cons c s ih =>
      unfold cut? at h
      split at h
      · next hc =>
          obtain ⟨rfl, rfl⟩ := Prod.mk.inj (Option.some.inj h)
          simp [hc]
      · obtain ⟨⟨l, r⟩, hlr, heq⟩ := Option.map_eq_some_iff.1 h
        obtain ⟨rfl, rfl⟩ := Prod.mk.inj heq
        simp [ih hlr]

theorem fields_ne_nil (separator : Char) (s : Text) : fields separator s ≠ [] := by
  match s with
  | [] => simp [fields]
  | c :: s =>
      unfold fields
      split
      · simp
      · split <;> simp

end Text

end Labyrinth
