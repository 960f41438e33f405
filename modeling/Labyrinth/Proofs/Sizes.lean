import Labyrinth.Chance.Script
import Labyrinth.Generator.Configuration
import Labyrinth.Proofs.Depicted
import Mathlib.Data.List.Basic

/-!
# The size that is read and the size that is compiled

Two readers look for the size in a block of settings. The compiler reads every statement, and
each size starts the grid over, so the last one counts. The generator looks at nothing but
sizes and takes the first. About a single line they are of one mind: what the compiler
takes for a size is what the generator takes for one, with the same two numbers.

So the two agree on a document exactly if its first and its last size are the same. If they
are not, the generator makes a maze for a grid that the document does not have.
-/

namespace Labyrinth

/-! ## One line -/

namespace Numeral

/-- A positive integer is written without a sign. -/
theorem natural_of_integer {s : Text} {n : Int} (hs : isInteger s = true) (h : integer s = .ok n)
    (hn : 0 < n) : isDigits s = true ∧ natural s = .ok n.toNat := by
  rcases exists_of_integer h hs with ⟨digits, k, -, -, -, rfl⟩ | ⟨k, hdigits, hk, rfl⟩
  · omega
  · exact ⟨hdigits, hk⟩

end Numeral

open Outcome in
theorem integers_two {text : Text} {first second : Int}
    (h : integers [2] text = .ok [first, second]) :
    ∃ a b, Text.fields ',' text = [a, b] ∧ Numeral.isInteger a = true ∧
      Numeral.isInteger b = true ∧ Numeral.integer a = .ok first ∧
      Numeral.integer b = .ok second := by
  unfold integers at h
  simp only at h
  split at h
  · cases h
  · next hcount =>
      split at h
      · cases h
      · next hall =>
          have hlength : (Text.fields ',' text).length = 2 := by simpa using hcount
          obtain ⟨a, b, hfields⟩ := List.length_eq_two.1 hlength
          rw [hfields] at h hall
          obtain ⟨ha, hb⟩ : Numeral.isInteger a = true ∧ Numeral.isInteger b = true := by
            simpa using hall
          have h := mapError_eq_ok.1 h
          simp only [List.mapM_cons, List.mapM_nil] at h
          obtain ⟨n, hn, h⟩ := bind_eq_ok.1 h
          obtain ⟨rest, hrest, h⟩ := bind_eq_ok.1 h
          obtain ⟨k, hk, hrest⟩ := bind_eq_ok.1 hrest
          cases hrest
          cases h
          exact ⟨a, b, hfields, ha, hb, hn, hk⟩

namespace Setting

/-- The value of a size is two numerals without a sign. -/
theorem fields_of_readSize {value : Text} {height width : Nat}
    (h : readSize value = .ok (.size height width)) :
    ∃ a b, Text.fields ',' value = [a, b] ∧
      (Numeral.isDigits a = true ∧ Numeral.natural a = .ok height) ∧
      Numeral.isDigits b = true ∧ Numeral.natural b = .ok width := by
  unfold readSize at h
  split at h
  · cases h
  · next first second hints =>
      split at h
      · cases h
      · next hpos =>
          cases h
          obtain ⟨a, b, hfields, ha, hb, hfirst, hsecond⟩ := integers_two hints
          exact ⟨a, b, hfields, Numeral.natural_of_integer ha hfirst (by omega),
            Numeral.natural_of_integer hb hsecond (by omega)⟩
  · cases h

theorem read_size_line (value : Text) :
    read ("[size:".toList ++ value ++ [']']) = readSize value := by
  have hinner : (Text.after? ['['] ("[size:".toList ++ value ++ [']'])).bind (Text.before? ']') =
      some ("size:".toList ++ value) :=
    Text.before?_append ']' ("size:".toList ++ value)
  have hcut : Text.cut? ':' ("size:".toList ++ value) = some ("size".toList, value) := rfl
  have hname : SettingKey.ofName? "size".toList = some .size := by decide
  simp only [read, hinner, hcut, hname]
  rfl

theorem read_eq_size_iff {line : Text} {height width : Nat} :
    read line = .ok (.size height width) ↔
      ∃ value, line = "[size:".toList ++ value ++ [']'] ∧
        readSize value = .ok (.size height width) := by
  constructor
  · intro h
    obtain ⟨value, rfl, hvalue⟩ := exists_of_read h
    exact ⟨value, by simp [key, SettingKey.name], hvalue⟩
  · rintro ⟨value, rfl, hvalue⟩
    rw [read_size_line, hvalue]

end Setting

namespace Generator

theorem sizeValue?_eq_some_iff {line value : Text} :
    sizeValue? line = some value ↔ normalized line = "[size:".toList ++ value ++ [']'] := by
  constructor
  · intro h
    obtain ⟨rest, hrest, hvalue⟩ := Option.bind_eq_some_iff.1 h
    rw [Text.eq_append_of_after? hrest, Text.eq_append_of_before? hvalue, List.append_assoc]
  · intro h
    rw [sizeValue?, h, List.append_assoc, Text.after?_append, Option.bind_some,
      Text.before?_append]

theorem readSizeValue_of_readSize {value : Text} {height width : Nat}
    (h : Setting.readSize value = .ok (.size height width)) (number : Nat) (line : Text) :
    readSizeValue number line value = .ok (height, width) := by
  obtain ⟨a, b, hfields, ⟨ha, hheight⟩, hb, hwidth⟩ := Setting.fields_of_readSize h
  simp only [readSizeValue, hfields, ha, hb, hheight, hwidth]
  rfl

end Generator

namespace Document

/-- The height and the width that a line states, if it states a size. -/
def size? (line : Text) : Option (Nat × Nat) :=
  match Setting.read (normalized line) with
  | .ok (.size height width) => some (height, width)
  | _ => none

theorem size?_eq_some_iff {line : Text} {height width : Nat} :
    size? line = some (height, width) ↔
      Setting.read (normalized line) = .ok (.size height width) := by
  unfold size?
  split
  · next h => 
      rw [h, Option.some.injEq, Prod.mk.injEq, Except.ok.injEq, Setting.size.injEq]
  · next h =>
      constructor
      · intro h
        cases h
      · intro hread
        exact absurd hread (h _ _)

theorem size?_eq_none_iff {line : Text} : size? line = none ↔ ¬ StatesSize line := by
  constructor
  · rintro h ⟨height, width, hread⟩
    rw [size?_eq_some_iff.2 hread] at h
    cases h
  · intro h
    cases hsize : size? line with
    | none => rfl
    | some size => exact absurd ⟨_, _, size?_eq_some_iff.1 hsize⟩ h

/-- The sizes that the lines of a document state, in their order. -/
def sizes (text : Text) : List (Nat × Nat) :=
  (Text.lines text).filterMap size?

/-- A line that the generator would take for a size has compiled as one. -/
theorem statesSize_of_carryOut {d e : Draft} {line value : Text} {number : Nat}
    (h : carryOut d (line, number) = .done e)
    (hvalue : Generator.sizeValue? line = some value) : StatesSize line := by
  have hline := Generator.sizeValue?_eq_some_iff.1 hvalue
  have hwritten : normalized line ≠ [] := by simp [hline]
  rw [carryOut_of_statement hwritten, Draft.execute] at h
  split at h
  · cases h
  · next action hunderstood =>
      obtain ⟨s, hs, -⟩ := Draft.understand_eq_ok hunderstood
      obtain ⟨hform, hread⟩ := Statement.ofLine?_eq_some_iff.1 hs
      have hsetting : Form.of? (normalized line) = some .setting := by
        rw [hline]
        rfl
      rw [← Option.some.inj (hsetting.symm.trans hform)] at hread
      obtain ⟨setting, hread, -⟩ := Outcome.map_eq_ok.1 hread
      have hsize : Setting.readSize value = .ok setting := by
        rw [← Setting.read_size_line, ← hline]
        exact hread
      obtain ⟨height, width, rfl, -⟩ := Setting.size_of_readSize hsize
      exact ⟨height, width, hread⟩

theorem sizeValue?_of_checkHeader {header : Text} (h : checkHeader header = .ok ()) :
    Generator.sizeValue? header = none := by
  unfold checkHeader at h
  split at h
  · cases h
  · next found hfound =>
      obtain ⟨rest, hrest, -⟩ := Option.bind_eq_some_iff.1 hfound
      rw [Generator.sizeValue?, Text.eq_append_of_after? hrest]
      rfl

/-- Where the generator sees no other sizes than the compiler, it finds the first one stated. -/
theorem findSize_eq {lines : List Text} (number : Nat)
    (h : ∀ line ∈ lines, ∀ value, Generator.sizeValue? line = some value → StatesSize line) :
    Generator.findSize (lines.zipIdx number) =
      match (lines.filterMap size?).head? with
      | some size => .ok size
      | none => .error .missing := by
  induction lines generalizing number with
  | nil => rfl
  | cons line lines ih =>
      have hrest := ih (number + 1) fun later hlater => h later (List.mem_cons_of_mem _ hlater)
      rw [List.zipIdx_cons, Generator.findSize]
      cases hvalue : Generator.sizeValue? line with
      | none =>
          have hnone : size? line = none := by
            rw [size?_eq_none_iff]
            rintro ⟨height, width, hread⟩
            obtain ⟨value, hline, -⟩ := Setting.read_eq_size_iff.1 hread
            rw [Generator.sizeValue?_eq_some_iff.2 hline] at hvalue
            cases hvalue
          rw [List.filterMap_cons_none hnone]
          exact hrest
      | some value =>
          obtain ⟨height, width, hread⟩ := h line List.mem_cons_self value hvalue
          have hsize : Setting.readSize value = .ok (.size height width) := by
            rw [← Setting.read_size_line, ← Generator.sizeValue?_eq_some_iff.1 hvalue]
            exact hread
          rw [List.filterMap_cons_some (size?_eq_some_iff.2 hread), List.head?_cons]
          exact Generator.readSizeValue_of_readSize hsize number line

/-! ## A whole document -/

/-- A header states no size. -/
theorem size?_of_checkHeader {header : Text} (h : checkHeader header = .ok ()) :
    size? header = none := by
  rw [size?_eq_none_iff]
  rintro ⟨height, width, hread⟩
  obtain ⟨value, hheader, -⟩ := Setting.read_eq_size_iff.1 hread
  have hvalue := Generator.sizeValue?_eq_some_iff.2 hheader
  rw [sizeValue?_of_checkHeader h] at hvalue
  cases hvalue

/-- A document that states a size has a grid with rows. -/
theorem height_pos_of_sizes {lines : List Text} {d : Draft} (h : compileLines lines = .done d)
    (hsizes : lines.filterMap size? ≠ []) : 0 < d.grid.height := by
  obtain ⟨header, rest, e, rfl, hheader, hrest, hend⟩ := compileLines_eq_done.1 h
  rw [List.filterMap_cons_none (size?_of_checkHeader hheader)] at hsizes
  have hstates : ∃ line ∈ rest, StatesSize line := by
    by_contra hno
    exact hsizes (List.filterMap_eq_nil_iff.2 fun line hline =>
      size?_eq_none_iff.2 fun hstates => hno ⟨line, hline, hstates⟩)
  obtain ⟨before, line, after, rfl, ⟨height, width, hread⟩, hafter⟩ := exists_last_size hstates
  rw [height_of_finish (reached_of_done hrest).framed hend,
    (cells_after_size hread hafter hrest).1.height_eq]
  exact (Setting.sides_of_read hread).1

/-- The last size that is stated, if there is one, is the size of the grid. -/
theorem size_of_compileLines {lines : List Text} {d : Draft} (h : compileLines lines = .done d)
    (hsize : 0 < d.grid.height) :
    (lines.filterMap size?).getLast? = some (d.grid.height, d.grid.width) := by
  obtain ⟨header, rest, e, rfl, hheader, hrest, hend⟩ := compileLines_eq_done.1 h
  have he := (reached_of_done hrest).framed
  obtain ⟨-, rfl⟩ := finish_eq_done he hend hsize
  by_cases hsizes : ∃ line ∈ rest, StatesSize line
  · obtain ⟨before, line, after, rfl, ⟨height, width, hread⟩, hafter⟩ := exists_last_size hsizes
    have hsides : (e.withGrid (e.grid.opened (openings e))).grid.HasSides height width :=
      Grid.hasSides_opened (cells_after_size hread hafter hrest).1 _
    have hnone : after.filterMap size? = [] :=
      List.filterMap_eq_nil_iff.2 fun later hlater => size?_eq_none_iff.2 (hafter later hlater)
    rw [hsides.height_eq, hsides.width_eq, ← List.cons_append, List.filterMap_append,
      List.filterMap_cons_some (size?_eq_some_iff.2 hread), hnone]
    exact List.getLast?_concat ..
  · -- Without a size the grid stays as it is in the empty draft, without a row.
    have hsides := hasSides_of_each Description.framed_empty hrest
      (fun line hline hstates => hsizes ⟨line, hline, hstates⟩) Description.framed_empty.hasSides
    have hheight := (Grid.hasSides_opened hsides (openings e)).height_eq
    exact absurd (lt_of_lt_of_eq hsize hheight) (Nat.lt_irrefl 0)

/-- In a document that compiles, the generator finds the first size that is stated. -/
theorem findSize_of_compileLines {lines : List Text} {d : Draft}
    (h : compileLines lines = .done d) (number : Nat) :
    Generator.findSize (lines.zipIdx number) =
      match (lines.filterMap size?).head? with
      | some size => .ok size
      | none => .error .missing := by
  obtain ⟨header, rest, e, rfl, hheader, hrest, -⟩ := compileLines_eq_done.1 h
  refine findSize_eq number fun line hline value hvalue => ?_
  rcases List.mem_cons.1 hline with rfl | hline
  · rw [sizeValue?_of_checkHeader hheader] at hvalue
    cases hvalue
  · obtain ⟨before, after, rfl⟩ := List.append_of_mem hline
    obtain ⟨b, e', -, hdone, -⟩ := each_numbered_split.1 hrest
    exact statesSize_of_carryOut hdone hvalue

/-- The generator reads the first size of a document and the compiler the last, so they agree on
the size of a grid exactly if these are the same. -/
theorem readSize_of_compile {text : Text} {d : Draft} (h : compile text = .done d)
    (hsize : 0 < d.grid.height) :
    (Generator.readSize text = .ok (d.grid.height, d.grid.width) ↔
      (sizes text).head? = (sizes text).getLast?) ∧
    (sizes text).getLast? = some (d.grid.height, d.grid.width) ∧
    ∃ first, (sizes text).head? = some first ∧ Generator.readSize text = .ok first := by
  have hlast : (sizes text).getLast? = some (d.grid.height, d.grid.width) :=
    size_of_compileLines h hsize
  have hread := findSize_of_compileLines h 1
  obtain ⟨first, hfirst⟩ : ∃ first, (sizes text).head? = some first := by
    cases hhead : (sizes text).head? with
    | some first => exact ⟨first, rfl⟩
    | none =>
        rw [List.head?_eq_none_iff.1 hhead] at hlast
        cases hlast
  have hread : Generator.readSize text = .ok first := by
    rw [sizes] at hfirst
    rw [Generator.readSize, hread, hfirst]
  refine ⟨?_, hlast, first, hfirst, hread⟩
  rw [hread, hlast, hfirst, Except.ok.injEq, Option.some.injEq]

/-- Three sizes, of which the first and the last are the same, though not written the same. -/
theorem readSize_of_compile_three_by_four :
    ∃ (text : Text) (d : Draft), compile text = .done d ∧
      sizes text = [(3, 4), (5, 5), (3, 4)] ∧ d.grid.height = 3 ∧ d.grid.width = 4 ∧
      Generator.readSize text = .ok (d.grid.height, d.grid.width) := by
  let text := "[version:1.0]\n[ SIZE : 03, 4 ]\n[size:5,5]\n\n[size:3,4]\nr0:pwpw;".toList
  have hfault : (compile text).fault = none := by decide +kernel
  have hcompile : compile text = .done (compile text).state := Attempt.eq_done_iff.2 ⟨rfl, hfault⟩
  have hheight : (compile text).state.grid.height = 3 := by decide +kernel
  have hwidth : (compile text).state.grid.width = 4 := by decide +kernel
  have hsizes : sizes text = [(3, 4), (5, 5), (3, 4)] := by decide +kernel
  have hagree := (readSize_of_compile hcompile (by rw [hheight]; decide)).1
  exact ⟨text, _, hcompile, hsizes, hheight, hwidth, hagree.2 (by rw [hsizes]; rfl)⟩

/-- A document with two sizes compiles to a grid of the last. The generator reads the first, and
what it makes of the document does not compile. -/
theorem readSize_ne_of_compile_sized_twice :
    ∃ (text : Text) (d : Draft) (made : Text), compile text = .done d ∧ d.grid.height = 3 ∧
      d.grid.width = 3 ∧ Generator.readSize text = .ok (5, 5) ∧
      Generator.readSize text ≠ .ok (d.grid.height, d.grid.width) ∧
      Generator.describe text (⟨[0, 0, 0, 0, 0, 0]⟩ : Script) = .made made ∧
      (compile made).fault ≠ none := by
  let text := "[version:1.0]\n[size:5,5]\n[size:3,3]\n".toList
  have hfault : (compile text).fault = none := by decide +kernel
  have hcompile : compile text = .done (compile text).state := Attempt.eq_done_iff.2 ⟨rfl, hfault⟩
  let rows := "r0:wpwww;\nr1:wpwpw;\nr2:wpwpw;\nr3:wpppw;\nr4:wwwpw;\n".toList
  have hmade : Generator.describe text (⟨[0, 0, 0, 0, 0, 0]⟩ : Script) = .made (text ++ rows) := by
    decide +kernel
  have hrows : (compile (text ++ rows)).fault ≠ none := by decide +kernel
  exact ⟨text, _, _, hcompile, by decide +kernel, by decide +kernel, by decide +kernel,
    by decide +kernel, hmade, hrows⟩

end Document

end Labyrinth
