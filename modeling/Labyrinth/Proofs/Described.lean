import Labyrinth.Proofs.Composed
import Labyrinth.Proofs.Openings
import Labyrinth.Proofs.Sizes

/-!
# Settings become a document

From a block of settings to the document with a maze there are five steps: the size is
read, the maze is generated, its rows are written, they are put behind the block, and
the whole is compiled. Where the block compiles and states one size, the steps fit: the
size that is read is that of the grid, the generator is handed width and height in its
own order and makes a maze with the sides of the grid, and such a maze can be written
over it.
-/

namespace Labyrinth

namespace Document

/-- A block that compiles and states one size is read as the size of its grid. -/
theorem readSize_of_single {settings : Text} {d : Draft} (h : compile settings = .done d)
    (hsingle : (sizes settings).length = 1) :
    0 < d.grid.height ∧ Generator.readSize settings = .ok (d.grid.height, d.grid.width) := by
  obtain ⟨size, hsize⟩ := List.length_eq_one_iff.1 hsingle
  have hlines : (Text.lines settings).filterMap size? = [size] := hsize
  have hpos := height_pos_of_sizes h (by rw [hlines]; exact List.cons_ne_nil _ _)
  have hlast := size_of_compileLines h hpos
  have hread := findSize_of_compileLines h 1
  rw [hlines] at hlast hread
  rw [List.getLast?_singleton, Option.some.injEq] at hlast
  rw [Generator.readSize, hread, hlast]
  exact ⟨hpos, rfl⟩

variable {σ : Type} [Source σ] {settings : Text} {source : σ} {d : Draft}

theorem maze_of_small {width height : Int} (h : height < 3 ∨ width < 3) :
    (Generator.generate width height source).maze = .ok none := by
  unfold Generator.generate
  rw [if_pos h.symm]

/-- What is made of a block whose size has been read. -/
theorem describe_eq {height width : Nat} {result : Option Maze}
    (hread : Generator.readSize settings = .ok (height, width))
    (hmade : (Generator.generate width height source).maze = .ok result) :
    Generator.describe settings source =
      match result with
      | none => .tooSmall
      | some m => .made (m.compose settings) := by
  unfold Generator.describe
  simp only [hread, hmade]
  cases result <;> rfl

/-- Whatever is drawn, a block of settings that compiles and states one size is either too small
for a maze, or becomes a document with one. The document compiles to what the block compiles to
alone, except that its cells are those of the generated maze with entrance and exit opened. -/
theorem describe_of_compile {result : Option Maze} (h : compile settings = .done d)
    (hsingle : (sizes settings).length = 1)
    (hmade : (Generator.generate d.grid.width d.grid.height source).maze = .ok result) :
    (d.grid.height < 3 ∨ d.grid.width < 3 → Generator.describe settings source = .tooSmall) ∧
    (3 ≤ d.grid.height → 3 ≤ d.grid.width → ∃ m made e, result = some m ∧
      Generator.describe settings source = .made made ∧ compile made = .done e ∧
      e = { d with description := { d.description with grid := e.grid } } ∧
      e.grid.HasSides d.grid.height d.grid.width ∧
      ∀ row col, row < d.grid.height → col < d.grid.width →
        e.grid.cell? row col = some (
          if m.isOpen row col = true ∨ d.description.entrance = some ⟨row, col⟩ ∨
              d.description.exit = some ⟨row, col⟩ then .path
          else .wall)) := by
  obtain ⟨hpos, hread⟩ := readSize_of_single h hsingle
  have hdescribe := describe_eq hread hmade
  refine ⟨fun hsmall => ?_, fun hheight hwidth => ?_⟩
  · have hnone : (Generator.generate d.grid.width d.grid.height source).maze = .ok none :=
      maze_of_small (by omega)
    obtain rfl : none = result := Except.ok.inj (hnone.symm.trans hmade)
    exact hdescribe
  · obtain ⟨m, rfl⟩ := Generator.exists_maze_of_generate (by omega) (by omega) hmade
    obtain ⟨_, first, last, -, -, hopened⟩ := Generator.exists_opened_of_generate hmade
    have hsides : m.HasSides d.grid.height d.grid.width := hopened.sides
    obtain ⟨blanks, hblanks, hlines⟩ := Maze.lines_compose settings m
    obtain ⟨e, he, hrest⟩ := compileLines_append_rowLines h hpos hsides hblanks
    exact ⟨m, m.compose settings, e, rfl, hdescribe, by rw [compile, hlines]; exact he, hrest⟩

/-- Five rows of six. The block opens two cells of the last column, an entrance and the end of a
path, and visits both ends of the path. Behind the maze only the entrance is still open there. -/
theorem describe_of_compile_five_by_six :
    ∃ (settings made : Text) (e : Draft), sizes settings = [(5, 6)] ∧
      (compile settings).state.grid.cell? 2 5 = some .path ∧
      Generator.describe settings (⟨[0, 0, 1, 0, 0, 0, 1]⟩ : Script) = .made made ∧
      compile made = .done e ∧ e.description.visits = (compile settings).state.description.visits ∧
      e.grid.cell? 0 1 = some .path ∧ e.grid.cell? 1 5 = some .path ∧
      e.grid.cell? 2 5 = some .wall := by
  let settings :=
    "[version:1.0]\n[Size: 5,6]\n[entrance:c(1,5)]\nP0:c(2,4)r;\nv:p(0,0,1);\nr2:pp;".toList
  obtain ⟨hfault, hheight, hwidth, hcell, hentrance, hexit⟩ :
      (compile settings).fault = none ∧ (compile settings).state.grid.height = 5 ∧
        (compile settings).state.grid.width = 6 ∧
        (compile settings).state.grid.cell? 2 5 = some .path ∧
        (compile settings).state.description.entrance = some ⟨1, 5⟩ ∧
        (compile settings).state.description.exit = none := by
    decide +kernel
  have hcompile : compile settings = .done (compile settings).state :=
    Attempt.eq_done_iff.2 ⟨rfl, hfault⟩
  have hsizes : sizes settings = [(5, 6)] := by decide +kernel
  let m : Maze := .ofLists
    [[false, true, false, false, false, false],
      [false, true, true, true, true, false],
      [false, true, false, false, false, false],
      [false, true, true, true, true, false],
      [false, false, false, false, true, false]]
  have hmade : (Generator.generate (compile settings).state.grid.width
      (compile settings).state.grid.height (⟨[0, 0, 1, 0, 0, 0, 1]⟩ : Script)).maze =
        .ok (some m) := by
    rw [hheight, hwidth]
    decide +kernel
  obtain ⟨m', made, e, hm, hdescribe, he, heq, -, hcells⟩ :=
    (describe_of_compile hcompile (by rw [hsizes]; rfl) hmade).2 (by omega) (by omega)
  obtain rfl := Option.some.inj hm
  rw [hheight, hwidth, hentrance, hexit] at hcells
  exact ⟨settings, made, e, hsizes, hcell, hdescribe, he, by rw [heq],
    (hcells 0 1 (by decide) (by decide)).trans (by decide),
    (hcells 1 5 (by decide) (by decide)).trans (by decide),
    (hcells 2 5 (by decide) (by decide)).trans (by decide)⟩

end Document

end Labyrinth
