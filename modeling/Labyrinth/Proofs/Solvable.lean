import Labyrinth.Chance.Script
import Labyrinth.Proofs.Border
import Labyrinth.Proofs.Connected
import Labyrinth.Proofs.Flood

/-!
# Every generated maze is connected and can be solved

Division leaves the maze connected, and the two openings in the border are each
next to an open cell. So the finished maze is connected as a whole, border cells
included, and the flood from the entrance finds the exit.
-/

namespace Labyrinth

namespace Maze

theorem Joined.mono {m n : Maze} (hle : ∀ c, m.Open c → n.Open c) {a b : Coordinate}
    (h : m.Joined a b) : n.Joined a b :=
  Relation.ReflTransGen.mono (fun _ _ hp => ⟨hle _ hp.1, hle _ hp.2.1, hp.2.2⟩) a b h

/-- Opening a cell next to an open one leaves a connected maze connected. -/
theorem connected_put_true {m : Maze} {row col i j : Nat} (hm : m.Connected)
    (ho : m.isOpen i j = true)
    (hadj : (row = i ∧ (col + 1 = j ∨ j + 1 = col)) ∨ (col = j ∧ (row + 1 = i ∨ i + 1 = row))) :
    (m.put row col true).Connected := by
  have hle : ∀ c, m.Open c → (m.put row col true).Open c := by
    rintro c ⟨k, l, rfl, hkl⟩
    exact open_natCast.2 (isOpen_put_true.2 (.inl hkl))
  -- Every open cell, the new one among them, is joined to the old neighbour of the new one.
  have hjoined : ∀ c, (m.put row col true).Open c → (m.put row col true).Joined c ⟨i, j⟩ := by
    rintro c ⟨k, l, rfl, hkl⟩
    rcases isOpen_put_true.1 hkl with hold | ⟨rfl, rfl, -⟩
    · exact (hm _ _ (open_natCast.2 hold) (open_natCast.2 ho)).mono hle
    · exact joined_of_isAdjacent hkl (open_natCast.1 (hle _ (open_natCast.2 ho))) hadj
  intro a b ha hb
  exact (hjoined a ha).trans (hjoined b hb).symm

theorem connected_openBorder {m : Maze} {height width : Nat} (hh : 3 ≤ height) (hw : 3 ≤ width)
    (hc : m.KeepsCorners height width) (hm : m.Connected) :
    (m.openBorder height width).Connected := by
  obtain ⟨first, last, hfirst, hlast, heq⟩ := openBorder_eq hh hw hc
  rw [heq]
  have htop : (m.put 0 first true).Connected :=
    connected_put_true hm hfirst.isOpen (by omega)
  exact connected_put_true htop (isOpen_put_true.2 (.inl hlast.isOpen)) (by omega)

/-- A connected maze with an open cell in its top and in its bottom row can be solved. -/
theorem isSolvable_of_connected {m : Maze} {height width i j : Nat}
    (hm : m.HasSides height width) (hc : m.Connected) (htop : m.isOpen 0 i = true)
    (hbottom : m.isOpen (m.height - 1) j = true) : m.isSolvable = .ok true := by
  obtain ⟨entrance, hentrance, hin⟩ := entrance_of_isOpen htop
  obtain ⟨exit, hexit, hout⟩ := exit_of_isOpen hbottom
  obtain ⟨found, hfound, hiff⟩ := isSolvable_of_openings hm hentrance hexit hin
  have hpos : 0 < m.height := by
    have := lt_of_isOpen hm htop
    have := hm.height_eq
    omega
  have hgoal : m.Open ⟨m.height - 1, exit⟩ := by
    rw [show ((m.height : Int) - 1) = ((m.height - 1 : Nat) : Int) by omega]
    exact open_natCast.2 hout
  rw [hfound, hiff.2 (hc _ _ (open_natCast.2 hin) hgoal)]

end Maze

/-- Whatever is drawn, a maze that is generated is connected, its openings included, and leads
from its entrance to its exit. -/
theorem Generator.connected_of_generate {σ : Type} [Source σ] {width height : Int} {source : σ}
    {m : Maze} (h : (generate width height source).maze = .ok (some m)) :
    m.Connected ∧ m.isSolvable = .ok true := by
  obtain ⟨hh, hw, e, hsteps, -, rfl⟩ := exists_divided_of_generate h
  have hh : 3 ≤ height.toNat := by omega
  have hw : 3 ≤ width.toNat := by omega
  have hfresh := Division.sound_fresh hh hw source
  have hsound := Division.sound_of_steps hfresh hsteps
  have hc := Division.connected_of_steps hfresh (Maze.connected_bordered _ _) hsteps
  have hcorners := Division.keepsCorners_of_steps hfresh (Maze.keepsCorners_bordered hh hw) hsteps
  have hconnected := Maze.connected_openBorder hh hw hcorners hc
  refine ⟨hconnected, ?_⟩
  obtain ⟨first, last, hfirst, hlast, heq⟩ := Maze.openBorder_eq hh hw hcorners
  have hsides : (e.maze.openBorder height.toNat width.toNat).HasSides height.toNat width.toNat := by
    rw [heq]
    exact Maze.hasSides_put (Maze.hasSides_put hsound.sides ..) ..
  have hfirst' := hfirst.lt
  have hlast' := hlast.lt
  refine Maze.isSolvable_of_connected (i := first) (j := last) hsides hconnected ?_ ?_
  · rw [heq, Maze.isOpen_put_true, Maze.isOpen_put_true]
    exact .inl (.inr ⟨rfl, rfl, hsound.sides.isSome_cell?_iff.2 (by omega)⟩)
  · rw [hsides.height_eq, heq, Maze.isOpen_put_true]
    exact .inr ⟨rfl, rfl, (Maze.hasSides_put hsound.sides ..).isSome_cell?_iff.2 (by omega)⟩

/-- Five rows of seven: the first pair of walls is drawn again, since one of them would stand two
cells in from the left. -/
theorem Generator.connected_of_generate_seven_by_five :
    ∃ m : Maze, (generate 7 5 (⟨[1, 0, 2, 0, 1, 0, 0, 0, 0]⟩ : Script)).maze = .ok (some m) ∧
      m.Connected ∧ m.isSolvable = .ok true := by
  have h : (generate 7 5 (⟨[1, 0, 2, 0, 1, 0, 0, 0, 0]⟩ : Script)).maze =
      .ok (some (.ofLists
        [[false, true, false, false, false, false, false],
          [false, true, true, true, true, true, false],
          [false, true, false, false, false, false, false],
          [false, true, true, true, true, true, false],
          [false, false, false, false, false, true, false]])) := by
    decide +kernel
  exact ⟨_, h, connected_of_generate h⟩

end Labyrinth
