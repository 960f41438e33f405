import Labyrinth.Chance

/-!
# Scripts

A script is a list of numbers that answer the draws in order, each reduced to the
range that is asked for. Every sequence of answers a maze could be made of is some
script, so what holds for all scripts holds for chance.
-/

namespace Labyrinth

structure Script where
  answers : List Int
  deriving DecidableEq, Repr

namespace Script

/-- The next answer, reduced to the range. -/
def draw (range : Nat) (s : Script) : Option (Nat × Script) :=
  match s.answers with
  | [] => none
  | answer :: rest => some ((answer % (range : Int)).toNat, ⟨rest⟩)

instance : Source Script where
  draw := draw
  remaining s := s.answers.length
  draw_lt := by
    intro range s s' answer hr h
    unfold draw at h
    split at h
    · simp at h
    · next a rest _ =>
        obtain ⟨rfl, _⟩ := Prod.mk.inj (Option.some.inj h)
        have hlt := Int.emod_lt_of_pos a (show (0 : Int) < range by omega)
        have hnn := Int.emod_nonneg a (show (range : Int) ≠ 0 by omega)
        omega
  remaining_draw := by
    intro range s s' answer h
    unfold draw at h
    split at h
    · simp at h
    · next hs =>
        obtain ⟨_, rfl⟩ := Prod.mk.inj (Option.some.inj h)
        simp [hs]

end Script

end Labyrinth
