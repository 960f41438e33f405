import Labyrinth.Color
import Labyrinth.OutputMode

/-!
# Settings

How a maze is to be drawn and emitted. The compiler only collects these values;
the drawing reads the placeholders and whether indices are shown.
-/

namespace Labyrinth

/-- The options of a description, each with the value it has unless a statement sets it. -/
structure Settings where
  outputMode : OutputMode := .image .png
  /-- The side of a cell in pixels. -/
  unit : Int := 25
  showGrid : Bool := true
  showIndices : Bool := true
  pathChar : Text := [' ']
  wallChar : Text := ['#']
  visitedChar : Text := ['~']
  positionChar : Text := ['*']
  pathInt : Int := 1
  wallInt : Int := 0
  visitedInt : Int := 2
  positionInt : Int := 3
  pathColor : Color := .white
  wallColor : Color := .black
  gridColor : Color := .white
  positionColor : Color := .scarlet
  visitedSprite : Option Text := none
  positionSprite : Option Text := none
  deriving DecidableEq, Repr

end Labyrinth
