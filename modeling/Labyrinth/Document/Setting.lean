import Labyrinth.Document.Fault

/-!
# Settings statements

A statement `[key:value]` sets one thing: the size of the maze, a marker, or an
option. The key decides how the value is read. What is read here does not depend
on anything said earlier in the document.
-/

namespace Labyrinth

inductive SettingKey where
  | size | outputMode | unit
  | marker (m : Marker)
  | placeholderChar | placeholderInt
  | pathColor | wallColor | positionColor | gridColor
  | visitedSprite | positionSprite
  | showGrid | showIndices
  deriving DecidableEq, Repr

namespace SettingKey

def all : List SettingKey :=
  [.size, .outputMode, .unit, .marker .entrance, .marker .exit, .marker .currentPosition,
    .placeholderChar, .placeholderInt, .pathColor, .wallColor, .positionColor, .gridColor,
    .visitedSprite, .positionSprite, .showGrid, .showIndices]

def name : SettingKey → String
  | size => "size"
  | outputMode => "output-mode"
  | unit => "unit"
  | marker m => m.name
  | placeholderChar => "placeholder-char"
  | placeholderInt => "placeholder-int"
  | pathColor => "path-color"
  | wallColor => "wall-color"
  | positionColor => "position-color"
  | gridColor => "grid-color"
  | visitedSprite => "visited-sprite"
  | positionSprite => "position-sprite"
  | showGrid => "show-grid"
  | showIndices => "show-indices"

def ofName? (name : Text) : Option SettingKey :=
  all.find? fun key => key.name.toList = name

end SettingKey

inductive Setting where
  | size (height width : Nat)
  | marker (m : Marker) (point : Coordinate)
  | outputMode (mode : OutputMode)
  | unit (side : Nat)
  | chars (path wall : Char) (more : Option (Char × Char))
  | ints (path wall : Int) (more : Option (Int × Int))
  | pathColor (c : Color)
  | wallColor (c : Color)
  | positionColor (c : Color)
  | gridColor (c : Color)
  | visitedSprite (file : Text)
  | positionSprite (file : Text)
  | showGrid (shown : Bool)
  | showIndices (shown : Bool)
  deriving DecidableEq, Repr

/-- Reads integers between commas, as many as one of `counts` says. -/
def integers (counts : List Nat) (text : Text) : Except Reason (List Int) :=
  let parts := Text.fields ',' text
  if !counts.contains parts.length then .error (.integerCount counts text)
  else if !parts.all Numeral.isInteger then .error (.notIntegers text)
  else (parts.mapM Numeral.integer).mapError .longNumeral

namespace Setting

/-- Two placeholders, or four. -/
def readChars (value : Text) : Except Reason Setting :=
  match value.filter (· ≠ '"') with
  | [path, wall] => .ok (.chars path wall none)
  | [path, wall, visited, position] => .ok (.chars path wall (some (visited, position)))
  | _ => .error (.placeholderCount value)

/-- Two numbers, or four. -/
def readInts (value : Text) : Except Reason Setting :=
  match integers [2, 4] value with
  | .error r => .error r
  | .ok [path, wall] => .ok (.ints path wall none)
  | .ok [path, wall, visited, position] => .ok (.ints path wall (some (visited, position)))
  | .ok _ => .error (.integerCount [2, 4] value)

/-- Height and width, both positive. -/
def readSize (value : Text) : Except Reason Setting :=
  match integers [2] value with
  | .error r => .error r
  | .ok [height, width] =>
    if height ≤ 0 ∨ width ≤ 0 then .error (.sizeNotPositive height width)
    else .ok (.size height.toNat width.toNat)
  | .ok _ => .error (.integerCount [2] value)

def readUnit (value : Text) : Except Reason Setting :=
  match integers [1] value with
  | .error r => .error r
  | .ok [side] => if side ≤ 0 then .error (.unitNotPositive side) else .ok (.unit side.toNat)
  | .ok _ => .error (.integerCount [1] value)

def readQuoted (value : Text) : Except Reason Text :=
  match (Text.after? ['"'] value).bind (Text.before? '"') with
  | some inner => .ok inner
  | none => .error (.unquoted value)

def readColor (value : Text) : Except Reason Color :=
  (Color.parse value).mapError .color

/-- Everything but `true` is false. -/
def readFlag (value : Text) : Bool :=
  value = "true".toList

def readValue (value : Text) : SettingKey → Except Reason Setting
  | .size => readSize value
  | .outputMode => ((OutputMode.parse value).mapError .outputMode).map .outputMode
  | .unit => readUnit value
  | .marker m => ((Coordinate.parse value).mapError .coordinate).map (.marker m)
  | .placeholderChar => readChars value
  | .placeholderInt => readInts value
  | .pathColor => (readColor value).map .pathColor
  | .wallColor => (readColor value).map .wallColor
  | .positionColor => (readColor value).map .positionColor
  | .gridColor => (readColor value).map .gridColor
  | .visitedSprite => (readQuoted value).map .visitedSprite
  | .positionSprite => (readQuoted value).map .positionSprite
  | .showGrid => .ok (.showGrid (readFlag value))
  | .showIndices => .ok (.showIndices (readFlag value))

def read (line : Text) : Except Reason Setting :=
  match (Text.after? ['['] line).bind (Text.before? ']') with
  | none => .error (.unclosedSetting line)
  | some inner =>
    match Text.cut? ':' inner with
    | none => .error (.settingWithoutValue line)
    | some (key, value) =>
      match SettingKey.ofName? key with
      | none => .error (.unknownSetting key)
      | some key => readValue value key

end Setting

end Labyrinth
