import Labyrinth.Text.Blank
import Labyrinth.Text.Lowercase

/-!
# Output modes

A document says how its maze is to be emitted: as an image in one of four formats
or as an array literal in one of two programming languages, with one of three
representations of a cell. Both alphabets of names are closed, and the list of
valid modes in the refusal is the product of the two.
-/

namespace Labyrinth

inductive ImageFormat where
  | png | jpg | tif | bmp
  deriving DecidableEq, Repr

inductive CodeLanguage where
  | java | python
  deriving DecidableEq, Repr

inductive CellRepresentation where
  | int | char | boolean
  deriving DecidableEq, Repr

inductive OutputMode where
  | image (format : ImageFormat)
  | code (language : CodeLanguage) (cells : CellRepresentation)
  deriving DecidableEq, Repr

def ImageFormat.name : ImageFormat → String
  | png => "png"
  | jpg => "jpg"
  | tif => "tif"
  | bmp => "bmp"

def CodeLanguage.name : CodeLanguage → String
  | java => "java"
  | python => "python"

def CellRepresentation.name : CellRepresentation → String
  | int => "int"
  | char => "char"
  | boolean => "boolean"

structure UnknownOutputMode where
  name : Text
  deriving DecidableEq, Repr

namespace OutputMode

/-- Every mode, images first. -/
def all : List OutputMode :=
  [.image .png, .image .jpg, .image .tif, .image .bmp,
    .code .java .int, .code .java .char, .code .java .boolean,
    .code .python .int, .code .python .char, .code .python .boolean]

def name : OutputMode → String
  | image format => format.name
  | code language cells => s!"{language.name}-{cells.name}"

end OutputMode

def UnknownOutputMode.message (e : UnknownOutputMode) : String :=
  let modes := ", ".intercalate (OutputMode.all.map OutputMode.name)
  s!"Unknown output mode '{e.name.shown}'\n  Valid modes: {modes}"

namespace OutputMode

/-- The mode with a given name. The case of letters, blanks at the ends, and an underscore
in place of the hyphen do not matter. -/
def parse (text : Text) : Except UnknownOutputMode OutputMode :=
  let sought := (Text.lowercased (Text.trimmed text)).map fun c => if c = '_' then '-' else c
  match all.find? fun mode => mode.name.toList = sought with
  | some mode => .ok mode
  | none => .error ⟨text⟩

end OutputMode

end Labyrinth
