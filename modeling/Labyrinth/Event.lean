/-!
# Event levels

What happens during a compilation or a generation is told as a sequence of events.
Each kind of event has a level and a text; the reader of a log chooses by level.
-/

namespace Labyrinth

inductive Level where
  | debug | info
  deriving DecidableEq, Repr

def Level.name : Level → String
  | debug => "DEBUG"
  | info => "INFO"

end Labyrinth
