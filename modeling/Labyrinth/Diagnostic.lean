/-!
# Diagnostics

What is reported about a document that does not compile: the kind of the failure,
the reason, and the line at fault where one is known. Kinds form a small tree, so
that a reader who only cares that a statement is malformed need not know that an
unexpected statement is one.
-/

namespace Labyrinth

/-- The kinds of failure. `description` is the most general one. -/
inductive Kind where
  | description
  | versionMismatch
  | undefinedSize
  | malformed
  | unexpectedStatement
  | unresolvedReference
  | outOfRange
  deriving DecidableEq, Repr

namespace Kind

def parent : Kind → Option Kind
  | description => none
  | unexpectedStatement => some malformed
  | versionMismatch | undefinedSize | malformed | unresolvedReference | outOfRange =>
    some description

/-- The kinds above a kind, nearest first. -/
def ancestors : Kind → List Kind
  | description => []
  | unexpectedStatement => [malformed, description]
  | versionMismatch | undefinedSize | malformed | unresolvedReference | outOfRange =>
    [description]

theorem ancestors_eq (k : Kind) :
    k.ancestors = match k.parent with
      | none => []
      | some p => p :: p.ancestors := by
  cases k <;> rfl

end Kind

/-- A failure, with the line at fault where one is known. -/
structure Diagnostic where
  kind : Kind
  reason : String
  line : Option Int
  deriving DecidableEq, Repr

namespace Diagnostic

def text (d : Diagnostic) : String :=
  match d.line with
  | none => d.reason
  | some n => s!"Line {n}: {d.reason}"

def atLine (d : Diagnostic) (n : Int) : Diagnostic :=
  { d with line := some n }

end Diagnostic

end Labyrinth
