import Labyrinth.Attempt
import Labyrinth.Chance
import Labyrinth.Chance.Recorded
import Labyrinth.Chance.Script
import Labyrinth.Chance.Twister
import Labyrinth.Color
import Labyrinth.Coordinate
import Labyrinth.Coordinate.Literal
import Labyrinth.Description
import Labyrinth.Diagnostic
import Labyrinth.Division
import Labyrinth.Division.Cut
import Labyrinth.Document
import Labyrinth.Document.Action
import Labyrinth.Document.Draft
import Labyrinth.Document.Event
import Labyrinth.Document.Fault
import Labyrinth.Document.Origin
import Labyrinth.Document.Setting
import Labyrinth.Document.Statement
import Labyrinth.Drawing
import Labyrinth.Drawing.Glyph
import Labyrinth.Drawing.Style
import Labyrinth.Drawing.Terminal
import Labyrinth.Event
import Labyrinth.Generator
import Labyrinth.Generator.Configuration
import Labyrinth.Grid
import Labyrinth.Maze
import Labyrinth.Maze.Flood
import Labyrinth.Maze.Rows
import Labyrinth.Move
import Labyrinth.Move.Clause
import Labyrinth.Move.Walk
import Labyrinth.Numeral
import Labyrinth.OutputMode
import Labyrinth.Path
import Labyrinth.Path.Registry
import Labyrinth.Settings
import Labyrinth.Table
import Labyrinth.Text
import Labyrinth.Text.Blank
import Labyrinth.Text.CaseTable
import Labyrinth.Text.Lines
import Labyrinth.Text.Lowercase
import Labyrinth.Text.Padding
import Labyrinth.Text.PrintableTable
import Labyrinth.Text.Quoted
import Labyrinth.UnknownName
import Labyrinth.Visit.Line
import Labyrinth.Visit.Shape
import Labyrinth.Visit.Sides
import Labyrinth.Word
import Labyrinth.Proofs.Passages
import Labyrinth.Proofs.Chambers
import Labyrinth.Proofs.Connected
import Labyrinth.Proofs.Flood
import Labyrinth.Proofs.Border
import Labyrinth.Proofs.Solvable
import Labyrinth.Proofs.Writes
import Labyrinth.Proofs.Drafts
import Labyrinth.Proofs.Reached
import Labyrinth.Proofs.Walks
import Labyrinth.Proofs.Registered
import Labyrinth.Proofs.Balance
import Labyrinth.Proofs.Refusals
import Labyrinth.Proofs.Reports
import Labyrinth.Proofs.Lines
import Labyrinth.Proofs.RowStatements
import Labyrinth.Proofs.Composed
import Labyrinth.Proofs.Blocks
import Labyrinth.Proofs.Failures
import Labyrinth.Proofs.Depicted
import Labyrinth.Proofs.Walls
import Labyrinth.Proofs.Draws
import Labyrinth.Proofs.Nested
import Labyrinth.Proofs.Accesses
import Labyrinth.Proofs.Areas
import Labyrinth.Proofs.Endless
import Labyrinth.Proofs.Sizes
import Labyrinth.Proofs.RangeStatements
import Labyrinth.Proofs.Representation
import Labyrinth.Proofs.Described
import Labyrinth.Proofs.Holes
import Labyrinth.Proofs.Search
import Labyrinth.Proofs.Siblings
import Labyrinth.Proofs.Literals
import Labyrinth.Proofs.Replacing
import Labyrinth.Proofs.Chains
import Labyrinth.Proofs.Origins
import Labyrinth.Proofs.Likeness
import Labyrinth.Proofs.SplitRanges
import Labyrinth.Proofs.Pieces
import Labyrinth.Proofs.Reversals
import Labyrinth.Proofs.Clauses
import Labyrinth.Proofs.ClauseFaults
import Labyrinth.Proofs.RepeatLimits
import Labyrinth.Proofs.Annotations
import Labyrinth.Proofs.History
import Labyrinth.Proofs.Effects
import Labyrinth.Proofs.Unseen
import Labyrinth.Proofs.Ink
import Labyrinth.Proofs.Swaps
import Labyrinth.Proofs.Escapes
import Labyrinth.Proofs.Joints
import Labyrinth.Proofs.Strays
import Labyrinth.Proofs.Spacing
import Labyrinth.Proofs.Palette
import Labyrinth.Proofs.PlainRows
import Labyrinth.Proofs.Replays
import Labyrinth.Proofs.RoundTrips
