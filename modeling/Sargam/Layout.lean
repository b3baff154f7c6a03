import Sargam.Cell
import Sargam.Taal.Vibhag

/-!
# Layouts

A layout is one line of music as it is shown: its vibhags, and in each of them the cells with
their number, mark, drum syllable and music text. Exports are made from layouts alone, so a
layout is plain data that need not agree with any taal.

* `Layout.Cell`, `Layout.Vibhag`, `Layout`: the parts of a line as it is shown.
* `Layout.cells`: the cells of a line in order.
* `Layout.toLine`: the line as a single line of text.
-/

namespace Sargam

namespace Layout

/-- A cell as it is shown. -/
structure Cell where
  matra : Nat
  marker : Option Marker
  /-- The glyph above the cell. -/
  symbol : String
  bol : Option String
  /-- The music text of the cell. -/
  rendered : String
  isEmpty : Bool
  deriving DecidableEq, Repr

/-- The cells of one vibhag. -/
structure Vibhag where
  number : Nat
  startMatra : Nat
  endMatra : Nat
  cells : List Cell
  deriving DecidableEq, Repr

/-- The text of a cell in a row of text, where a cell without text shows the sustain sign. -/
def Cell.displayText (c : Cell) : String :=
  if c.rendered.isEmpty then CellContent.sustainSign else c.rendered

end Layout

/-- A line of music as it is shown. -/
structure Layout where
  taalName : String
  taalDisplayName : String
  totalMatras : Nat
  vibhagStructure : List Nat
  vibhags : List Layout.Vibhag
  deriving DecidableEq, Repr

namespace Layout

/-- The cells of a line in order. -/
def cells (l : Layout) : List Cell := l.vibhags.flatMap Vibhag.cells

/-- A row of text: a text for each cell, with a space between cells and a bar between
vibhags. -/
def row (l : Layout) (cellText : Cell → String) : String :=
  " | ".intercalate (l.vibhags.map fun v => " ".intercalate (v.cells.map cellText))

/-- The line as a single line of text. -/
def toLine (l : Layout) : String := l.row Cell.displayText

end Layout

end Sargam
