import Sargam.Layout
import Sargam.Text.Visible

/-!
# Text tables

Lines of music as plain text: for each line three rows, in which every cell takes the same
number of visible columns.

* `Export.tableRow`: one row of a line.
* `Export.table`: the rows of all lines, under a heading if one is wanted.
-/

namespace Sargam.Export

/-- The visible columns of a cell. -/
def tableCellWidth : Nat := 8

/-- A line across the page. -/
def rule (c : Char) : String := String.ofList (List.replicate 70 c)

/-- A row of a line, with the text of each cell in the middle of its columns. -/
def tableRow (l : Layout) (cellText : Layout.Cell → String) : String :=
  l.row fun c => Text.centre tableCellWidth (cellText c)

/-- The rows of a line. -/
def tableLine (number : Nat) (l : Layout) : List String := [
  s!"--- Line {number} ---",
  "Matra:  " ++ tableRow l fun c => c.matra.repr,
  "Symbol: " ++ tableRow l Layout.Cell.symbol,
  "Swar:   " ++ tableRow l Layout.Cell.displayText,
  ""]

/-- The rows of lines, the first of which has the given number. -/
def tableLines (number : Nat) : List Layout → List String
  | [] => []
  | l :: rest => tableLine number l ++ tableLines (number + 1) rest

/-- The heading, which describes the first line. -/
def tableHeading (first : Layout) (lineCount : Nat) : List String := [
  rule '=',
  first.taalDisplayName,
  s!"Total Matras: {first.totalMatras} | Vibhags: {first.vibhagStructure.length} | "
    ++ s!"Lines: {lineCount}",
  rule '=',
  ""]

/-- What the glyphs mean. -/
def tableLegend : List String := [
  rule '-',
  "Legend: X = Sam (first beat), 0 = Khali (empty beat)"]

/-- Lines of music as a text table; of no lines there is no table. -/
def table (layouts : List Layout) (heading : Bool) : String :=
  match layouts with
  | [] => ""
  | first :: _ =>
    "\n".intercalate ((if heading then tableHeading first layouts.length else [])
      ++ tableLines 1 layouts ++ tableLegend)

end Sargam.Export
