import Sargam.Export.Markup
import Sargam.Export.Settings
import Sargam.Layout

/-!
# Lines of music as HTML

A fragment of a page: a style sheet, a heading, and one table for each line. A cell with which
a vibhag begins has a heavy border, and the cells of sam and khali are tinted.

* `Html.Sizes`, `Html.sizes`: the sizes of a page, as they follow from the chosen ones.
* `Html.styleSheet`: the style sheet of these sizes and the chosen colours.
* `Html.lineTable`: the table of a line.
* `Export.html`: the fragment for several lines.
-/

namespace Sargam.Export

namespace Html

/-- How an apostrophe is escaped. -/
def apostrophe : String := "&#39;"

/-- A number as data. -/
def number (n : Nat) : Piece := .data n.repr

/-! ## Style sheet -/

/-- The sizes of a page. -/
structure Sizes where
  title : Nat
  heading : Nat
  label : Nat
  number : Nat
  swar : Nat
  bol : Nat
  padding : Nat
  deriving DecidableEq, Repr

/-- Sizes follow the font size; the smaller ones stop at zero. -/
def sizes (config : ExportConfig) : Sizes where
  title := config.fontSize + 8
  heading := config.fontSize + 4
  label := config.fontSize
  number := config.fontSize - 4
  swar := config.fontSize + 4
  bol := config.fontSize - 2
  padding := config.cellPadding + 4

/-- The style sheet. -/
def styleSheet (sizes : Sizes) (config : ExportConfig) : Markup := [
  .fixed ("\n  .notation-container \x7b font-family: 'Noto Sans Devanagari', 'Segoe UI', Arial, "
    ++ "sans-serif; padding: 20px; max-width: 100%; \x7d"
    ++ "\n  .notation-title \x7b font-size: "),
  number sizes.title,
  .fixed ("px; font-weight: bold; text-align: center; margin-bottom: 10px; \x7d"
    ++ "\n  .taal-name \x7b font-size: "),
  number sizes.heading,
  .fixed ("px; text-align: center; color: #666; margin-bottom: 20px; \x7d"
    ++ "\n  .line-label \x7b font-size: "),
  number sizes.label,
  .fixed ("px; font-weight: bold; color: #333; margin: 15px 0 5px 0; padding: 5px; "
    ++ "background-color: #e8e8e8; border-radius: 4px; \x7d"
    ++ "\n  .notation-table \x7b border-collapse: collapse; width: 100%; "
    ++ "margin: 0 auto 20px auto; \x7d"
    ++ "\n  .notation-table td \x7b border: 1px solid "),
  .data config.borderColor,
  .fixed "; padding: ",
  number sizes.padding,
  .fixed "px; text-align: center; font-size: ",
  number sizes.label,
  .fixed "px; min-width: 60px; \x7d\n  .vibhag-start \x7b border-left: ",
  number config.vibhagBorderWidth,
  .fixed "px solid ",
  .data config.borderColor,
  .fixed " !important; \x7d\n  .matra-number \x7b background-color: ",
  .data config.headerBgColor,
  .fixed "; font-size: ",
  number sizes.number,
  .fixed "px; color: #666; \x7d\n  .symbol-row \x7b background-color: ",
  .data config.headerBgColor,
  .fixed "; font-weight: bold; \x7d\n  .symbol-sam \x7b color: ",
  .data config.samColor,
  .fixed "; \x7d\n  .symbol-khali \x7b color: ",
  .data config.khaliColor,
  .fixed "; \x7d\n  .swar-cell \x7b background-color: ",
  .data config.cellBgColor,
  .fixed "; font-size: ",
  number sizes.swar,
  .fixed ("px; vertical-align: middle; font-weight: bold; \x7d"
    ++ "\n  .swar-sam \x7b background-color: #ffeaea; \x7d"
    ++ "\n  .swar-khali \x7b background-color: #eaf4ff; \x7d"
    ++ "\n  .bol-row \x7b font-size: "),
  number sizes.bol,
  .fixed "px; color: #888; font-style: italic; \x7d\n"]

/-! ## Cells -/

/-- A cell of a table: its classes and its text. -/
structure TableCell where
  classes : List String
  text : String

/-- The classes of a cell as the value of its attribute; an empty class is left out. -/
def classList (classes : List String) : String :=
  " ".intercalate (classes.filter fun c => !c.isEmpty)

/-- A cell as markup. -/
def TableCell.markup (cell : TableCell) : Markup :=
  Markup.element "td" [("class", classList cell.classes)] [.data cell.text]

/-- A text, or the blank that does not break in place of an empty one. -/
def orBlank (text : String) : String := if text.isEmpty then "\u00a0" else text

/-- The class of a cell with which a vibhag begins. -/
def vibhagClass (l : Layout) (c : Layout.Cell) : String :=
  if l.vibhags.any (fun v => v.startMatra == c.matra) then "vibhag-start" else ""

/-- The class of a glyph. -/
def symbolClass : Option Marker → String
  | some .sam => "symbol-sam"
  | some .khali => "symbol-khali"
  | _ => ""

/-- The class of the music text under a mark. -/
def swarClass : Option Marker → String
  | some .sam => "swar-sam"
  | some .khali => "swar-khali"
  | _ => ""

/-- The cell with the number of a matra. -/
def matraCell (l : Layout) (c : Layout.Cell) : TableCell := ⟨[vibhagClass l c], c.matra.repr⟩

/-- The cell with the glyph of a matra. -/
def symbolCell (l : Layout) (c : Layout.Cell) : TableCell :=
  ⟨[vibhagClass l c, symbolClass c.marker], orBlank c.symbol⟩

/-- The cell with the music text of a matra. -/
def swarCell (l : Layout) (c : Layout.Cell) : TableCell :=
  ⟨[vibhagClass l c, "swar-cell", swarClass c.marker], orBlank c.rendered⟩

/-- The cell with the drum syllable of a matra. -/
def bolCell (l : Layout) (c : Layout.Cell) : TableCell :=
  ⟨[vibhagClass l c], orBlank (c.bol.getD "")⟩

/-! ## Tables -/

/-- A row of a table. -/
def tableRow (attributes : List (String × String)) (cells : List TableCell) : Markup :=
  .fixed "    " :: (Markup.element "tr" attributes (cells.flatMap TableCell.markup)
    ++ [.fixed "\n"])

/-- The row of a kind of cell for a line. -/
def lineRow (l : Layout) (attributes : List (String × String))
    (cell : Layout → Layout.Cell → TableCell) : Markup :=
  tableRow attributes (l.cells.map (cell l))

/-- Whether a line has a row of drum syllables. -/
def showsBols (config : ExportConfig) (l : Layout) : Bool :=
  config.includeBolRow && l.cells.any fun c => c.bol.isSome

/-- The rows of a line. -/
def lineRows (config : ExportConfig) (l : Layout) : Markup :=
  (if config.includeMatraNumbers then lineRow l [("class", "matra-number")] matraCell else [])
    ++ lineRow l [("class", "symbol-row")] symbolCell
    ++ lineRow l [] swarCell
    ++ (if showsBols config l then lineRow l [("class", "bol-row")] bolCell else [])

/-- A line on its own, indented by two spaces. -/
def block (name className : String) (body : Markup) : Markup :=
  .fixed "  " :: (Markup.element name [("class", className)] body ++ [.fixed "\n"])

/-- The label and the table of a line. -/
def lineTable (config : ExportConfig) (lineNumber : Nat) (l : Layout) : Markup :=
  block "div" "line-label" [.fixed "Line ", number lineNumber]
    ++ block "table" "notation-table" (.fixed "\n" :: (lineRows config l ++ [.fixed "  "]))

/-- The labels and tables of lines, the first of which has the given number. -/
def lineTables (config : ExportConfig) (lineNumber : Nat) : List Layout → Markup
  | [] => []
  | l :: rest => lineTable config lineNumber l ++ lineTables config (lineNumber + 1) rest

/-! ## Pages -/

/-- The title, unless it is empty. -/
def title (config : ExportConfig) : Markup :=
  if config.title.isEmpty then [] else block "div" "notation-title" [.data config.title]

/-- The name of the taal and the extent of the piece, if it is wanted. -/
def taalHeading (config : ExportConfig) (first : Layout) (lineCount : Nat) : Markup :=
  if config.includeTaalName then
    block "div" "taal-name"
      [.data s!"{first.taalDisplayName} ({first.totalMatras} Matras) - {lineCount} Line(s)"]
  else []

/-- The fragment for lines of which the given one is the first. -/
def page (sizes : Sizes) (config : ExportConfig) (first : Layout) (layouts : List Layout) :
    Markup :=
  Markup.element "style" [] (styleSheet sizes config)
    ++ .fixed "\n" :: Markup.element "div" [("class", "notation-container")]
      (.fixed "\n" :: (title config ++ taalHeading config first layouts.length
        ++ lineTables config 1 layouts))
    ++ [.fixed "\n"]

end Html

/-- Why there is nothing to write. -/
inductive ExportFault where
  | nothingToExport
  deriving DecidableEq, Repr

/-- The wording of an export fault. -/
def ExportFault.message : ExportFault → String
  | .nothingToExport => "nothing to export"

/-- Lines of music as HTML. -/
def html (config : ExportConfig) : List Layout → Except ExportFault String
  | [] => .error .nothingToExport
  | first :: rest =>
    .ok (Markup.write Html.apostrophe
      (Html.page (Html.sizes config) config first (first :: rest)))

end Sargam.Export
