import Sargam.Export.Html

/-!
# Pages from a template

A page can also be written by filling in a template. A template names the values that it takes. A
name stands for the value in the innermost record that has one, so the records of a list can hide
what the records around them say. Blocks are left out or repeated as their value says, and texts
are escaped once, when they are written.

* `Template.Value`, `Template.Fields`: values, and records of values with names.
* `Template.Part`, `Template.render`: the parts of a template, and what they are written as.
* `Html.template`: the template of a page.
* `Html.context`: the record for the page of layouts.
-/

namespace Sargam.Export

namespace Template

/-! ## Templates -/

/-- What a name can stand for: a text, something that holds or does not, or records. -/
inductive Value where
  | text (text : String)
  | flag (holds : Bool)
  | list (items : List (List (String × Value)))

/-- A record of values with names. -/
abbrev Fields := List (String × Value)

inductive Part where
  | fixed (text : String)
  | value (name : String)
  /-- Parts that stand once if the value of the name holds, and once for each of its records. -/
  | block (name : String) (body : List Part)

/-- The value of a name among records, the innermost of which comes first. -/
def find? (scopes : List Fields) (name : String) : Option Value :=
  scopes.findSome? (List.lookup name)

/-- Only texts are written as values. -/
def writeValue (apostrophe : String) : Option Value → List Char
  | some (.text text) => Markup.escape apostrophe text
  | _ => []

/-- The records that are known each time the parts of a block are written. -/
def blockScopes (scopes : List Fields) : Option Value → List (List Fields)
  | some (.flag true) => [scopes]
  | some (.list items) => items.map fun item => item :: scopes
  | _ => []

mutual

def renderPart (apostrophe : String) : Part → List Fields → List Char
  | .fixed text, _ => text.toList
  | .value name, scopes => writeValue apostrophe (find? scopes name)
  | .block name body, scopes =>
    (blockScopes scopes (find? scopes name)).flatMap fun scopes => render apostrophe body scopes

/-- The characters that parts are written as. -/
def render (apostrophe : String) : List Part → List Fields → List Char
  | [], _ => []
  | part :: rest, scopes => renderPart apostrophe part scopes ++ render apostrophe rest scopes

end

/-- The parts of a text whose data are values with the given names in order. -/
def ofMarkup : Markup → List String → List Part
  | .fixed text :: rest, names => .fixed text :: ofMarkup rest names
  | .data _ :: rest, name :: names => .value name :: ofMarkup rest names
  | _, _ => []

end Template

namespace Html

open Template (Fields Part Value)

/-! ## The template of a page -/

/-- The names of the data of a style sheet. -/
def styleNames : List String :=
  ["title_size", "heading_size", "font_size", "border_color", "padding", "font_size",
    "vibhag_border_width", "border_color", "header_bg_color", "small_size", "header_bg_color",
    "sam_color", "khali_color", "cell_bg_color", "swar_size", "bol_size"]

def styleTemplate : List Part := Template.ofMarkup (styleSheet (sizes {}) {}) styleNames

def cellTemplate : List Part :=
  [.fixed "<td class=\"", .value "classes", .fixed "\">", .value "text", .fixed "</td>"]

/-- A row that is written once for each record of its name, of which there is one at most. -/
def rowTemplate (name opening : String) : Part :=
  .block name [.fixed opening, .block "cells" cellTemplate, .fixed "</tr>\n"]

def lineTemplate : List Part := [
  .fixed "  <div class=\"line-label\">Line ",
  .value "number",
  .fixed "</div>\n  <table class=\"notation-table\">\n",
  rowTemplate "matra_row" "    <tr class=\"matra-number\">",
  .fixed "    <tr class=\"symbol-row\">",
  .block "symbol_row" cellTemplate,
  .fixed "</tr>\n    <tr>",
  .block "swar_row" cellTemplate,
  .fixed "</tr>\n",
  rowTemplate "bol_row" "    <tr class=\"bol-row\">",
  .fixed "  </table>\n"]

/-- A heading that is written if the value of its first name holds. -/
def headingTemplate (name opening valueName : String) : Part :=
  .block name [.fixed opening, .value valueName, .fixed "</div>\n"]

def template : List Part :=
  .fixed "<style>" :: (styleTemplate ++ [
    .fixed "</style>\n<div class=\"notation-container\">\n",
    headingTemplate "has_title" "  <div class=\"notation-title\">" "title",
    headingTemplate "has_taal_heading" "  <div class=\"taal-name\">" "taal_heading",
    .block "lines" lineTemplate,
    .fixed "</div>\n"])

/-! ## Records -/

def cellFields (cell : TableCell) : Fields :=
  [("text", .text cell.text), ("classes", .text (classList cell.classes))]

def cellsValue (l : Layout) (cell : Layout → Layout.Cell → TableCell) : Value :=
  .list (l.cells.map fun c => cellFields (cell l c))

/-- A row that can be left out, as a list of at most one row. -/
def rowValue (wanted : Bool) (cells : Value) : Value :=
  .list (if wanted then [[("cells", cells)]] else [])

def lineFields (config : ExportConfig) (lineNumber : Nat) (l : Layout) : Fields := [
  ("number", .text lineNumber.repr),
  ("matra_row", rowValue config.includeMatraNumbers (cellsValue l matraCell)),
  ("symbol_row", cellsValue l symbolCell),
  ("swar_row", cellsValue l swarCell),
  ("bol_row", rowValue (showsBols config l) (cellsValue l bolCell))]

/-- The record for lines of which the given one is the first. -/
def context (config : ExportConfig) (first : Layout) (layouts : List Layout) : Fields := [
  ("has_title", .flag (!config.title.isEmpty)),
  ("title", .text config.title),
  ("has_taal_heading", .flag config.includeTaalName),
  ("taal_heading", .text
    s!"{first.taalDisplayName} ({first.totalMatras} Matras) - {layouts.length} Line(s)"),
  ("font_size", .text (sizes config).label.repr),
  ("title_size", .text (sizes config).title.repr),
  ("heading_size", .text (sizes config).heading.repr),
  ("small_size", .text (sizes config).number.repr),
  ("swar_size", .text (sizes config).swar.repr),
  ("bol_size", .text (sizes config).bol.repr),
  ("padding", .text (sizes config).padding.repr),
  ("vibhag_border_width", .text config.vibhagBorderWidth.repr),
  ("border_color", .text config.borderColor),
  ("sam_color", .text config.samColor),
  ("khali_color", .text config.khaliColor),
  ("header_bg_color", .text config.headerBgColor),
  ("cell_bg_color", .text config.cellBgColor),
  ("lines", .list ((layouts.zipIdx 1).map fun (l, lineNumber) =>
    lineFields config lineNumber l))]

end Html

end Sargam.Export
