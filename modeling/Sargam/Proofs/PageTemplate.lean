import Sargam.Export.Template
import Sargam.Proofs.Checked.Export
import Sargam.Proofs.PageTables

/-!
# What a page shows

A page is its template filled in. Every name in the template is found in the record that is meant:
the records of cells, rows and lines have no names in common with those around them, so no name is
hidden, and each block stands as often as there are records for it. The page that is filled in is
read as its elements, and the rows of its tables show the cells of the lines.

* `Html.render_line`, `Html.render_template`: what the template of lines and of pages is written as.
* `Html.shownRows`: the rows that the table of a line has to show.
* `html_shows_every_cell`: every line of a page has its label and the rows of its cells.
-/

namespace Sargam.Export

namespace Template

variable {apostrophe : String}

theorem render_append (parts more : List Part) (scopes : List Fields) :
    render apostrophe (parts ++ more) scopes =
      render apostrophe parts scopes ++ render apostrophe more scopes := by
  induction parts with
  | nil => rw [List.nil_append, render, List.nil_append]
  | cons part rest ih => rw [List.cons_append, render, render, ih, List.append_assoc]

/-- The data of a piece. -/
def data? : Piece → Option String
  | .data text => some text
  | _ => none

/-- Parts made of a text are written as the text if the names stand for its data. -/
theorem render_ofMarkup {markup : Markup} (htext : markup.all Piece.isText = true)
    {scopes : List Fields} {names : List String}
    (h : names.map (find? scopes) = (markup.filterMap data?).map fun text => some (.text text)) :
    render apostrophe (ofMarkup markup names) scopes =
      markup.flatMap (Markup.writePiece apostrophe) := by
  induction markup generalizing names with
  | nil => rfl
  | cons piece rest ih =>
    obtain ⟨hpiece, hrest⟩ := Bool.and_eq_true_iff.mp htext
    rw [List.flatMap_cons]
    cases piece with
    | fixed text => rw [ofMarkup, render, ih hrest h, renderPart, Markup.writePiece]
    | data text =>
      cases names with
      | nil => cases h
      | cons name names =>
        obtain ⟨hname, hnames⟩ := List.cons.inj h
        rw [ofMarkup, render, ih hrest hnames, renderPart, hname, writeValue, Markup.writePiece]
    | opening name attributes => cases hpiece
    | closing name => cases hpiece
    | single name attributes => cases hpiece

end Template

namespace Html

open Template Markup

variable {apostrophe : String} {scopes : List Fields}

theorem render_cell (cell : TableCell) (scopes : List Fields) :
    render apostrophe cellTemplate (cellFields cell :: scopes) =
      cell.markup.flatMap (writePiece apostrophe) := by
  have hclasses : find? (cellFields cell :: scopes) "classes" =
      some (.text (classList cell.classes)) := rfl
  have htext : find? (cellFields cell :: scopes) "text" = some (.text cell.text) := rfl
  simp only [cellTemplate, render, renderPart, hclasses, htext, writeValue]
  simp [TableCell.markup, Markup.element, writePiece, writeAttribute]

theorem render_cells {name : String} {l : Layout} {cell : Layout → Layout.Cell → TableCell}
    (h : find? scopes name = some (cellsValue l cell)) :
    renderPart apostrophe (.block name cellTemplate) scopes =
      ((l.cells.map (cell l)).flatMap TableCell.markup).flatMap (writePiece apostrophe) := by
  rw [renderPart, h, cellsValue, blockScopes, List.map_map, List.flatMap_map, List.flatMap_assoc,
    List.flatMap_map]
  exact List.flatMap_congr fun c _ => render_cell (cell l c) scopes

/-! ## Lines -/

theorem toList_rowEnd (apostrophe : String) : "</tr>\n".toList =
    [Piece.closing "tr", .fixed "\n"].flatMap (writePiece apostrophe) := rfl

/-- A row that can be left out. -/
theorem render_row {name opening className : String} {wanted : Bool} {l : Layout}
    {cell : Layout → Layout.Cell → TableCell}
    (hopening : opening.toList =
      [Piece.fixed "    ", .opening "tr" [("class", className)]].flatMap (writePiece apostrophe))
    (h : find? scopes name = some (rowValue wanted (cellsValue l cell))) :
    renderPart apostrophe (rowTemplate name opening) scopes =
      (if wanted then lineRow l [("class", className)] cell else []).flatMap
        (writePiece apostrophe) := by
  rw [rowTemplate, renderPart, h, rowValue]
  cases wanted with
  | false => rfl
  | true =>
    have hcells : find? ([("cells", cellsValue l cell)] :: scopes) "cells" =
        some (cellsValue l cell) := rfl
    simp only [if_true, blockScopes, List.map_singleton, List.flatMap_singleton, render,
      render_cells hcells]
    simp only [renderPart, hopening, toList_rowEnd apostrophe]
    simp [lineRow, tableRow, Markup.element]

theorem render_line (config : ExportConfig) (lineNumber : Nat) (l : Layout)
    (scopes : List Fields) :
    render apostrophe lineTemplate (lineFields config lineNumber l :: scopes) =
      (lineTable config lineNumber l).flatMap (writePiece apostrophe) := by
  have hnumber : find? (lineFields config lineNumber l :: scopes) "number" =
      some (.text lineNumber.repr) := rfl
  have hsymbol : find? (lineFields config lineNumber l :: scopes) "symbol_row" =
      some (cellsValue l symbolCell) := rfl
  have hswar : find? (lineFields config lineNumber l :: scopes) "swar_row" =
      some (cellsValue l swarCell) := rfl
  have hmatra : renderPart apostrophe (rowTemplate "matra_row" "    <tr class=\"matra-number\">")
      (lineFields config lineNumber l :: scopes) =
        (if config.includeMatraNumbers then lineRow l [("class", "matra-number")] matraCell
          else []).flatMap (writePiece apostrophe) := render_row rfl rfl
  have hbol : renderPart apostrophe (rowTemplate "bol_row" "    <tr class=\"bol-row\">")
      (lineFields config lineNumber l :: scopes) =
        (if showsBols config l then lineRow l [("class", "bol-row")] bolCell
          else []).flatMap (writePiece apostrophe) := render_row rfl rfl
  -- The fixed texts as the pieces that they stand for.
  have hlabel : "  <div class=\"line-label\">Line ".toList =
      [Piece.fixed "  ", .opening "div" [("class", "line-label")], .fixed "Line "].flatMap
        (writePiece apostrophe) := rfl
  have htable : "</div>\n  <table class=\"notation-table\">\n".toList =
      [Piece.closing "div", .fixed "\n", .fixed "  ",
        .opening "table" [("class", "notation-table")], .fixed "\n"].flatMap
        (writePiece apostrophe) := rfl
  have hfirst : "    <tr class=\"symbol-row\">".toList =
      [Piece.fixed "    ", .opening "tr" [("class", "symbol-row")]].flatMap
        (writePiece apostrophe) := rfl
  have hsecond : "</tr>\n    <tr>".toList =
      [Piece.closing "tr", .fixed "\n", .fixed "    ", .opening "tr" []].flatMap
        (writePiece apostrophe) := rfl
  have hend : "  </table>\n".toList =
      [Piece.fixed "  ", .closing "table", .fixed "\n"].flatMap (writePiece apostrophe) := rfl
  have hvalue : Markup.escape apostrophe lineNumber.repr =
      writePiece apostrophe (number lineNumber) := rfl
  simp only [lineTemplate, render, hmatra, hbol, render_cells hsymbol, render_cells hswar]
  simp only [renderPart, hnumber, writeValue, hvalue, hlabel, htable, hfirst, hsecond, hend,
    toList_rowEnd apostrophe]
  simp [lineTable, lineRows, lineRow, tableRow, block, Markup.element]

/-! ## Pages -/

theorem render_style (config : ExportConfig) (first : Layout) (layouts : List Layout) :
    render apostrophe styleTemplate [context config first layouts] =
      (styleSheet (sizes config) config).flatMap (writePiece apostrophe) := by
  have hsame : styleTemplate = ofMarkup (styleSheet (sizes config) config) styleNames := rfl
  rw [hsame]
  exact render_ofMarkup rfl rfl

/-- A heading that can be left out. -/
theorem render_heading {name valueName opening className text : String} {holds : Bool}
    (hopening : opening.toList =
      [Piece.fixed "  ", .opening "div" [("class", className)]].flatMap (writePiece apostrophe))
    (hname : find? scopes name = some (.flag holds))
    (hvalue : find? scopes valueName = some (.text text)) :
    renderPart apostrophe (headingTemplate name opening valueName) scopes =
      (if holds then block "div" className [.data text] else []).flatMap
        (writePiece apostrophe) := by
  have hclosing : "</div>\n".toList =
      [Piece.closing "div", .fixed "\n"].flatMap (writePiece apostrophe) := rfl
  rw [headingTemplate, renderPart, hname]
  cases holds with
  | false => rfl
  | true =>
    have hdata : Markup.escape apostrophe text = writePiece apostrophe (.data text) := rfl
    simp only [if_true, blockScopes, List.flatMap_singleton, render, renderPart, hvalue,
      writeValue, hdata, hopening, hclosing]
    simp [block, Markup.element]

theorem render_lines {config : ExportConfig} {lineNumber : Nat} {layouts : List Layout}
    (h : find? scopes "lines" = some (.list ((layouts.zipIdx lineNumber).map
      fun (l, lineNumber) => lineFields config lineNumber l))) :
    renderPart apostrophe (.block "lines" lineTemplate) scopes =
      (lineTables config lineNumber layouts).flatMap (writePiece apostrophe) := by
  rw [renderPart, h, blockScopes, List.map_map, List.flatMap_map]
  clear h
  induction layouts generalizing lineNumber with
  | nil => rfl
  | cons l rest ih =>
    rw [List.zipIdx_cons, List.flatMap_cons, ih, lineTables, List.flatMap_append]
    exact congrArg (· ++ _) (render_line config lineNumber l scopes)

/-- A page is the template of pages with what the layouts and the settings say. -/
theorem render_template (config : ExportConfig) (first : Layout) (layouts : List Layout) :
    render apostrophe template [context config first layouts] =
      (page (sizes config) config first layouts).flatMap (writePiece apostrophe) := by
  have htitle : renderPart apostrophe
      (headingTemplate "has_title" "  <div class=\"notation-title\">" "title")
      [context config first layouts] = (title config).flatMap (writePiece apostrophe) := by
    have hblock : title config = if !config.title.isEmpty then
        block "div" "notation-title" [.data config.title] else [] := by
      rw [title]
      cases config.title.isEmpty <;> rfl
    rw [hblock]
    exact render_heading rfl rfl rfl
  have htaal : renderPart apostrophe
      (headingTemplate "has_taal_heading" "  <div class=\"taal-name\">" "taal_heading")
      [context config first layouts] =
        (taalHeading config first layouts.length).flatMap (writePiece apostrophe) :=
    render_heading rfl rfl rfl
  have hlines : renderPart apostrophe (.block "lines" lineTemplate)
      [context config first layouts] =
        (lineTables config 1 layouts).flatMap (writePiece apostrophe) := render_lines rfl
  -- The fixed texts as the pieces that they stand for.
  have hopening : "<style>".toList = [Piece.opening "style" []].flatMap (writePiece apostrophe) :=
    rfl
  have hcontainer : "</style>\n<div class=\"notation-container\">\n".toList =
      [Piece.closing "style", .fixed "\n", .opening "div" [("class", "notation-container")],
        .fixed "\n"].flatMap (writePiece apostrophe) := rfl
  have hend : "</div>\n".toList =
      [Piece.closing "div", .fixed "\n"].flatMap (writePiece apostrophe) := rfl
  simp only [template, render, render_append, render_style, htitle, htaal, hlines]
  simp only [renderPart, hopening, hcontainer, hend]
  simp [page, Markup.element]

/-! ## What a page shows -/

/-- A text as a cell shows it. In place of an empty one stands the blank that does not break. -/
def shownText (text : String) : String := if text = "" then "\u00a0" else text

/-- The rows of the table of a line, each with its class and the texts of its cells. -/
def shownRows (config : ExportConfig) (l : Layout) : List (Option String × List String) :=
  (if config.includeMatraNumbers then
      [(some "matra-number", l.cells.map fun c => c.matra.repr)] else [])
    ++ [(some "symbol-row", l.cells.map fun c => shownText c.symbol),
      (none, l.cells.map fun c => shownText c.rendered)]
    ++ (if config.includeBolRow ∧ ∃ c ∈ l.cells, c.bol ≠ none then
      [(some "bol-row", l.cells.map fun c => shownText (c.bol.getD ""))] else [])

theorem orBlank_eq (text : String) : orBlank text = shownText text := by
  simp only [orBlank, shownText, String.isEmpty_iff]

theorem showsBols_iff {config : ExportConfig} {l : Layout} :
    showsBols config l = true ↔ config.includeBolRow = true ∧ ∃ c ∈ l.cells, c.bol ≠ none := by
  rw [showsBols, Bool.and_eq_true, List.any_eq_true]
  simp only [Option.isSome_iff_ne_none]

/-- What is read in the rows of a line is what they show. -/
theorem map_read_rowKinds (config : ExportConfig) (l : Layout) :
    ((rowKinds config l).map fun kind => kind.read l).map
        (fun row => (row.className, row.cells.map TableCell.text)) = shownRows config l := by
  have hread : ∀ kind : RowKind,
      ((kind.read l).className, (kind.read l).cells.map TableCell.text) =
        (kind.className, l.cells.map fun c => (kind.cell l c).text) := by
    intro kind
    rw [RowKind.read, List.map_map]
    rfl
  rw [List.map_map, rowKinds, shownRows, List.map_append, List.map_append]
  simp only [Function.comp_def, hread, ← orBlank_eq, ← showsBols_iff]
  congr 1
  · congr 1
    split <;> rfl
  · split <;> rfl

end Html

/-- **A page shows every cell once in each row.** The page of lines is the template of pages filled
in, and it is defined if the sizes of its letters are words. It is read as a style sheet and a
container with the headings and, for each line in order, a label and a table. The label has the
number of the line, counted from 1. The rows of the table are those that are wanted for this line,
and each of them has one cell for each cell of the line in order, with the text that it is for. -/
theorem html_shows_every_cell (config : ExportConfig) (first : Layout) (rest : List Layout) :
    let layouts := first :: rest
    ∃ (out : String) (style : List Node) (lines : List (List Node)),
      html config layouts = .ok out ∧
      (Checked.Fits config → Checked.html config layouts = some (.ok out)) ∧
      out = String.ofList
        (Template.render Html.apostrophe Html.template [Html.context config first layouts]) ∧
      readPage out = some [.element "style" [] style,
        .element "div" [("class", "notation-container")]
          (Html.headingNodes config first layouts.length ++ lines.flatten)] ∧
      lines.length = layouts.length ∧
      ∀ index l, layouts[index]? = some l → ∃ table rows,
        lines[index]? = some
          [.element "div" [("class", "line-label")] [.text s!"Line {index + 1}"], table] ∧
        Html.readTable table = some rows ∧
        rows.map (fun row => (row.className, row.cells.map Html.TableCell.text)) =
          Html.shownRows config l := by
  intro layouts
  obtain ⟨out, hout, hread⟩ := Html.readPage_html config first rest
  refine ⟨out, _, Html.linesNodes config 1 layouts, hout, fun hfits => ?_, ?_, hread,
    Html.length_linesNodes config 1 layouts, fun index l hl => ?_⟩
  · rw [Checked.html_eq_some hfits, hout]
  · rw [Html.render_template]
    exact (Except.ok.inj hout).symm
  · exact ⟨Html.tableNode config l, _, Html.getElem?_linesNodes config hl,
      Html.readTable_tableNode config l, Html.map_read_rowKinds config l⟩

/-- A page of two lines, of which only the first has drum syllables. Its texts look like tags,
escapes and names of the template. -/
theorem html_shows_every_cell_mixed :
    let config : ExportConfig := { title := "", includeBolRow := true }
    let first : Layout := ⟨"odd", "Odd", 2, [1, 1], [
      ⟨1, 1, 1, [⟨1, some .sam, "X", some "</td>", "S'&#39;", false⟩]⟩,
      ⟨2, 2, 2, [⟨2, none, "", none, "", true⟩]⟩]⟩
    let second : Layout := ⟨"odd", "Odd", 1, [1], [
      ⟨1, 1, 1, [⟨1, some .sam, "\x7b\x7bnumber\x7d\x7d", none, " ", false⟩]⟩]⟩
    ∃ (out : String) (style : List Node) (lines : List (List Node)),
      html config [first, second] = .ok out ∧
      Checked.html config [first, second] = some (.ok out) ∧
      readPage out = some [.element "style" [] style,
        .element "div" [("class", "notation-container")]
          (.element "div" [("class", "taal-name")] [.text "Odd (2 Matras) - 2 Line(s)"]
            :: lines.flatten)] ∧
      lines.length = 2 ∧
      (∃ table rows, lines[0]? =
          some [.element "div" [("class", "line-label")] [.text "Line 1"], table] ∧
        Html.readTable table = some rows ∧
        rows.map (fun row => (row.className, row.cells.map Html.TableCell.text)) =
          [(some "matra-number", ["1", "2"]), (some "symbol-row", ["X", "\u00a0"]),
            (none, ["S'&#39;", "\u00a0"]), (some "bol-row", ["</td>", "\u00a0"])]) ∧
      ∃ table rows, lines[1]? =
          some [.element "div" [("class", "line-label")] [.text "Line 2"], table] ∧
        Html.readTable table = some rows ∧
        rows.map (fun row => (row.className, row.cells.map Html.TableCell.text)) =
          [(some "matra-number", ["1"]), (some "symbol-row", ["\x7b\x7bnumber\x7d\x7d"]),
            (none, [" "])] := by
  intro config first second
  obtain ⟨out, style, lines, hout, hchecked, -, hread, hlength, hlines⟩ :=
    html_shows_every_cell config first [second]
  have hfits : Checked.Fits config := ⟨by decide, by decide⟩
  have htitle : s!"{first.taalDisplayName} ({first.totalMatras} Matras) - {2} Line(s)" =
      "Odd (2 Matras) - 2 Line(s)" := by decide +kernel
  have hheadings : Html.headingNodes config first 2 =
      [.element "div" [("class", "taal-name")] [.text "Odd (2 Matras) - 2 Line(s)"]] := by
    rw [Html.headingNodes, if_pos rfl, if_pos rfl, List.nil_append, htitle]
  rw [List.length_cons, List.length_singleton, hheadings] at hread
  exact ⟨out, style, lines, hout, hchecked hfits, hread, hlength, hlines 0 first rfl,
    hlines 1 second rfl⟩

end Sargam.Export
