import Mathlib.Data.List.Basic
import Sargam.Export.Html
import Sargam.Proofs.Tags

/-!
# Pages from any data

Layouts and settings come from outside, and any text may stand in them. A page is made of tidy
pieces whatever the texts are, so it can be read as nested tags. Its brackets and quotes are
those of its tags, and which tags there are is decided by the shape of the page alone.

* `Html.Shape`, `Html.shape`: what of settings and layouts decides the tags of their page.
* `Html.Shape.brackets`: the brackets and quotes of a page of a shape.
* `html_safe_from_data`: every page is balanced and escaped, and has the brackets of its shape.
-/

namespace Sargam.Export

namespace Html

/-! ## Shapes -/

/-- What of a line decides the tags of its table. -/
structure LineShape where
  cellCount : Nat
  showsBols : Bool
  deriving DecidableEq, Repr

/-- What of settings and layouts decides the tags of their page. -/
structure Shape where
  untitled : Bool
  showsTaalName : Bool
  showsMatraNumbers : Bool
  lines : List LineShape
  deriving DecidableEq, Repr

/-- The shape of a line. -/
def lineShape (config : ExportConfig) (l : Layout) : LineShape :=
  ⟨l.cells.length, showsBols config l⟩

/-- The shape of the page of layouts. -/
def shape (config : ExportConfig) (layouts : List Layout) : Shape :=
  ⟨config.title.isEmpty, config.includeTaalName, config.includeMatraNumbers,
    layouts.map (lineShape config)⟩

/-- The brackets and quotes of an element with so many attributes, around those in it. -/
def elementBrackets (attributeCount : Nat) (inner : List Char) : List Char :=
  '<' :: ((List.replicate attributeCount ['"', '"']).flatten ++ '>' :: (inner ++ ['<', '>']))

/-- The brackets and quotes of a row of cells. -/
def rowBrackets (attributeCount cellCount : Nat) : List Char :=
  elementBrackets attributeCount (List.replicate cellCount (elementBrackets 1 [])).flatten

/-- The brackets and quotes of the label and the table of a line. -/
def LineShape.brackets (showsMatraNumbers : Bool) (s : LineShape) : List Char :=
  elementBrackets 1 [] ++ elementBrackets 1
    ((if showsMatraNumbers then rowBrackets 1 s.cellCount else [])
      ++ rowBrackets 1 s.cellCount ++ rowBrackets 0 s.cellCount
      ++ (if s.showsBols then rowBrackets 1 s.cellCount else []))

/-- The brackets and quotes of a page. -/
def Shape.brackets (s : Shape) : List Char :=
  elementBrackets 0 [] ++ elementBrackets 1
    ((if s.untitled then [] else elementBrackets 1 [])
      ++ (if s.showsTaalName then elementBrackets 1 [] else [])
      ++ s.lines.flatMap (LineShape.brackets s.showsMatraNumbers))

end Html

/-! ## Fixed text -/

/-- A fixed text is plain if its characters are. The characters are given apart from the text,
as decoding a long literal is slow. -/
theorem Piece.plain_fixed {text : String} {cs : List Char} (h : text = String.ofList cs)
    (hcs : cs.all isPlain = true) : (Piece.fixed text).plain = true := by
  rw [h, Piece.plain, String.toList_ofList, hcs]

theorem Piece.plain_fixed_append (text more : String) :
    (Piece.fixed (text ++ more)).plain =
      ((Piece.fixed text).plain && (Piece.fixed more).plain) := by
  rw [Piece.plain, String.toList_append, List.all_append, Piece.plain, Piece.plain]

namespace Html

open Markup

/-! ## Tidiness -/

theorem tidy_styleSheet (sizes : Sizes) (config : ExportConfig) :
    Tidy (styleSheet sizes config) where
  plain := by
    rw [← List.all_eq_true]
    simp only [styleSheet, number, List.all_cons, List.all_nil, Piece.plain_fixed_append,
      Piece.plain_data, Bool.and_eq_true, and_true, true_and]
    and_intros <;> exact Piece.plain_fixed rfl (by decide +kernel)
  nested := .nil

theorem isName_class (value : String) :
    [("class", value)].all (fun a => isName a.1) = true := by
  have hclass : isName "class" = true := by decide
  rw [List.all_cons, hclass, List.all_nil, Bool.and_true]

theorem tidy_cell (cell : TableCell) : Tidy cell.markup :=
  .element (by decide) (isName_class _) (.cons_data cell.text .nil)

theorem tidy_tableRow {attributes : List (String × String)}
    (hnames : attributes.all (fun a => isName a.1) = true) (cells : List TableCell) :
    Tidy (tableRow attributes cells) :=
  .cons_fixed (by decide) (.append
    (.element (by decide) hnames (.flatMap fun cell _ => tidy_cell cell))
    (.cons_fixed (by decide) .nil))

theorem tidy_lineRows (config : ExportConfig) (l : Layout) : Tidy (lineRows config l) := by
  unfold lineRows
  refine .append (.append (.append ?_ (tidy_tableRow (isName_class _) _))
    (tidy_tableRow rfl _)) ?_
  · split
    · exact tidy_tableRow (isName_class _) _
    · exact .nil
  · split
    · exact tidy_tableRow (isName_class _) _
    · exact .nil

theorem tidy_block {name : String} (hname : isName name = true) (className : String)
    {body : Markup} (h : Tidy body) : Tidy (block name className body) :=
  .cons_fixed (by decide) (.append (.element hname (isName_class className) h)
    (.cons_fixed (by decide) .nil))

theorem tidy_lineTable (config : ExportConfig) (lineNumber : Nat) (l : Layout) :
    Tidy (lineTable config lineNumber l) :=
  .append
    (tidy_block (by decide) _ (.cons_fixed (by decide) (.cons_data _ .nil)))
    (tidy_block (by decide) _ (.cons_fixed (by decide)
      (.append (tidy_lineRows config l) (.cons_fixed (by decide) .nil))))

theorem tidy_lineTables (config : ExportConfig) (lineNumber : Nat) (layouts : List Layout) :
    Tidy (lineTables config lineNumber layouts) := by
  induction layouts generalizing lineNumber with
  | nil => exact .nil
  | cons l rest ih => exact .append (tidy_lineTable config lineNumber l) (ih (lineNumber + 1))

theorem tidy_title (config : ExportConfig) : Tidy (title config) := by
  unfold title
  split
  · exact .nil
  · exact tidy_block (by decide) _ (.cons_data _ .nil)

theorem tidy_taalHeading (config : ExportConfig) (first : Layout) (lineCount : Nat) :
    Tidy (taalHeading config first lineCount) := by
  unfold taalHeading
  split
  · exact tidy_block (by decide) _ (.cons_data _ .nil)
  · exact .nil

theorem tidy_page (sizes : Sizes) (config : ExportConfig) (first : Layout)
    (layouts : List Layout) : Tidy (page sizes config first layouts) := by
  have hbody := ((tidy_title config).append (tidy_taalHeading config first layouts.length)).append
    (tidy_lineTables config 1 layouts)
  exact .append
    (.append (.element (by decide) rfl (tidy_styleSheet sizes config))
      (.cons_fixed (by decide)
        (.element (by decide) (isName_class _) (.cons_fixed (by decide) hbody))))
    (.cons_fixed (by decide) .nil)

/-! ## Brackets -/

theorem brackets_element (name : String) (attributes : List (String × String))
    (body : Markup) :
    (Markup.element name attributes body).flatMap Piece.brackets =
      elementBrackets attributes.length (body.flatMap Piece.brackets) := by
  simp [Markup.element, Piece.brackets, elementBrackets, List.flatMap_def, List.map_const']

theorem brackets_tableRow (attributes : List (String × String)) (cells : List TableCell) :
    (tableRow attributes cells).flatMap Piece.brackets =
      rowBrackets attributes.length cells.length := by
  have hcells : (cells.flatMap TableCell.markup).flatMap Piece.brackets =
      (List.replicate cells.length (elementBrackets 1 [])).flatten := by
    rw [List.flatMap_assoc, List.flatMap_def]
    exact congrArg List.flatten
      (List.map_eq_replicate_iff.mpr fun cell _ => brackets_element "td" _ _)
  rw [tableRow, List.flatMap_cons, List.flatMap_append, brackets_element, hcells]
  exact List.append_nil _

theorem brackets_lineRow (l : Layout) (attributes : List (String × String))
    (cell : Layout → Layout.Cell → TableCell) :
    (lineRow l attributes cell).flatMap Piece.brackets =
      rowBrackets attributes.length l.cells.length := by
  rw [lineRow, brackets_tableRow, List.length_map]

theorem brackets_block (name className : String) (body : Markup) :
    (block name className body).flatMap Piece.brackets =
      elementBrackets 1 (body.flatMap Piece.brackets) := by
  rw [block, List.flatMap_cons, List.flatMap_append, brackets_element]
  exact List.append_nil _

theorem brackets_lineRows (config : ExportConfig) (l : Layout) :
    (lineRows config l).flatMap Piece.brackets =
      (if config.includeMatraNumbers then rowBrackets 1 l.cells.length else [])
        ++ rowBrackets 1 l.cells.length ++ rowBrackets 0 l.cells.length
        ++ (if showsBols config l then rowBrackets 1 l.cells.length else []) := by
  simp only [lineRows, List.flatMap_append, apply_ite (List.flatMap Piece.brackets),
    brackets_lineRow, List.length_singleton, List.length_nil, List.flatMap_nil]

theorem brackets_lineTable (config : ExportConfig) (lineNumber : Nat) (l : Layout) :
    (lineTable config lineNumber l).flatMap Piece.brackets =
      (lineShape config l).brackets config.includeMatraNumbers := by
  have hrows : (.fixed "\n" :: (lineRows config l ++ [.fixed "  "]) : Markup).flatMap
      Piece.brackets = (lineRows config l).flatMap Piece.brackets ++ [] := by
    rw [List.flatMap_cons, List.flatMap_append]
    rfl
  rw [lineTable, List.flatMap_append, brackets_block, brackets_block, hrows, brackets_lineRows]
  exact congrArg (fun rows => elementBrackets 1 [] ++ elementBrackets 1 rows)
    (List.append_nil _)

theorem brackets_lineTables (config : ExportConfig) (lineNumber : Nat)
    (layouts : List Layout) :
    (lineTables config lineNumber layouts).flatMap Piece.brackets =
      (layouts.map (lineShape config)).flatMap
        (LineShape.brackets config.includeMatraNumbers) := by
  induction layouts generalizing lineNumber with
  | nil => rfl
  | cons l rest ih =>
    rw [lineTables, List.flatMap_append, brackets_lineTable, ih, List.map_cons,
      List.flatMap_cons]

theorem brackets_title (config : ExportConfig) :
    (title config).flatMap Piece.brackets =
      if config.title.isEmpty then [] else elementBrackets 1 [] := by
  unfold title
  split
  · rfl
  · exact brackets_block _ _ _

theorem brackets_taalHeading (config : ExportConfig) (first : Layout) (lineCount : Nat) :
    (taalHeading config first lineCount).flatMap Piece.brackets =
      if config.includeTaalName then elementBrackets 1 [] else [] := by
  unfold taalHeading
  split
  · exact brackets_block _ _ _
  · rfl

theorem brackets_page (sizes : Sizes) (config : ExportConfig) (first : Layout)
    (layouts : List Layout) :
    (page sizes config first layouts).flatMap Piece.brackets = (shape config layouts).brackets := by
  have hstyle : (styleSheet sizes config).flatMap Piece.brackets = [] := rfl
  rw [page, List.flatMap_append, List.flatMap_append, List.flatMap_cons, brackets_element,
    brackets_element, hstyle, List.flatMap_cons, List.flatMap_append, List.flatMap_append,
    brackets_title, brackets_taalHeading, brackets_lineTables]
  exact List.append_nil _

end Html

/-- **Data does not break a page.** The page of layouts is made of nested tags, its ampersands
begin escapes, and its brackets and quotes are decided by its shape, whatever texts stand in the
layouts and the settings. -/
theorem html_safe_from_data (config : ExportConfig) {layouts : List Layout}
    (h : layouts ≠ []) :
    ∃ out, html config layouts = .ok out ∧ Balanced out ∧
      AmpersandsEscaped Html.apostrophe out.toList ∧
      out.toList.filter isBracket = (Html.shape config layouts).brackets ∧
      ∀ config' layouts' out', html config' layouts' = .ok out' →
        Html.shape config' layouts' = Html.shape config layouts →
        out'.toList.filter isBracket = out.toList.filter isBracket := by
  have hapostrophe : isEscape Html.apostrophe = true := by decide
  have hbrackets : ∀ config layouts out, html config layouts = .ok out →
      out.toList.filter isBracket = (Html.shape config layouts).brackets := by
    intro config layouts out hout
    cases layouts with
    | nil => cases hout
    | cons first rest =>
      rw [html, Except.ok.injEq] at hout
      rw [← hout, Markup.filter_write hapostrophe (Html.tidy_page _ config first _).plain,
        Html.brackets_page]
  cases layouts with
  | nil => exact absurd rfl h
  | cons first rest =>
    have htidy := Html.tidy_page (Html.sizes config) config first (first :: rest)
    have hout := hbrackets config (first :: rest) _ rfl
    refine ⟨_, rfl, htidy.balanced_write hapostrophe,
      Markup.ampersandsEscaped_write hapostrophe htidy.plain, hout, ?_⟩
    intro config' layouts' out' hout' hshape
    rw [hbrackets config' layouts' out' hout', hshape, hout]

/-- A line of a single cell, with one text in the place of every text. -/
def Html.lineOf (text : String) : Layout :=
  ⟨text, text, 1, [1], [⟨1, 1, 1, [⟨1, some .sam, text, some text, text, false⟩]⟩]⟩

/-- Texts that look like tags leave the tags of a page as they are. -/
theorem html_safe_from_data_tag :
    let text := "</style></td>\"><script a=\"&lt;&"
    ∃ out out', html { title := text, borderColor := text, includeBolRow := true }
        [Html.lineOf text] = .ok out ∧
      html { includeBolRow := true } [Html.lineOf "Dha"] = .ok out' ∧
      Balanced out ∧ AmpersandsEscaped "&#39;" out.toList ∧
      out'.toList.filter isBracket = out.toList.filter isBracket := by
  intro text
  obtain ⟨out, hout, hbalanced, hescaped, -, hsame⟩ :=
    html_safe_from_data { title := text, borderColor := text, includeBolRow := true }
      (List.cons_ne_nil (Html.lineOf text) [])
  obtain ⟨out', hout', -⟩ :=
    html_safe_from_data { includeBolRow := true } (List.cons_ne_nil (Html.lineOf "Dha") [])
  exact ⟨out, out', hout, hout', hbalanced, hescaped,
    hsame _ _ out' hout' (by decide +kernel)⟩

end Sargam.Export
