import Sargam.Export.Html
import Sargam.Export.Table
import Sargam.Proofs.Checked.Grid
import Sargam.Proofs.Layout

/-!
# Exports with checked operations

The columns of a table are wide enough for an ellipsis. The sizes of a page and the measures of a
drawing are words of 32 bits: sizes a little below the greatest word leave room for what is added
to them, and a drawing has to be narrow enough for its right edge to be a word. The size of the
title is not looked at where no title is drawn, and that of the music text only for a cell.

* `table_eq_some`: every table.
* `Fits`, `html_eq_some`: export settings with room for what is added to their sizes, and every
  page.
* `Svg.Measurable`, `drawing_eq_some`: drawings whose measures are words.
* `measurable_layout`, `measurable_of_fits`: those of a grid that is not too wide.
-/

namespace Sargam.Checked

open Export

/-! ## Tables -/

def fit (width : Nat) (text : String) : Option (List Char) := do
  if (← sub width 1) < Text.visibleLength text then
    return Text.takeVisible (← sub width 2) text.toList ++ ['…']
  else return text.toList

def centre (width : Nat) (text : String) : Option String := do
  let fitted ← fit width text
  let pad := width - Text.visibleCount fitted
  let right ← sub pad (pad / 2)
  return String.ofList (List.replicate (pad / 2) ' ' ++ fitted ++ List.replicate right ' ')

def tableRow (l : Layout) (cellText : Layout.Cell → String) : Option String := do
  let vibhags ← l.vibhags.mapM fun v => do
    let cells ← v.cells.mapM fun c => centre tableCellWidth (cellText c)
    return " ".intercalate cells
  return " | ".intercalate vibhags

def tableLine (number : Nat) (l : Layout) : Option (List String) := do
  let matras ← tableRow l fun c => c.matra.repr
  let symbols ← tableRow l Layout.Cell.symbol
  let swars ← tableRow l Layout.Cell.displayText
  return [s!"--- Line {number} ---", "Matra:  " ++ matras, "Symbol: " ++ symbols,
    "Swar:   " ++ swars, ""]

def tableLines (number : Nat) : List Layout → Option (List String)
  | [] => some []
  | l :: rest => do return (← tableLine number l) ++ (← tableLines (number + 1) rest)

def table (layouts : List Layout) (heading : Bool) : Option String :=
  match layouts with
  | [] => some ""
  | first :: _ => do
    let lines ← tableLines 1 layouts
    return "\n".intercalate ((if heading then tableHeading first layouts.length else [])
      ++ lines ++ tableLegend)

theorem fit_eq_some {width : Nat} (h : 2 ≤ width) (text : String) :
    fit width text = some (Text.fit width text.toList) := by
  simp only [fit, Text.fit, Text.visibleLength, sub_eq_some (Nat.le_of_succ_le h), sub_eq_some h,
    Option.bind_eq_bind, Option.bind_some]
  by_cases hlength : Text.visibleCount text.toList < width
  · rw [if_pos hlength, if_neg (by omega)]
    rfl
  · rw [if_neg hlength, if_pos (by omega)]
    rfl

theorem centre_eq_some {width : Nat} (h : 2 ≤ width) (text : String) :
    centre width text = some (Text.centre width text) := by
  simp only [centre, fit_eq_some h, sub_eq_some (Nat.div_le_self _ 2), Option.bind_eq_bind,
    Option.bind_some]
  rfl

theorem tableRow_eq_some (l : Layout) (cellText : Layout.Cell → String) :
    tableRow l cellText = some (Export.tableRow l cellText) := by
  have hcells : ∀ v ∈ l.vibhags, (do
      let cells ← v.cells.mapM fun c => centre tableCellWidth (cellText c)
      return " ".intercalate cells) = some (" ".intercalate
        (v.cells.map fun c => Text.centre tableCellWidth (cellText c))) := by
    intro v _
    rw [mapM_eq_some fun c _ => centre_eq_some (by decide) (cellText c)]
    rfl
  rw [tableRow, mapM_eq_some hcells]
  rfl

theorem tableLine_eq_some (number : Nat) (l : Layout) :
    tableLine number l = some (Export.tableLine number l) := by
  simp only [tableLine, tableRow_eq_some]
  rfl

theorem tableLines_eq_some (number : Nat) (layouts : List Layout) :
    tableLines number layouts = some (Export.tableLines number layouts) := by
  induction layouts generalizing number with
  | nil => rfl
  | cons l rest ih =>
    rw [tableLines, tableLine_eq_some, ih]
    rfl

theorem table_eq_some (layouts : List Layout) (heading : Bool) :
    table layouts heading = some (Export.table layouts heading) := by
  cases layouts with
  | nil => rfl
  | cons first rest =>
    rw [table, tableLines_eq_some]
    rfl

/-! ## Sizes -/

/-- Export settings with room for what is added to their sizes. -/
structure Fits (config : ExportConfig) : Prop where
  fontSize_le : config.fontSize ≤ 4294967287
  cellPadding_le : config.cellPadding ≤ 4294967291

/-! ## Pages -/

/-- The sizes of a page. -/
def sizes (config : ExportConfig) : Option Html.Sizes := do
  let title ← word (config.fontSize + 8)
  let heading ← word (config.fontSize + 4)
  let swar ← word (config.fontSize + 4)
  let padding ← word (config.cellPadding + 4)
  return ⟨title, heading, config.fontSize, config.fontSize - 4, swar, config.fontSize - 2, padding⟩

def html (config : ExportConfig) : List Layout → Option (Except ExportFault String)
  | [] => some (.error .nothingToExport)
  | first :: rest => do
    let sizes ← sizes config
    return .ok (Markup.write Html.apostrophe (Html.page sizes config first (first :: rest)))

variable {config : ExportConfig}

theorem sizes_eq_some (h : Fits config) : sizes config = some (Html.sizes config) := by
  have hfont := h.fontSize_le
  have hpadding := h.cellPadding_le
  have htitle : word (config.fontSize + 8) = some (config.fontSize + 8) :=
    word_eq_some (by omega)
  have hheading : word (config.fontSize + 4) = some (config.fontSize + 4) :=
    word_eq_some (by omega)
  have hcell : word (config.cellPadding + 4) = some (config.cellPadding + 4) :=
    word_eq_some (by omega)
  rw [sizes, htitle, hheading, hcell]
  rfl

/-- The next greater font size leaves no room for the title. -/
example : sizes { fontSize := 4294967288 } = none := by decide

theorem html_eq_some (h : Fits config) (layouts : List Layout) :
    html config layouts = some (Export.html config layouts) := by
  cases layouts with
  | nil => rfl
  | cons first rest =>
    rw [html, sizes_eq_some h]
    rfl

end Sargam.Checked

/-! ## Drawings -/

/-- Settings and a layout for which all measures that are drawn are words. A column has to have
columns before it, or none: numbers of matras count from 1. -/
structure Sargam.Export.Svg.Measurable (config : ExportConfig) (l : Layout) : Prop where
  width : width l < wordSize
  title : config.title ≠ "" → config.fontSize + 6 < wordSize
  matra : ∀ c ∈ l.cells, 1 ≤ c.matra % wordSize
  column : ∀ c ∈ l.cells, columnMiddle c.matra < wordSize
  swar : ∀ c ∈ l.cells, config.fontSize + 2 < wordSize

namespace Sargam.Checked

open Export

/-- The upper edges of the boxes of a drawing: those of the numbers, of the glyphs and of the
music text. Of a sum of several terms only the whole is looked at, as its parts are smaller. -/
def tops (config : ExportConfig) : Option (Nat × Nat × Nat) := do
  let belowTitle ← word (Svg.margin + Svg.titleHeight config)
  let number ← word (belowTitle + Svg.taalNameHeight config)
  let symbol ← word (number + Svg.numberHeight)
  let swar ← word (symbol + Svg.symbolHeight)
  return (number, symbol, swar)

/-- The size of the title, which has to be a word if there is a title. -/
def titleSize (config : ExportConfig) : Option Nat :=
  if config.title.isEmpty then some (config.fontSize + 6) else word (config.fontSize + 6)

/-- The measures of a drawing, as far as they are drawn. -/
def frame (config : ExportConfig) (l : Layout) : Option Svg.Frame := do
  let columns ← word (Svg.columnWidth * (l.totalMatras % Svg.wordSize))
  let width ← word (Svg.margin * 2 + columns)
  let height ← word (Svg.margin * 2 + Svg.titleHeight config + Svg.taalNameHeight config
    + Svg.numberHeight + Svg.symbolHeight + Svg.swarHeight)
  let titleLine ← word (Svg.margin + 25)
  let titleSize ← titleSize config
  let belowTitle ← word (Svg.margin + Svg.titleHeight config)
  let taalNameLine ← word (belowTitle + 20)
  return ⟨width, height, width / 2, titleLine, titleSize, taalNameLine⟩

/-- The measures of the column of a matra. -/
def place (config : ExportConfig) (matra : Nat) : Option Svg.Place := do
  let (number, symbol, swar) ← tops config
  let columnsBefore ← sub (matra % Svg.wordSize) 1
  let offset ← word (columnsBefore * Svg.columnWidth)
  let left ← word (Svg.margin + offset)
  let middle ← word (left + Svg.columnWidth / 2)
  let numberLine ← word (number + Svg.numberHeight / 2 + 5)
  let symbolLine ← word (symbol + Svg.symbolHeight / 2 + 5)
  let swarLine ← word (swar + Svg.swarHeight / 2 + 6)
  let swarSize ← word (config.fontSize + 2)
  return ⟨left, middle, number, numberLine, symbol, symbolLine, swar, swarLine, swarSize⟩

def columns (config : ExportConfig) (index : Nat) : List Layout.Vibhag → Option Markup
  | [] => some []
  | v :: rest => do
    let drawn ← v.cells.mapM fun c => do
      return Svg.column config (← place config c.matra) (Svg.stroke config index v c) c
    return drawn.flatten ++ (← columns config (index + 1) rest)

/-- A drawing all measures of which are words. -/
def drawing (config : ExportConfig) (l : Layout) : Option String := do
  let frame ← frame config l
  let columns ← columns config 0 l.vibhags
  return Markup.write Svg.apostrophe (Svg.drawing frame config l columns)

variable {config : ExportConfig} {l : Layout}

theorem titleHeight_le (config : ExportConfig) : Svg.titleHeight config ≤ 40 := by
  unfold Svg.titleHeight
  split <;> omega

theorem numberTop_le (config : ExportConfig) : Svg.numberTop config ≤ 90 := by
  have htitle := titleHeight_le config
  have hname : Svg.taalNameHeight config ≤ 30 := by
    unfold Svg.taalNameHeight
    split <;> omega
  unfold Svg.numberTop Svg.margin
  omega

/-- The heights of a drawing are small, whatever is drawn. -/
theorem word_eq_some_of_le {n : Nat} (h : n ≤ 220) : word n = some n := word_eq_some (by omega)

theorem tops_eq_some (config : ExportConfig) :
    tops config = some (Svg.numberTop config, Svg.symbolTop config, Svg.swarTop config) := by
  have hnumberTop := numberTop_le config
  have hsymbolTop : Svg.symbolTop config ≤ 120 := Nat.add_le_add_right hnumberTop 30
  have hswarTop : Svg.swarTop config ≤ 150 := Nat.add_le_add_right hsymbolTop 30
  have htitle : Svg.margin + Svg.titleHeight config ≤ 90 :=
    Nat.le_trans (Nat.le_add_right _ _) hnumberTop
  have hbelow : word (Svg.margin + Svg.titleHeight config) =
      some (Svg.margin + Svg.titleHeight config) := word_eq_some_of_le (by omega)
  have hnumber : word (Svg.margin + Svg.titleHeight config + Svg.taalNameHeight config) =
      some (Svg.numberTop config) := word_eq_some_of_le (Nat.le_trans hnumberTop (by decide))
  have hsymbol : word (Svg.numberTop config + Svg.numberHeight) = some (Svg.symbolTop config) :=
    word_eq_some_of_le (Nat.le_trans hsymbolTop (by decide))
  have hswar : word (Svg.symbolTop config + Svg.symbolHeight) = some (Svg.swarTop config) :=
    word_eq_some_of_le (Nat.le_trans hswarTop (by decide))
  simp only [tops, hbelow, hnumber, hsymbol, hswar, Option.bind_eq_bind, Option.bind_some]
  rfl

/-- The measures of the headings do not depend on what they say. -/
theorem belowTitle_eq_some (config : ExportConfig) :
    word (Svg.margin + Svg.titleHeight config) = some (Svg.margin + Svg.titleHeight config) := by
  have htitle := titleHeight_le config
  exact word_eq_some_of_le (by unfold Svg.margin; omega)

theorem taalNameLine_eq_some (config : ExportConfig) :
    word (Svg.margin + Svg.titleHeight config + 20) =
      some (Svg.margin + Svg.titleHeight config + 20) := by
  have htitle := titleHeight_le config
  exact word_eq_some_of_le (by unfold Svg.margin; omega)

theorem height_eq_some (config : ExportConfig) :
    word (Svg.margin * 2 + Svg.titleHeight config + Svg.taalNameHeight config
      + Svg.numberHeight + Svg.symbolHeight + Svg.swarHeight) = some (Svg.height config) := by
  have hnumberTop := numberTop_le config
  unfold Svg.numberTop Svg.margin at hnumberTop
  exact word_eq_some_of_le (by
    unfold Svg.margin Svg.numberHeight Svg.symbolHeight Svg.swarHeight
    omega)

/-- The columns are narrower than the drawing. -/
theorem columnsWidth_eq_some (h : Svg.width l < Svg.wordSize) :
    word (Svg.columnWidth * (l.totalMatras % Svg.wordSize)) =
      some (Svg.columnWidth * (l.totalMatras % Svg.wordSize)) :=
  word_eq_some (Nat.lt_of_le_of_lt (Nat.le_add_left _ _) h)

theorem width_eq_some (h : Svg.width l < Svg.wordSize) :
    word (Svg.margin * 2 + Svg.columnWidth * (l.totalMatras % Svg.wordSize)) =
      some (Svg.width l) := word_eq_some h

theorem titleSize_eq_some (h : config.title ≠ "" → config.fontSize + 6 < Svg.wordSize) :
    titleSize config = some (config.fontSize + 6) := by
  unfold titleSize
  split
  · rfl
  · rename_i htitle
    exact word_eq_some (h fun hempty => htitle (by rw [hempty]; rfl))

theorem frame_eq_some (h : Svg.Measurable config l) :
    frame config l = some (Svg.frame config l) := by
  have htitleLine : word (Svg.margin + 25) = some (Svg.margin + 25) :=
    word_eq_some_of_le (by decide)
  simp only [frame, columnsWidth_eq_some h.width, width_eq_some h.width, height_eq_some,
    htitleLine, titleSize_eq_some h.title, belowTitle_eq_some, taalNameLine_eq_some,
    Option.bind_eq_bind, Option.bind_some]
  rfl

theorem place_eq_some {matra : Nat} (hpos : 1 ≤ matra % Svg.wordSize)
    (hwide : Svg.columnMiddle matra < Svg.wordSize) (hfont : config.fontSize + 2 < Svg.wordSize) :
    place config matra = some (Svg.place config matra) := by
  have hnumberTop := numberTop_le config
  -- The columns before this one are narrower than where its middle is.
  have hoffset : word ((matra % Svg.wordSize - 1) * Svg.columnWidth) =
      some ((matra % Svg.wordSize - 1) * Svg.columnWidth) := by
    unfold Svg.columnMiddle Svg.columnLeft at hwide
    exact word_eq_some (Nat.lt_of_le_of_lt
      (Nat.le_trans (Nat.le_add_left _ _) (Nat.le_add_right _ _)) hwide)
  have hleft : word (Svg.margin + (matra % Svg.wordSize - 1) * Svg.columnWidth) =
      some (Svg.columnLeft matra) :=
    word_eq_some (Nat.lt_of_le_of_lt (Nat.le_add_right _ _) hwide)
  have hmiddle : word (Svg.columnLeft matra + Svg.columnWidth / 2) =
      some (Svg.columnMiddle matra) := word_eq_some hwide
  have hnumberLine : word (Svg.numberTop config + Svg.numberHeight / 2 + 5) =
      some (Svg.numberTop config + Svg.numberHeight / 2 + 5) :=
    word_eq_some_of_le (by unfold Svg.numberHeight; omega)
  have hsymbolLine : word (Svg.symbolTop config + Svg.symbolHeight / 2 + 5) =
      some (Svg.symbolTop config + Svg.symbolHeight / 2 + 5) :=
    word_eq_some_of_le (by unfold Svg.symbolTop Svg.numberHeight Svg.symbolHeight; omega)
  have hswarLine : word (Svg.swarTop config + Svg.swarHeight / 2 + 6) =
      some (Svg.swarTop config + Svg.swarHeight / 2 + 6) :=
    word_eq_some_of_le (by
      unfold Svg.swarTop Svg.symbolTop Svg.numberHeight Svg.symbolHeight Svg.swarHeight
      omega)
  have hswarSize : word (config.fontSize + 2) = some (config.fontSize + 2) := word_eq_some hfont
  simp only [place, tops_eq_some, sub_eq_some hpos, hoffset, hleft, hmiddle, hnumberLine,
    hsymbolLine, hswarLine, hswarSize, Option.bind_eq_bind, Option.bind_some]
  rfl

theorem columns_eq_some {vibhags : List Layout.Vibhag}
    (h : ∀ v ∈ vibhags, ∀ c ∈ v.cells, place config c.matra = some (Svg.place config c.matra))
    (index : Nat) : columns config index vibhags = some (Svg.columns config index vibhags) := by
  induction vibhags generalizing index with
  | nil => rfl
  | cons v rest ih =>
    obtain ⟨hv, hrest⟩ := List.forall_mem_cons.mp h
    have hdrawn : (v.cells.mapM fun c => do
        return Svg.column config (← place config c.matra) (Svg.stroke config index v c) c) =
        some (v.cells.map fun c =>
          Svg.column config (Svg.place config c.matra) (Svg.stroke config index v c) c) :=
      mapM_eq_some fun c hc => by
        rw [hv c hc]
        rfl
    rw [columns, hdrawn, ih hrest, Svg.columns, List.flatMap_def]
    rfl

theorem drawing_eq_some (h : Svg.Measurable config l) :
    drawing config l = some (Export.svg config l) := by
  have hplaces : ∀ v ∈ l.vibhags, ∀ c ∈ v.cells,
      place config c.matra = some (Svg.place config c.matra) := by
    intro v hv c hc
    have hmem : c ∈ l.cells := List.mem_flatMap.mpr ⟨v, hv, hc⟩
    exact place_eq_some (h.matra c hmem) (h.column c hmem) (h.swar c hmem)
  rw [drawing, frame_eq_some h, columns_eq_some hplaces]
  rfl

section Wide

/-! A drawing of a grid that is narrow enough for a word. -/

variable {g : Grid} {t : Taal} {options : RenderOptions}

theorem width_layout (hg : g.WellFormed t) (hwide : 80 * t.totalMatras + 40 < 4294967296)
    (options : RenderOptions) : Svg.width (g.layout options) = 80 * t.totalMatras + 40 := by
  have htotal : (g.layout options).totalMatras = t.totalMatras := by
    rw [Grid.layout, hg.taal_eq]
  rw [Svg.width, htotal, Nat.mod_eq_of_lt (by unfold Svg.wordSize; omega)]
  unfold Svg.margin Svg.columnWidth
  omega

theorem matra_mod_eq (hg : g.WellFormed t) (hwide : 80 * t.totalMatras + 40 < 4294967296)
    {c : Layout.Cell} (hc : c ∈ (g.layout options).cells) :
    c.matra % Svg.wordSize = c.matra ∧ 1 ≤ c.matra ∧ c.matra ≤ t.totalMatras := by
  have hmem := List.mem_map_of_mem (f := Layout.Cell.matra) hc
  rw [Layout.map_matra_layout hg, List.mem_range'_1] at hmem
  exact ⟨Nat.mod_eq_of_lt (by unfold Svg.wordSize; omega), hmem.1, by omega⟩

/-- The right edge of a column comes before that of the drawing. -/
theorem columnMiddle_lt (hg : g.WellFormed t) (hwide : 80 * t.totalMatras + 40 < 4294967296)
    {c : Layout.Cell} (hc : c ∈ (g.layout options).cells) :
    Svg.columnMiddle c.matra < Svg.wordSize := by
  obtain ⟨hmod, hpos, hle⟩ := matra_mod_eq hg hwide hc
  rw [Svg.columnMiddle, Svg.columnLeft, hmod]
  unfold Svg.margin Svg.columnWidth Svg.wordSize
  omega

/-- The measures of the drawing of a grid are words if its right edge is one. -/
theorem measurable_layout (hg : g.WellFormed t) (hwide : 80 * t.totalMatras + 40 < 4294967296)
    (htitle : config.title ≠ "" → config.fontSize + 6 < 4294967296)
    (hswar : config.fontSize + 2 < 4294967296) (options : RenderOptions) :
    Svg.Measurable config (g.layout options) where
  width := width_layout hg hwide options ▸ hwide
  title := htitle
  matra c hc := by
    obtain ⟨hmod, hpos, -⟩ := matra_mod_eq hg hwide hc
    exact hmod.symm ▸ hpos
  column c hc := columnMiddle_lt hg hwide hc
  swar _ _ := hswar

theorem measurable_of_fits (h : Fits config) (hg : g.WellFormed t)
    (hwide : 80 * t.totalMatras + 40 < 4294967296) (options : RenderOptions) :
    Svg.Measurable config (g.layout options) := by
  have hfont := h.fontSize_le
  exact measurable_layout hg hwide (fun _ => by omega) (by omega) options

end Wide

end Sargam.Checked
