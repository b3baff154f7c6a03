import Sargam.Export.Markup
import Sargam.Export.Settings
import Sargam.Layout

/-!
# A line of music as SVG

One drawing for each line: a column for each matra, and in each column three boxes with its
number, its glyph and its music text. A column with which a vibhag begins has a heavier
outline, unless it is the first vibhag.

* `Svg.width`, `Svg.height`, `Svg.columnLeft`: how large a drawing is, and where columns begin.
* `Svg.Frame`, `Svg.Place`: the measures of a drawing and of a column in it.
* `Svg.drawing`: the elements of a drawing.
* `Export.svg`: the drawing of a line.
-/

namespace Sargam.Export

namespace Svg

/-- How an apostrophe is escaped. -/
def apostrophe : String := "&apos;"

/-! ## Measures -/

/-- The width of a column. -/
def columnWidth : Nat := 80

/-- The height of the boxes with numbers. -/
def numberHeight : Nat := 30

/-- The height of the boxes with glyphs. -/
def symbolHeight : Nat := 30

/-- The height of the boxes with music text. -/
def swarHeight : Nat := 50

/-- The margin around the drawing. -/
def margin : Nat := 20

/-- Numbers of matras count modulo this one in a drawing. -/
def wordSize : Nat := 4294967296

/-- The height of the title, if there is one. -/
def titleHeight (config : ExportConfig) : Nat := if config.title.isEmpty then 0 else 40

/-- The height of the name of the taal, if it is shown. -/
def taalNameHeight (config : ExportConfig) : Nat := if config.includeTaalName then 30 else 0

/-- The width of the drawing. -/
def width (l : Layout) : Nat := margin * 2 + columnWidth * (l.totalMatras % wordSize)

/-- The height of the drawing. -/
def height (config : ExportConfig) : Nat :=
  margin * 2 + titleHeight config + taalNameHeight config + numberHeight + symbolHeight
    + swarHeight

/-- The left edge of the column of a matra. -/
def columnLeft (matra : Nat) : Nat := margin + (matra % wordSize - 1) * columnWidth

/-- The middle of the column of a matra. -/
def columnMiddle (matra : Nat) : Nat := columnLeft matra + columnWidth / 2

/-- The upper edge of the boxes with numbers. -/
def numberTop (config : ExportConfig) : Nat :=
  margin + titleHeight config + taalNameHeight config

/-- The upper edge of the boxes with glyphs. -/
def symbolTop (config : ExportConfig) : Nat := numberTop config + numberHeight

/-- The upper edge of the boxes with music text. -/
def swarTop (config : ExportConfig) : Nat := symbolTop config + symbolHeight

/-- The measures of a drawing: its extent, and where its headings stand. -/
structure Frame where
  width : Nat
  height : Nat
  middle : Nat
  titleLine : Nat
  titleSize : Nat
  taalNameLine : Nat
  deriving DecidableEq, Repr

/-- The measures of the drawing of a line. -/
def frame (config : ExportConfig) (l : Layout) : Frame where
  width := width l
  height := height config
  middle := width l / 2
  titleLine := margin + 25
  titleSize := config.fontSize + 6
  taalNameLine := margin + titleHeight config + 20

/-- The measures of a column: where its boxes begin, and where the texts in them stand. -/
structure Place where
  left : Nat
  middle : Nat
  numberTop : Nat
  numberLine : Nat
  symbolTop : Nat
  symbolLine : Nat
  swarTop : Nat
  swarLine : Nat
  swarSize : Nat
  deriving DecidableEq, Repr

/-- The measures of the column of a matra. -/
def place (config : ExportConfig) (matra : Nat) : Place where
  left := columnLeft matra
  middle := columnMiddle matra
  numberTop := numberTop config
  numberLine := numberTop config + numberHeight / 2 + 5
  symbolTop := symbolTop config
  symbolLine := symbolTop config + symbolHeight / 2 + 5
  swarTop := swarTop config
  swarLine := swarTop config + swarHeight / 2 + 6
  swarSize := config.fontSize + 2

/-! ## Elements -/

/-- A box of a column. -/
def box (config : ExportConfig) (left top boxHeight stroke : Nat) (fill : String) : Piece :=
  .single "rect" [
    ("x", left.repr),
    ("y", top.repr),
    ("width", columnWidth.repr),
    ("height", boxHeight.repr),
    ("fill", fill),
    ("stroke", config.borderColor),
    ("stroke-width", stroke.repr)]

/-- A text around a point, with further attributes. -/
def label (x y size : Nat) (attributes : List (String × String)) (content : String) : Markup :=
  Markup.element "text"
    ([("x", x.repr), ("y", y.repr), ("text-anchor", "middle"), ("font-size", size.repr)]
      ++ attributes ++ [("font-family", "Arial, sans-serif")])
    [.data content]

/-- The colour of a glyph. -/
def symbolColor (config : ExportConfig) : Option Marker → String
  | some .sam => config.samColor
  | some .khali => config.khaliColor
  | _ => config.borderColor

/-- The colour behind the music text. -/
def swarFill (config : ExportConfig) : Option Marker → String
  | some .sam => "#ffeaea"
  | some .khali => "#eaf4ff"
  | _ => config.cellBgColor

/-- The column of a cell. -/
def column (config : ExportConfig) (p : Place) (stroke : Nat) (c : Layout.Cell) : Markup :=
  box config p.left p.numberTop numberHeight stroke config.headerBgColor
    :: label p.middle p.numberLine (config.fontSize - 4) [("fill", "#666")] c.matra.repr
  ++ box config p.left p.symbolTop symbolHeight stroke config.headerBgColor
    :: label p.middle p.symbolLine config.fontSize
      [("font-weight", "bold"), ("fill", symbolColor config c.marker)] c.symbol
  ++ box config p.left p.swarTop swarHeight stroke (swarFill config c.marker)
    :: label p.middle p.swarLine p.swarSize [] c.rendered

/-- The width of the outline of a cell of the vibhag that has `index` vibhags before it. -/
def stroke (config : ExportConfig) (index : Nat) (v : Layout.Vibhag) (c : Layout.Cell) : Nat :=
  if c.matra = v.startMatra ∧ 0 < index then config.vibhagBorderWidth else 1

/-- The columns of vibhags, the first of which has `index` vibhags before it. -/
def columns (config : ExportConfig) (index : Nat) : List Layout.Vibhag → Markup
  | [] => []
  | v :: rest =>
    v.cells.flatMap (fun c => column config (place config c.matra) (stroke config index v c) c)
      ++ columns config (index + 1) rest

/-- The title, unless it is empty. -/
def title (f : Frame) (config : ExportConfig) : Markup :=
  if config.title.isEmpty then []
  else label f.middle f.titleLine f.titleSize [("font-weight", "bold")] config.title

/-- The name of the taal, if it is wanted. -/
def taalName (f : Frame) (config : ExportConfig) (l : Layout) : Markup :=
  if config.includeTaalName then
    label f.middle f.taalNameLine config.fontSize [("fill", "#666")]
      s!"{l.taalDisplayName} ({l.totalMatras} Matras)"
  else []

/-- The white ground of the drawing. -/
def background : Piece :=
  .single "rect" [("width", "100%"), ("height", "100%"), ("fill", "white")]

/-- The elements of a drawing with the given columns. -/
def drawing (f : Frame) (config : ExportConfig) (l : Layout) (columns : Markup) : Markup :=
  Markup.element "svg" [
      ("xmlns", "http://www.w3.org/2000/svg"),
      ("width", f.width.repr),
      ("height", f.height.repr),
      ("viewBox", s!"0 0 {f.width} {f.height}")]
    (background :: (title f config ++ taalName f config l ++ columns))

end Svg

/-- A line of music as SVG. -/
def svg (config : ExportConfig) (l : Layout) : String :=
  Markup.write Svg.apostrophe
    (Svg.drawing (Svg.frame config l) config l (Svg.columns config 0 l.vibhags))

end Sargam.Export
