import Sargam.Proofs.Checked.Export
import Sargam.Proofs.Nodes

/-!
# Drawings of any data

The title, the colours and the texts of a drawing come from outside and may hold anything. They
stand in it as values of attributes and as data, so the drawing is read as one element with the
same boxes and texts for all of them, and each text and each colour is read as it was given. How
many boxes there are is decided by the cells alone. Which colours a cell has depends on its mark,
and is said here by the settings that they come from.

* `Svg.cellColours`: the colours of a cell with a mark.
* `Svg.nodes`: the boxes and texts of a drawing in order.
* `Svg.reads_drawing`: a drawing is read as them.
* `Svg.countP_isBox_nodes`, `Svg.filterMap_content_nodes`: how many boxes there are, and what the
  texts say.
* `Svg.filterMap_fill_nodes`, `Svg.filterMap_stroke_nodes`: which colours there are.
* `svg_reads_back`: what is drawn for any layout is read back.
-/

namespace Sargam.Export

/-! ## Boxes and texts -/

namespace Svg

/-- The colours of a cell with a mark, or without one: that of its glyph, and that behind its
music text. -/
def cellColours (config : ExportConfig) : Option Marker → String × String
  | some .sam => (config.samColor, "#ffeaea")
  | some .khali => (config.khaliColor, "#eaf4ff")
  | some (.tali _) | none => (config.borderColor, config.cellBgColor)

theorem cellColours_eq (config : ExportConfig) (marker : Option Marker) :
    (symbolColor config marker, swarFill config marker) = cellColours config marker := by
  rcases marker with _ | _ | _ | _ <;> rfl

/-- A box of a column. -/
def boxNode (config : ExportConfig) (left top boxHeight stroke : Nat) (fill : String) : Node :=
  .element "rect" [("x", left.repr), ("y", top.repr), ("width", columnWidth.repr),
    ("height", boxHeight.repr), ("fill", fill), ("stroke", config.borderColor),
    ("stroke-width", stroke.repr)] []

/-- A text around a point, with further attributes. -/
def labelNode (x y size : Nat) (attributes : List (String × String)) (content : String) : Node :=
  .element "text"
    ([("x", x.repr), ("y", y.repr), ("text-anchor", "middle"), ("font-size", size.repr)]
      ++ attributes ++ [("font-family", "Arial, sans-serif")])
    (Node.ofText content)

/-- The three boxes of a cell, each with its text. -/
def columnNodes (config : ExportConfig) (p : Place) (stroke : Nat) (c : Layout.Cell) :
    List Node :=
  [boxNode config p.left p.numberTop numberHeight stroke config.headerBgColor,
    labelNode p.middle p.numberLine (config.fontSize - 4) [("fill", "#666")] c.matra.repr,
    boxNode config p.left p.symbolTop symbolHeight stroke config.headerBgColor,
    labelNode p.middle p.symbolLine config.fontSize
      [("font-weight", "bold"), ("fill", (cellColours config c.marker).1)] c.symbol,
    boxNode config p.left p.swarTop swarHeight stroke (cellColours config c.marker).2,
    labelNode p.middle p.swarLine p.swarSize [] c.rendered]

/-- The cells of vibhags, the first of which has `index` vibhags before it. The outline is heavy
where a vibhag begins that has another one before it. -/
def columnsNodes (config : ExportConfig) (index : Nat) (vibhags : List Layout.Vibhag) :
    List Node :=
  (vibhags.zipIdx index).flatMap fun (v, index) =>
    v.cells.flatMap fun c => columnNodes config (place config c.matra)
      (if c.matra = v.startMatra ∧ 0 < index then config.vibhagBorderWidth else 1) c

def titleNodes (config : ExportConfig) (l : Layout) : List Node :=
  if config.title = "" then []
  else [labelNode (width l / 2) (margin + 25) (config.fontSize + 6) [("font-weight", "bold")]
    config.title]

def taalNameNodes (config : ExportConfig) (l : Layout) : List Node :=
  if config.includeTaalName then
    [labelNode (width l / 2) (margin + titleHeight config + 20) config.fontSize
      [("fill", "#666")] s!"{l.taalDisplayName} ({l.totalMatras} Matras)"]
  else []

/-- The boxes and texts of a drawing: the ground, the headings and the cells. -/
def nodes (config : ExportConfig) (l : Layout) : List Node :=
  .element "rect" [("width", "100%"), ("height", "100%"), ("fill", "white")] []
    :: (titleNodes config l ++ taalNameNodes config l ++ columnsNodes config 0 l.vibhags)

/-- The extent of a drawing. -/
def extent (config : ExportConfig) (l : Layout) : List (String × String) :=
  [("xmlns", "http://www.w3.org/2000/svg"), ("width", (width l).repr),
    ("height", (height config).repr), ("viewBox", s!"0 0 {width l} {height config}")]

/-! ## Reading a drawing -/

theorem reads_box (config : ExportConfig) (left top boxHeight stroke : Nat) (fill : String) :
    Markup.Reads [box config left top boxHeight stroke fill]
      [boxNode config left top boxHeight stroke fill] :=
  .single (by decide) (.of_names ["x", "y", "width", "height", "fill", "stroke", "stroke-width"]
    rfl (by decide) (by decide))

/-- The names of the attributes of a text with further ones. -/
def labelNames (further : List String) : List String :=
  ["x", "y", "text-anchor", "font-size"] ++ further ++ ["font-family"]

theorem reads_label (x y size : Nat) (attributes : List (String × String)) (content : String)
    (further : List String) (h : attributes.map Prod.fst = further)
    (hnames : (labelNames further).all isName = true) (hnodup : (labelNames further).Nodup) :
    Markup.Reads (label x y size attributes content) [labelNode x y size attributes content] := by
  refine .element_data (by decide) (.of_names (labelNames further) ?_ hnames hnodup) content
  rw [List.map_append, List.map_append, h]
  rfl

theorem reads_column (config : ExportConfig) (p : Place) (stroke : Nat) (c : Layout.Cell) :
    Markup.Reads (column config p stroke c) (columnNodes config p stroke c) := by
  have hnumber := (reads_box config p.left p.numberTop numberHeight stroke
    config.headerBgColor).append (reads_label p.middle p.numberLine (config.fontSize - 4)
      [("fill", "#666")] c.matra.repr ["fill"] rfl (by decide) (by decide))
  have hsymbol := (reads_box config p.left p.symbolTop symbolHeight stroke
    config.headerBgColor).append (reads_label p.middle p.symbolLine config.fontSize
      [("font-weight", "bold"), ("fill", (cellColours config c.marker).1)] c.symbol
      ["font-weight", "fill"] rfl (by decide) (by decide))
  have hswar := (reads_box config p.left p.swarTop swarHeight stroke
    (cellColours config c.marker).2).append (reads_label p.middle p.swarLine p.swarSize []
      c.rendered [] rfl (by decide) (by decide))
  have hglyph : symbolColor config c.marker = (cellColours config c.marker).1 :=
    congrArg Prod.fst (cellColours_eq config c.marker)
  have htint : swarFill config c.marker = (cellColours config c.marker).2 :=
    congrArg Prod.snd (cellColours_eq config c.marker)
  rw [column, hglyph, htint]
  exact (hnumber.append hsymbol).append hswar

theorem reads_columns (config : ExportConfig) (index : Nat) (vibhags : List Layout.Vibhag) :
    Markup.Reads (columns config index vibhags) (columnsNodes config index vibhags) := by
  induction vibhags generalizing index with
  | nil => exact .nil
  | cons v rest ih =>
    rw [columns, columnsNodes, List.zipIdx_cons, List.flatMap_cons]
    exact .append (.flatMap fun c _ => reads_column config _ _ c) (ih (index + 1))

theorem reads_title (config : ExportConfig) (l : Layout) :
    Markup.Reads (title (frame config l) config) (titleNodes config l) := by
  unfold title titleNodes
  by_cases htitle : config.title = ""
  · rw [if_pos (String.isEmpty_iff.mpr htitle), if_pos htitle]
    exact .nil
  · rw [if_neg (mt String.isEmpty_iff.mp htitle), if_neg htitle]
    exact reads_label _ _ _ _ _ ["font-weight"] rfl (by decide) (by decide)

theorem reads_taalName (config : ExportConfig) (l : Layout) :
    Markup.Reads (taalName (frame config l) config l) (taalNameNodes config l) := by
  unfold taalName taalNameNodes
  split
  · exact reads_label _ _ _ _ _ ["fill"] rfl (by decide) (by decide)
  · exact .nil

/-- A drawing is read as one element with all its boxes and texts. -/
theorem reads_drawing (config : ExportConfig) (l : Layout) :
    Markup.Reads (drawing (frame config l) config l (columns config 0 l.vibhags))
      [.element "svg" (extent config l) (nodes config l)] := by
  refine .element (by decide) (.of_names ["xmlns", "width", "height", "viewBox"] rfl (by decide)
    (by decide)) ?_
  have hground : Markup.Reads [background]
      [.element "rect" [("width", "100%"), ("height", "100%"), ("fill", "white")] []] :=
    .single (by decide) (.of_names ["width", "height", "fill"] rfl (by decide) (by decide))
  exact hground.append (((reads_title config l).append (reads_taalName config l)).append
    (reads_columns config 0 l.vibhags))

/-! ## What is drawn -/

/-- Whether a node is a box. -/
def isBox : Node → Bool
  | .element "rect" _ _ => true
  | _ => false

/-- What a text of a drawing says. -/
def content? : Node → Option String
  | .element "text" _ [] => some ""
  | .element "text" _ [.text text] => some text
  | _ => none

/-- The value of an attribute of an element. -/
def attribute? (name : String) : Node → Option String
  | .element _ attributes _ => attributes.lookup name
  | .text _ => none

theorem content?_labelNode (x y size : Nat) (attributes : List (String × String))
    (content : String) : content? (labelNode x y size attributes content) = some content := by
  unfold labelNode Node.ofText
  split
  · rename_i h
    rw [h]
    rfl
  · rfl

theorem countP_columnNodes (config : ExportConfig) (p : Place) (stroke : Nat)
    (c : Layout.Cell) : (columnNodes config p stroke c).countP isBox = 3 := rfl

theorem countP_columnsNodes (config : ExportConfig) (index : Nat)
    (vibhags : List Layout.Vibhag) :
    (columnsNodes config index vibhags).countP isBox =
      3 * (vibhags.flatMap Layout.Vibhag.cells).length := by
  induction vibhags generalizing index with
  | nil => rfl
  | cons v rest ih =>
    have hrest := ih (index + 1)
    rw [columnsNodes] at hrest
    rw [columnsNodes, List.zipIdx_cons, List.flatMap_cons, List.countP_append, hrest,
      List.countP_flatMap, List.flatMap_cons, List.length_append, Nat.mul_add]
    simp only [Function.comp_def, countP_columnNodes, List.map_const', List.sum_replicate_nat,
      Nat.mul_comm]

/-- What is told of the cells, one after the other, if it can be told of each wherever its column
stands. -/
theorem filterMap_columnsNodes {config : ExportConfig} {told? : Node → Option String}
    {told : Layout.Cell → List String}
    (h : ∀ p stroke c, (columnNodes config p stroke c).filterMap told? = told c) (index : Nat)
    (vibhags : List Layout.Vibhag) : (columnsNodes config index vibhags).filterMap told? =
      (vibhags.flatMap Layout.Vibhag.cells).flatMap told := by
  induction vibhags generalizing index with
  | nil => rfl
  | cons v rest ih =>
    have hrest := ih (index + 1)
    rw [columnsNodes] at hrest
    rw [columnsNodes, List.zipIdx_cons, List.flatMap_cons, List.filterMap_append, hrest,
      List.filterMap_flatMap, List.flatMap_cons, List.flatMap_append]
    simp only [h]

theorem filterMap_columnNodes (config : ExportConfig) (p : Place) (stroke : Nat)
    (c : Layout.Cell) : (columnNodes config p stroke c).filterMap content? =
      [c.matra.repr, c.symbol, c.rendered] := by
  simp only [columnNodes, List.filterMap_cons, content?_labelNode, List.filterMap_nil]
  rfl

theorem filterMap_fill_columnNodes (config : ExportConfig) (p : Place) (stroke : Nat)
    (c : Layout.Cell) : (columnNodes config p stroke c).filterMap (attribute? "fill") =
      [config.headerBgColor, "#666", config.headerBgColor, (cellColours config c.marker).1,
        (cellColours config c.marker).2] := rfl

theorem filterMap_stroke_columnNodes (config : ExportConfig) (p : Place) (stroke : Nat)
    (c : Layout.Cell) : (columnNodes config p stroke c).filterMap (attribute? "stroke") =
      List.replicate 3 config.borderColor := rfl

/-- There is one box for the ground, and three for each cell. -/
theorem countP_isBox_nodes (config : ExportConfig) (l : Layout) :
    (nodes config l).countP isBox = 1 + 3 * l.cells.length := by
  have htitle : (titleNodes config l).countP isBox = 0 := by
    unfold titleNodes
    split <;> rfl
  have hname : (taalNameNodes config l).countP isBox = 0 := by
    unfold taalNameNodes
    split <;> rfl
  rw [nodes, List.countP_cons_of_pos rfl, List.countP_append, List.countP_append, htitle, hname,
    countP_columnsNodes, Layout.cells]
  omega

/-- What is told of a drawing: of the ground and the headings first, then of the cells. -/
theorem filterMap_nodes {config : ExportConfig} {told? : Node → Option String}
    {told : Layout.Cell → List String}
    (h : ∀ p stroke c, (columnNodes config p stroke c).filterMap told? = told c) (l : Layout) :
    (nodes config l).filterMap told? =
      [.element "rect" [("width", "100%"), ("height", "100%"), ("fill", "white")] []].filterMap
        told? ++ ((titleNodes config l).filterMap told? ++
          (taalNameNodes config l).filterMap told? ++ l.cells.flatMap told) := by
  rw [nodes, ← List.singleton_append, List.filterMap_append, List.filterMap_append,
    List.filterMap_append, filterMap_columnsNodes h, Layout.cells]

/-- What the texts of a drawing say, in order. -/
theorem filterMap_content_nodes (config : ExportConfig) (l : Layout) :
    (nodes config l).filterMap content? =
      (if config.title = "" then [] else [config.title]) ++
        (if config.includeTaalName then [s!"{l.taalDisplayName} ({l.totalMatras} Matras)"]
          else []) ++
        l.cells.flatMap fun c => [c.matra.repr, c.symbol, c.rendered] := by
  have htitle : (titleNodes config l).filterMap content? =
      if config.title = "" then [] else [config.title] := by
    unfold titleNodes
    split
    · rfl
    · rw [List.filterMap_cons, content?_labelNode, List.filterMap_nil]
  have hname : (taalNameNodes config l).filterMap content? =
      if config.includeTaalName then [s!"{l.taalDisplayName} ({l.totalMatras} Matras)"]
      else [] := by
    unfold taalNameNodes
    split
    · rw [List.filterMap_cons, content?_labelNode, List.filterMap_nil]
    · rfl
  rw [filterMap_nodes (filterMap_columnNodes config), htitle, hname]
  rfl

/-- The colours that areas and texts of a drawing are filled with, in order. The title and the
music text have none of their own. -/
theorem filterMap_fill_nodes (config : ExportConfig) (l : Layout) :
    (nodes config l).filterMap (attribute? "fill") =
      "white" :: ((if config.includeTaalName then ["#666"] else []) ++ l.cells.flatMap fun c =>
        [config.headerBgColor, "#666", config.headerBgColor, (cellColours config c.marker).1,
          (cellColours config c.marker).2]) := by
  have htitle : (titleNodes config l).filterMap (attribute? "fill") = [] := by
    unfold titleNodes
    split <;> rfl
  have hname : (taalNameNodes config l).filterMap (attribute? "fill") =
      if config.includeTaalName then ["#666"] else [] := by
    unfold taalNameNodes
    split <;> rfl
  rw [filterMap_nodes (filterMap_fill_columnNodes config), htitle, hname]
  rfl

/-- The colours of the outlines of a drawing, in order: the boxes of cells have one. -/
theorem filterMap_stroke_nodes (config : ExportConfig) (l : Layout) :
    (nodes config l).filterMap (attribute? "stroke") =
      l.cells.flatMap fun _ => List.replicate 3 config.borderColor := by
  have htitle : (titleNodes config l).filterMap (attribute? "stroke") = [] := by
    unfold titleNodes
    split <;> rfl
  have hname : (taalNameNodes config l).filterMap (attribute? "stroke") = [] := by
    unfold taalNameNodes
    split <;> rfl
  rw [filterMap_nodes (filterMap_stroke_columnNodes config), htitle, hname]
  rfl

end Svg

/-! ## Drawings read back -/

/-- **A drawing is read back as what it was drawn for.** It is defined if the measures that are
drawn are words. Whatever the settings and the layout hold, it is read as one element, in which
there are the ground, the title unless it is empty, the name of the taal if it is wanted, and for
each cell three boxes, each with its text. All texts are read as they were given, and so are all
colours: those of the settings, which the mark of a cell chooses between, and the fixed ones. -/
theorem svg_reads_back (config : ExportConfig) (l : Layout) :
    (Svg.Measurable config l → Checked.drawing config l = some (svg config l)) ∧
    readNodes (svg config l) =
      some [.element "svg" (Svg.extent config l) (Svg.nodes config l)] ∧
    (Svg.nodes config l).countP Svg.isBox = 1 + 3 * l.cells.length ∧
    (Svg.nodes config l).filterMap Svg.content? =
      (if config.title = "" then [] else [config.title]) ++
        (if config.includeTaalName then [s!"{l.taalDisplayName} ({l.totalMatras} Matras)"]
          else []) ++
        l.cells.flatMap (fun c => [c.matra.repr, c.symbol, c.rendered]) ∧
    (Svg.nodes config l).filterMap (Svg.attribute? "fill") =
      "white" :: ((if config.includeTaalName then ["#666"] else []) ++ l.cells.flatMap fun c =>
        [config.headerBgColor, "#666", config.headerBgColor, (Svg.cellColours config c.marker).1,
          (Svg.cellColours config c.marker).2]) ∧
    (Svg.nodes config l).filterMap (Svg.attribute? "stroke") =
      l.cells.flatMap fun _ => List.replicate 3 config.borderColor :=
  ⟨fun h => Checked.drawing_eq_some h, (Svg.reads_drawing config l).readNodes_write,
    Svg.countP_isBox_nodes config l, Svg.filterMap_content_nodes config l,
    Svg.filterMap_fill_nodes config l, Svg.filterMap_stroke_nodes config l⟩

/-- A drawing as wide and with letters as large as can be, of texts and colours that look like
markup, and of a cell without music. The last number counts modulo 2 ^ 32. -/
theorem svg_reads_back_markup :
    let config : ExportConfig :=
      { title := "</svg><a b=\"&amp;\">", fontSize := 4294967289, borderColor := "\"/><rect ",
        samColor := "&", khaliColor := "\x27", headerBgColor := "<>", cellBgColor := "&quot;" }
    let first : Layout.Cell := ⟨1, some .sam, "X", none, "<S>", false⟩
    let second : Layout.Cell := ⟨2, some .khali, "</text>", some "na", "", true⟩
    let third : Layout.Cell := ⟨4294967299, none, "", none, "R\x27 & G", false⟩
    let l : Layout := ⟨"dadra", "\"&lt;\"", 53687090, [2, 1], [⟨1, 1, 2, [first, second]⟩,
      ⟨2, 4294967299, 4294967299, [third]⟩]⟩
    (Svg.Measurable config l ∧ Checked.drawing config l = some (svg config l)) ∧
      readNodes (svg config l) =
        some [.element "svg" (Svg.extent config l) (Svg.nodes config l)] ∧
      (Svg.nodes config l).countP Svg.isBox = 10 ∧
      (Svg.nodes config l).filterMap Svg.content? =
        ["</svg><a b=\"&amp;\">", "\"&lt;\" (53687090 Matras)", "1", "X", "<S>", "2", "</text>", "",
          "4294967299", "", "R\x27 & G"] ∧
      (Svg.nodes config l).filterMap (Svg.attribute? "fill") =
        ["white", "#666", "<>", "#666", "<>", "&", "#ffeaea", "<>", "#666", "<>", "\x27",
          "#eaf4ff", "<>", "#666", "<>", "\"/><rect ", "&quot;"] ∧
      (Svg.nodes config l).filterMap (Svg.attribute? "stroke") =
        List.replicate 9 "\"/><rect " := by
  intro config first second third l
  have hmeasures : Svg.Measurable config l :=
    ⟨by decide, fun _ => by decide, by decide, by decide, by decide⟩
  obtain ⟨hdefined, hread, hboxes, hcontents, hfills, hstrokes⟩ := svg_reads_back config l
  exact ⟨⟨hmeasures, hdefined hmeasures⟩, hread, hboxes, hcontents.trans (by decide +kernel),
    hfills, hstrokes⟩

end Sargam.Export
