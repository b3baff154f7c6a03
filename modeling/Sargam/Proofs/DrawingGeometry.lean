import Mathlib.Algebra.Order.Field.Rat
import Mathlib.Tactic.Linarith
import Sargam.Proofs.VibhagBoundaries

/-!
# The geometry of a drawing

The extent of a drawing is computed from the number of matras and the headings, and its boxes are
placed one by one from the numbers of the cells and the heights above them. If the drawing is narrow
enough for a word, these agree: the boxes tile a rectangle which keeps the margin on every side and
begins below the headings. It is tiled in columns side by side, and each column in rows one below
the other, so all that has to be known of a box is which edges it shares.

* `Svg.Box`, `Svg.Tiles`: boxes, and boxes that tile a whole without gaps or overlaps.
* `Svg.Tiles.stack`, `Svg.Tiles.beside`, `Svg.tiles_columns`: how tilings are put together.
* `Svg.readColumn`: the boxes of a column with their texts, as they are read from a drawing.
* `drawing_tiles_cells`: the cells of every drawing that is not too wide.
-/

namespace Sargam

open Export

namespace Export.Svg

/-! ## Tilings -/

/-- A box whose edges are upright and level. -/
structure Box where
  left : Nat
  top : Nat
  width : Nat
  height : Nat
  deriving DecidableEq, Repr

/-- Whether a point lies in a box. Of its edges, the left and the upper one belong to it. -/
def Box.Contains (b : Box) (x y : ℚ) : Prop :=
  (b.left ≤ x ∧ x < b.left + b.width) ∧ (b.top ≤ y ∧ y < b.top + b.height)

instance (b : Box) (x y : ℚ) : Decidable (b.Contains x y) :=
  inferInstanceAs (Decidable ((_ ∧ _) ∧ _ ∧ _))

/-- Boxes tile a whole if each point of the whole lies in exactly one of them, and no other point
lies in any. -/
def Tiles (boxes : List Box) (whole : Box) : Prop :=
  ∀ x y : ℚ, boxes.countP (fun b => b.Contains x y) = if whole.Contains x y then 1 else 0

theorem tiles_singleton (b : Box) : Tiles [b] b := by
  intro x y
  rw [List.countP_singleton]
  simp only [decide_eq_true_eq]

section Joining

variable {as bs : List Box} {left top width height more : Nat}

/-- Tilings of two wholes without a common point tile what they are together. -/
theorem Tiles.append {a b whole : Box} (ha : Tiles as a) (hb : Tiles bs b)
    (hunion : ∀ x y, whole.Contains x y ↔ a.Contains x y ∨ b.Contains x y)
    (hapart : ∀ x y, a.Contains x y → ¬b.Contains x y) : Tiles (as ++ bs) whole := by
  intro x y
  rw [List.countP_append, ha x y, hb x y]
  simp only [hunion x y]
  by_cases hmem : a.Contains x y
  · rw [if_pos hmem, if_neg (hapart x y hmem), if_pos (.inl hmem)]
  · simp only [hmem, if_false, false_or, Nat.zero_add]

/-- One below the other. -/
theorem Tiles.stack (ha : Tiles as ⟨left, top, width, height⟩)
    (hb : Tiles bs ⟨left, top + height, width, more⟩) :
    Tiles (as ++ bs) ⟨left, top, width, height + more⟩ := by
  have hheight : (0 : ℚ) ≤ height := Nat.cast_nonneg height
  have hmore : (0 : ℚ) ≤ more := Nat.cast_nonneg more
  refine ha.append hb (fun x y => ?_) fun x y => ?_
  · simp only [Box.Contains, Nat.cast_add, ← and_or_left]
    refine and_congr_right fun _ => ⟨fun ⟨hge, hlt⟩ => ?_, ?_⟩
    · rcases lt_or_ge y (top + height) with hy | hy
      · exact .inl ⟨hge, hy⟩
      · exact .inr ⟨hy, by linarith⟩
    · rintro (⟨hge, hlt⟩ | ⟨hge, hlt⟩)
      · exact ⟨hge, by linarith⟩
      · exact ⟨by linarith, by linarith⟩
  · rintro ⟨-, -, hlt⟩ ⟨-, hge, -⟩
    rw [Nat.cast_add] at hge
    linarith

/-- Side by side. -/
theorem Tiles.beside (ha : Tiles as ⟨left, top, width, height⟩)
    (hb : Tiles bs ⟨left + width, top, more, height⟩) :
    Tiles (as ++ bs) ⟨left, top, width + more, height⟩ := by
  have hwidth : (0 : ℚ) ≤ width := Nat.cast_nonneg width
  have hmore : (0 : ℚ) ≤ more := Nat.cast_nonneg more
  refine ha.append hb (fun x y => ?_) fun x y => ?_
  · simp only [Box.Contains, Nat.cast_add, ← or_and_right]
    refine and_congr_left fun _ => ⟨fun ⟨hge, hlt⟩ => ?_, ?_⟩
    · rcases lt_or_ge x (left + width) with hx | hx
      · exact .inl ⟨hge, hx⟩
      · exact .inr ⟨hx, by linarith⟩
    · rintro (⟨hge, hlt⟩ | ⟨hge, hlt⟩)
      · exact ⟨hge, by linarith⟩
      · exact ⟨by linarith, by linarith⟩
  · rintro ⟨⟨-, hlt⟩, -⟩ ⟨⟨hge, -⟩, -⟩
    rw [Nat.cast_add] at hge
    linarith

/-- Columns of one width tile a whole from left to right. -/
theorem tiles_columns {columns : List (List Box)}
    (h : ∀ k column, columns[k]? = some column →
      Tiles column ⟨left + width * k, top, width, height⟩) :
    Tiles columns.flatten ⟨left, top, width * columns.length, height⟩ := by
  induction columns generalizing left with
  | nil =>
    intro x y
    have hnone : ¬(⟨left, top, width * 0, height⟩ : Box).Contains x y := by
      rintro ⟨⟨hge, hlt⟩, -⟩
      rw [Nat.mul_zero, Nat.cast_zero] at hlt
      linarith
    rw [List.length_nil, if_neg hnone]
    rfl
  | cons column rest ih =>
    have hfirst := h 0 column rfl
    have hrest : ∀ k next, rest[k]? = some next →
        Tiles next ⟨left + width + width * k, top, width, height⟩ := by
      intro k next hnext
      have hplace : left + width * (k + 1) = left + width + width * k := by
        rw [Nat.mul_succ]
        omega
      exact hplace ▸ h (k + 1) next hnext
    rw [Nat.mul_zero, Nat.add_zero] at hfirst
    rw [List.flatten_cons, List.length_cons, Nat.mul_succ, Nat.add_comm (width * _)]
    exact hfirst.beside (ih hrest)

end Joining

/-! ## Boxes that are read -/

/-- The number that a text of digits stands for. -/
def number? (text : String) : Option Nat :=
  if text ≠ "" ∧ text.toList.all Char.isDigit = true then some (Token.placeValue text.toList)
  else none

theorem number?_repr (n : Nat) : number? n.repr = some n := by
  obtain ⟨hne, hdigits, hvalue⟩ := Token.placeValue_repr n
  have hnonempty : n.repr ≠ "" := fun hempty => hne (String.toList_eq_nil_iff.mpr hempty)
  rw [number?, if_pos ⟨hnonempty, List.all_eq_true.mpr hdigits⟩, hvalue]

/-- The number in an attribute of an element. -/
def measure? (name : String) : Node → Option Nat
  | .element _ attributes _ => (attributes.lookup name).bind number?
  | .text _ => none

/-- The box that is drawn by a node, if it has a place and a size in numbers. -/
def Box.ofNode? (node : Node) : Option Box :=
  if isBox node then do
    return ⟨← measure? "x" node, ← measure? "y" node, ← measure? "width" node,
      ← measure? "height" node⟩
  else none

/-- A box of a column with the text in it, and the point around which the text stands. -/
structure LabelledBox where
  box : Box
  x : Nat
  y : Nat
  content : String

/-- The boxes of a column, each followed by its text. -/
def readColumn : List Node → Option (List LabelledBox)
  | [] => some []
  | box :: label :: rest => do
    return ⟨← Box.ofNode? box, ← measure? "x" label, ← measure? "y" label, ← content? label⟩
      :: (← readColumn rest)
  | [_] => none

/-- A text stands in the middle of its box from left to right, and between the upper and the lower
edge. -/
structure LabelledBox.Centred (b : LabelledBox) : Prop where
  middle : 2 * b.x = 2 * b.box.left + b.box.width
  below_top : b.box.top < b.y
  above_bottom : b.y < b.box.top + b.box.height

/-- A text is a drawing of some extent with columns of boxes, and no other box in it has a place. -/
def DrawsColumns (out : String) (width height : Nat) (columns : List (List LabelledBox)) : Prop :=
  ∃ (attributes : List (String × String)) (ground : List Node) (nodes : List (List Node)),
    readNodes out = some [.element "svg" attributes (ground ++ nodes.flatten)] ∧
    attributes.lookup "width" = some width.repr ∧
    attributes.lookup "height" = some height.repr ∧
    (∀ node ∈ ground, Box.ofNode? node = none) ∧
    nodes.map readColumn = columns.map some

theorem ofNode?_boxNode (config : ExportConfig) (left top boxHeight stroke : Nat) (fill : String) :
    Box.ofNode? (boxNode config left top boxHeight stroke fill) =
      some ⟨left, top, columnWidth, boxHeight⟩ := by
  have hbox : isBox (boxNode config left top boxHeight stroke fill) = true := rfl
  rw [Box.ofNode?, if_pos hbox]
  simp [measure?, boxNode, List.lookup_cons, number?_repr]

theorem measure?_labelNode (x y size : Nat) (attributes : List (String × String))
    (content : String) : measure? "x" (labelNode x y size attributes content) = some x ∧
      measure? "y" (labelNode x y size attributes content) = some y := by
  simp [measure?, labelNode, List.lookup_cons, number?_repr]

/-- The boxes of the column of a cell. -/
def cellBoxes (p : Place) (c : Layout.Cell) : List LabelledBox :=
  [⟨⟨p.left, p.numberTop, columnWidth, numberHeight⟩, p.middle, p.numberLine, c.matra.repr⟩,
    ⟨⟨p.left, p.symbolTop, columnWidth, symbolHeight⟩, p.middle, p.symbolLine, c.symbol⟩,
    ⟨⟨p.left, p.swarTop, columnWidth, swarHeight⟩, p.middle, p.swarLine, c.rendered⟩]

theorem readColumn_columnNodes (config : ExportConfig) (p : Place) (stroke : Nat)
    (c : Layout.Cell) : readColumn (columnNodes config p stroke c) = some (cellBoxes p c) := by
  simp only [columnNodes, readColumn, ofNode?_boxNode, measure?_labelNode, content?_labelNode,
    Option.bind_eq_bind, Option.bind_some]
  rfl

/-- Of the nodes before the columns none draws a box with a place of its own. -/
theorem ofNode?_of_mem_groundNodes {config : ExportConfig} {l : Layout} {node : Node}
    (h : node ∈ groundNodes config l) : Box.ofNode? node = none := by
  rcases List.mem_cons.mp h with rfl | hheading
  · rfl
  · have hlabel : isBox node = false := by
      rcases List.mem_append.mp hheading with htitle | hname
      · unfold titleNodes at htitle
        split at htitle
        · cases htitle
        · rw [List.mem_singleton.mp htitle]
          rfl
      · unfold taalNameNodes at hname
        split at hname
        · rw [List.mem_singleton.mp hname]
          rfl
        · cases hname
    rw [Box.ofNode?, hlabel]
    rfl

/-! ## Columns of a grid -/

/-- The upper edge of the boxes of cells, below the headings. -/
theorem numberTop_eq (config : ExportConfig) : numberTop config =
    20 + (if config.title = "" then 0 else 40) + (if config.includeTaalName then 30 else 0) := by
  simp only [numberTop, margin, titleHeight, taalNameHeight, String.isEmpty_iff]

theorem height_eq (config : ExportConfig) : height config = numberTop config + 130 := by
  unfold height numberTop margin numberHeight symbolHeight swarHeight
  omega

theorem cellBoxes_place {config : ExportConfig} {c : Layout.Cell} {k : Nat}
    (hleft : columnLeft c.matra = 20 + 80 * k) :
    (cellBoxes (place config c.matra) c).map LabelledBox.box =
      [⟨20 + 80 * k, numberTop config, 80, 30⟩, ⟨20 + 80 * k, numberTop config + 30, 80, 30⟩,
        ⟨20 + 80 * k, numberTop config + 60, 80, 50⟩] := by
  simp only [cellBoxes, place, List.map_cons, List.map_nil, hleft]
  rfl

theorem centred_of_mem_cellBoxes {config : ExportConfig} {c : Layout.Cell} {b : LabelledBox}
    (h : b ∈ cellBoxes (place config c.matra) c) : b.Centred := by
  have hmiddle : 2 * columnMiddle c.matra = 2 * columnLeft c.matra + 80 := by
    unfold columnMiddle columnWidth
    omega
  simp only [cellBoxes, List.mem_cons, List.not_mem_nil, or_false] at h
  -- Each text is a little below the middle of its box.
  rcases h with rfl | rfl | rfl
  · refine ⟨hmiddle, ?_, ?_⟩ <;> dsimp only [place, numberHeight] <;> omega
  · refine ⟨hmiddle, ?_, ?_⟩ <;> dsimp only [place, symbolHeight] <;> omega
  · refine ⟨hmiddle, ?_, ?_⟩ <;> dsimp only [place, swarHeight] <;> omega

/-- The boxes of a cell tile its column. -/
theorem tiles_column (left top : Nat) :
    Tiles [⟨left, top, 80, 30⟩, ⟨left, top + 30, 80, 30⟩, ⟨left, top + 60, 80, 50⟩]
      ⟨left, top, 80, 110⟩ := by
  have hlower := (tiles_singleton ⟨left, top + 30, 80, 30⟩).stack
    (tiles_singleton ⟨left, top + 30 + 30, 80, 50⟩)
  have hall := (tiles_singleton ⟨left, top, 80, 30⟩).stack hlower
  exact hall

end Export.Svg

namespace Layout

variable {t : Taal} {g : Grid} {o : RenderOptions}

/-- The boxes of all cells, column by column. -/
def cellBoxes (config : ExportConfig) (l : Layout) : List (List Svg.LabelledBox) :=
  l.cells.map fun c => Svg.cellBoxes (Svg.place config c.matra) c

theorem getElem?_cellBoxes {config : ExportConfig} {l : Layout} {k : Nat}
    {column : List Svg.LabelledBox} (h : (cellBoxes config l)[k]? = some column) :
    ∃ c, l.cells[k]? = some c ∧ Svg.cellBoxes (Svg.place config c.matra) c = column := by
  rw [cellBoxes, List.getElem?_map] at h
  exact Option.map_eq_some_iff.mp h

theorem length_cellBoxes (hg : g.WellFormed t) (config : ExportConfig) :
    (cellBoxes config (g.layout o)).length = t.totalMatras := by
  rw [cellBoxes, List.length_map, length_cells_layout hg]

section Wide

variable (hg : g.WellFormed t) (hwide : 80 * t.totalMatras + 40 < 4294967296)

include hg hwide

theorem columnLeft_of_getElem? {k : Nat} {c : Cell} (hc : (g.layout o).cells[k]? = some c) :
    Svg.columnLeft c.matra = 20 + 80 * k := by
  obtain ⟨hmod, -, -⟩ := Checked.matra_mod_eq hg hwide (List.mem_of_getElem? hc)
  have hmatra := matra_of_getElem? hg hc
  rw [Svg.columnLeft, hmod, hmatra]
  unfold Svg.margin Svg.columnWidth
  omega

theorem drawsColumns_svg (config : ExportConfig) :
    Svg.DrawsColumns (svg config (g.layout o)) (80 * t.totalMatras + 40)
      (Svg.numberTop config + 130) (cellBoxes config (g.layout o)) := by
  refine ⟨_, _, _, Svg.readNodes_svg hg o config, ?_, ?_,
    fun node => Svg.ofNode?_of_mem_groundNodes, ?_⟩
  · rw [← Checked.width_layout hg hwide o]
    rfl
  · rw [← Svg.height_eq]
    rfl
  · rw [cellBoxes, List.map_map, List.map_map]
    exact List.map_congr_left fun c _ => Svg.readColumn_columnNodes config _ _ c

theorem tiles_cellBoxes (config : ExportConfig) :
    Svg.Tiles ((cellBoxes config (g.layout o)).flatten.map Svg.LabelledBox.box)
      ⟨20, Svg.numberTop config, 80 * t.totalMatras, 110⟩ := by
  have hcolumns : ∀ k column, ((cellBoxes config (g.layout o)).map
      (List.map Svg.LabelledBox.box))[k]? = some column →
      Svg.Tiles column ⟨20 + 80 * k, Svg.numberTop config, 80, 110⟩ := by
    intro k column hcolumn
    rw [List.getElem?_map] at hcolumn
    obtain ⟨boxes, hboxes, rfl⟩ := Option.map_eq_some_iff.mp hcolumn
    obtain ⟨c, hc, rfl⟩ := getElem?_cellBoxes hboxes
    rw [Svg.cellBoxes_place (columnLeft_of_getElem? hg hwide hc)]
    exact Svg.tiles_column _ _
  have htiles := Svg.tiles_columns hcolumns
  rwa [List.length_map, length_cellBoxes hg, ← List.map_flatten] at htiles

end Wide

end Layout

/-- **The cells of a drawing tile it.** Whatever has been done to a grid of a taal, and however it
is drawn, if only the drawing is narrow enough for a word: it has a column for each matra. The
columns are 80 wide and stand side by side; each has three boxes of heights 30, 30 and 50, one below
the other, for the number of the matra, its glyph and its music text, and these texts stand in the
boxes, in the middle from left to right. Together the boxes tile a rectangle that begins below the
headings and keeps a margin of 20 to the other three edges of the drawing. If the font sizes are
words, so are all measures on the way. -/
theorem drawing_tiles_cells (t : Taal) (hwide : 80 * t.totalMatras + 40 < 4294967296)
    (edits : List Grid.Edit) (o : RenderOptions) (config : ExportConfig) :
    let l := ((Grid.new t).run edits).layout o
    let top := 20 + (if config.title = "" then 0 else 40) +
      (if config.includeTaalName then 30 else 0)
    let width := 80 * t.totalMatras + 40
    let height := top + 130
    (∃ columns : List (List Svg.LabelledBox),
      Svg.DrawsColumns (svg config l) width height columns ∧
      columns.length = t.totalMatras ∧
      (∀ (k : Nat) (column : List Svg.LabelledBox), columns[k]? = some column →
        column.map Svg.LabelledBox.box = [⟨20 + 80 * k, top, 80, 30⟩,
          ⟨20 + 80 * k, top + 30, 80, 30⟩, ⟨20 + 80 * k, top + 60, 80, 50⟩] ∧
        (∀ b ∈ column, b.Centred) ∧
        ∃ c, l.cells[k]? = some c ∧ c.matra = k + 1 ∧
          column.map Svg.LabelledBox.content = [c.matra.repr, c.symbol, c.rendered]) ∧
      Svg.Tiles (columns.flatten.map Svg.LabelledBox.box)
        ⟨20, top, width - 40, height - 20 - top⟩) ∧
    ((config.title ≠ "" → config.fontSize + 6 < 4294967296) →
      config.fontSize + 2 < 4294967296 → Checked.drawing config l = some (svg config l)) := by
  intro l top width height
  have hg : ((Grid.new t).run edits).WellFormed t :=
    Grid.wellFormed_run (Grid.wellFormed_new t) edits
  have htop : Svg.numberTop config = top := Svg.numberTop_eq config
  have hdraws := Layout.drawsColumns_svg (o := o) hg hwide config
  have htiles := Layout.tiles_cellBoxes (o := o) hg hwide config
  rw [htop] at hdraws htiles
  have hwhole : width - 40 = 80 * t.totalMatras ∧ height - 20 - top = 110 := by omega
  refine ⟨⟨l.cellBoxes config, hdraws, Layout.length_cellBoxes hg config,
    fun k column hcolumn => ?_, ?_⟩, fun htitle hswar => ?_⟩
  · obtain ⟨c, hc, rfl⟩ := Layout.getElem?_cellBoxes hcolumn
    rw [← htop, Svg.cellBoxes_place (Layout.columnLeft_of_getElem? hg hwide hc)]
    exact ⟨rfl, fun b => Svg.centred_of_mem_cellBoxes, c, hc, Layout.matra_of_getElem? hg hc, rfl⟩
  · rw [hwhole.1, hwhole.2]
    exact htiles
  · exact Checked.drawing_eq_some (Checked.measurable_layout hg hwide htitle hswar o)

/-- A line of dadra with both headings, and the column of its second matra. -/
theorem drawing_tiles_cells_dadra :
    let l := ((Grid.new Taal.dadra).run [.fill "SA RE_k+1 -"]).layout {}
    (∃ (columns : List (List Svg.LabelledBox)) (column : List Svg.LabelledBox),
      Svg.DrawsColumns (svg {} l) 520 220 columns ∧ columns.length = 6 ∧
      columns[1]? = some column ∧ column.map Svg.LabelledBox.box =
        [⟨100, 90, 80, 30⟩, ⟨100, 120, 80, 30⟩, ⟨100, 150, 80, 50⟩] ∧
      (∀ b ∈ column, b.Centred) ∧
      Svg.Tiles (columns.flatten.map Svg.LabelledBox.box) ⟨20, 90, 480, 110⟩) ∧
    Checked.drawing {} l = some (svg {} l) := by
  intro l
  have htotal : Taal.dadra.totalMatras = 6 := by decide +kernel
  have hwide : 80 * Taal.dadra.totalMatras + 40 < 4294967296 := by
    rw [htotal]
    decide
  obtain ⟨⟨columns, hdraws, hlength, hcolumn, htiles⟩, hdefined⟩ :=
    drawing_tiles_cells Taal.dadra hwide [.fill "SA RE_k+1 -"] {} {}
  rw [htotal] at hdraws hlength htiles
  have hsecond : 1 < columns.length := by omega
  obtain ⟨hboxes, hcentred, -⟩ := hcolumn 1 _ (List.getElem?_eq_getElem hsecond)
  exact ⟨⟨columns, columns[1], hdraws, hlength, List.getElem?_eq_getElem hsecond, hboxes, hcentred,
    htiles⟩, hdefined (fun _ => by decide) (by decide)⟩

end Sargam
