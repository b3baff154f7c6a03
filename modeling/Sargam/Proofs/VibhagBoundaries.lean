import Sargam.Proofs.Drawing
import Sargam.Proofs.PageTables
import Sargam.Proofs.TableColumns
import Sargam.Proofs.VibhagStarts

/-!
# Vibhag boundaries

Each export finds the boundaries between vibhags in its own way. A page looks for the number of a
cell among the first matras of all vibhags, a drawing compares it with that of the vibhag that the
cell is in, and a row of text is joined twice and compares nothing. In the layout of a grid, a cell
has the number of the first matra of some vibhag exactly if it is the first one of its own, and the
first matras are those of the taal. So the boundaries are the same in all exports.

* `Layout.map_startMatra`, `Layout.mem_vibhagStarts_iff_first`: the first matras in a layout.
* `Taal.separatorBefore`, `Taal.strokeOf`: what is between the cells of a row, and how wide the
  outline of a matra is, as the taal has it.
* `Layout.row_eq_join`: a row as its cells, each after what separates it from the one before.
* `Export.DrawsVibhags`: exports that draw the vibhags of a taal.
* `exports_draw_vibhags`: all exports of every grid do.
-/

namespace Sargam

open Export

/-! ## Boundaries of a taal -/

/-- What stands in a row of text before the cell of a matra. -/
def Taal.separatorBefore (t : Taal) (matra : Nat) : String :=
  if matra = 1 then "" else if matra ∈ t.vibhagStarts then " | " else " "

/-- The width of the outline of a matra. -/
def Taal.strokeOf (t : Taal) (config : ExportConfig) (matra : Nat) : Nat :=
  if matra ∈ t.vibhagStarts ∧ 1 < matra then config.vibhagBorderWidth else 1

/-- A row of a page that has a cell for each matra, where those with which the vibhags of a taal
begin have a class of their own. -/
structure Export.Html.ReadRow.MarksVibhags (t : Taal) (row : ReadRow) : Prop where
  length_eq : row.cells.length = t.totalMatras
  class_iff : ∀ k cell, row.cells[k]? = some cell →
    ("vibhag-start" ∈ cell.classes ↔ k + 1 ∈ t.vibhagStarts)

/-! ## First matras in a layout -/

namespace Layout

variable {t : Taal} {g : Grid} {o : RenderOptions}

theorem startMatra_eq (hg : g.WellFormed t) {index : Nat} {v : Vibhag}
    (hv : (g.layout o).vibhags[index]? = some v) :
    v.startMatra = 1 + Taal.matrasBefore t.vibhagStructure index := by
  obtain rfl := hg.taal_eq
  rw [Grid.layout, Grid.getElem?_vibhagLayouts] at hv
  obtain ⟨size, -, rfl⟩ := Option.map_eq_some_iff.mp hv
  rfl

theorem map_startMatra (hg : g.WellFormed t) (o : RenderOptions) :
    (g.layout o).vibhags.map Vibhag.startMatra = t.vibhagStarts := by
  obtain rfl := hg.taal_eq
  refine List.ext_getElem? fun index => ?_
  rw [List.getElem?_map, Grid.layout, Grid.getElem?_vibhagLayouts, Taal.getElem?_vibhagStarts,
    Option.map_map]
  rfl

/-- A vibhag begins with a matra exactly if it is the first one of its own vibhag. -/
theorem mem_vibhagStarts_iff_first (hg : g.WellFormed t) {index : Nat} {v : Vibhag}
    (hv : (g.layout o).vibhags[index]? = some v) {c : Cell} (hc : c ∈ v.cells) :
    c.matra ∈ t.vibhagStarts ↔ c.matra = v.startMatra := by
  have hshows := showsVibhag_of_getElem? hg hv
  have hvibhag := (hshows.cell c hc).vibhag_eq
  rw [hshows.number_eq] at hvibhag
  rw [Taal.mem_vibhagStarts_iff hvibhag, startMatra_eq hg hv]

/-- Only the first vibhag begins with the first matra. -/
theorem one_lt_startMatra_iff (hg : g.WellFormed t) {index : Nat} {v : Vibhag}
    (hv : (g.layout o).vibhags[index]? = some v) : 1 < v.startMatra ↔ 0 < index := by
  rw [startMatra_eq hg hv]
  cases index with
  | zero => simp
  | succ index =>
    obtain ⟨hlength, -⟩ := List.getElem?_eq_some_iff.mp (showsVibhag_of_getElem? hg hv).size_eq
    have hbefore := List.getElem?_eq_getElem (Nat.lt_of_succ_lt hlength)
    have hpos := t.vibhag_pos hbefore
    rw [Taal.matrasBefore_succ hbefore]
    omega

end Layout

/-! ## Rows of text -/

theorem intercalate_eq_join (separator first : String) (rest : List String) :
    separator.intercalate (first :: rest) =
      first ++ String.join (rest.map fun text => separator ++ text) := by
  induction rest generalizing first with
  | nil => simp
  | cons next rest ih =>
    rw [String.intercalate_cons_of_ne_nil (List.cons_ne_nil next rest), ih, List.map_cons,
      String.join_cons]
    simp only [String.append_assoc]

theorem join_flatMap {α : Type} (f : α → List String) (items : List α) :
    String.join (items.flatMap f) = String.join (items.map fun item => String.join (f item)) := by
  induction items with
  | nil => rfl
  | cons item rest ih =>
    rw [List.flatMap_cons, String.join_append, ih, List.map_cons, String.join_cons]

namespace Layout

variable {t : Taal} {g : Grid} {o : RenderOptions}

/-- Of the cells of a vibhag, only the first one can stand after a bar. -/
theorem separatorBefore_of_first (hg : g.WellFormed t) {index : Nat} {v : Vibhag}
    (hv : (g.layout o).vibhags[index]? = some v) {c : Cell} (hc : c ∈ v.cells) :
    t.separatorBefore c.matra =
      if c.matra = v.startMatra then if index = 0 then "" else " | " else " " := by
  have hone := one_lt_startMatra_iff hg hv
  have hstart := startMatra_eq hg hv
  have hrange : v.startMatra ≤ c.matra := by
    have hmem := List.mem_map_of_mem (f := Cell.matra) hc
    rw [(showsVibhag_of_getElem? hg hv).matras_eq, List.mem_range'_1] at hmem
    exact hmem.1
  simp only [Taal.separatorBefore, mem_vibhagStarts_iff_first hg hv hc]
  split
  · rw [if_pos (by omega), if_pos (by omega)]
  · split
    · rw [if_neg (by omega)]
    · rfl

/-- The cells of a vibhag in a row: what stands before the first of them depends on the vibhag, and
spaces stand before the others. -/
theorem join_vibhag (hg : g.WellFormed t) {index : Nat} {v : Vibhag}
    (hv : (g.layout o).vibhags[index]? = some v) (cellText : Cell → String) :
    String.join (v.cells.map fun c => t.separatorBefore c.matra ++ cellText c) =
      (if index = 0 then "" else " | ") ++ " ".intercalate (v.cells.map cellText) := by
  have hseparator := fun c (hc : c ∈ v.cells) => separatorBefore_of_first hg hv hc
  have hmatras := (showsVibhag_of_getElem? hg hv).matras_eq
  have hfirst := (showsVibhag_of_getElem? hg hv).first_eq
  cases hcells : v.cells with
  | nil =>
    rw [hcells] at hfirst
    cases hfirst
  | cons c rest =>
    rw [hcells] at hseparator hmatras
    obtain ⟨hc, hrest⟩ := List.cons.inj hmatras
    have hlater : ∀ d ∈ rest, t.separatorBefore d.matra ++ cellText d = " " ++ cellText d := by
      intro d hd
      have hmem := List.mem_map_of_mem (f := Cell.matra) hd
      rw [hrest, List.mem_range'_1] at hmem
      rw [hseparator d (List.mem_cons_of_mem c hd), if_neg (by omega)]
    rw [List.map_cons, String.join_cons, List.map_congr_left hlater,
      hseparator c List.mem_cons_self, if_pos hc, List.map_cons, intercalate_eq_join, List.map_map,
      String.append_assoc]
    rfl

/-- A row is its cells, each after what separates it from the one before. -/
theorem row_eq_join (hg : g.WellFormed t) (cellText : Cell → String) :
    (g.layout o).row cellText = String.join
      ((g.layout o).cells.map fun c => t.separatorBefore c.matra ++ cellText c) := by
  have hvibhags := fun index v (hv : (g.layout o).vibhags[index]? = some v) =>
    join_vibhag hg hv cellText
  rw [row, cells, List.map_flatMap, join_flatMap]
  cases hcons : (g.layout o).vibhags with
  | nil => rfl
  | cons first rest =>
    rw [hcons] at hvibhags
    have hlater : ∀ v ∈ rest,
        String.join (v.cells.map fun c => t.separatorBefore c.matra ++ cellText c) =
          " | " ++ " ".intercalate (v.cells.map cellText) := by
      intro v hv
      obtain ⟨index, hindex⟩ := List.getElem?_of_mem hv
      exact hvibhags (index + 1) v hindex
    rw [List.map_cons, List.map_cons, intercalate_eq_join, String.join_cons,
      List.map_congr_left hlater, hvibhags 0 first rfl, if_pos rfl, List.map_map,
      String.empty_append]
    rfl

theorem length_cells_layout (hg : g.WellFormed t) (o : RenderOptions) :
    (g.layout o).cells.length = t.totalMatras := by
  rw [cells_layout hg, Grid.length_cellLayouts, hg.length_cells]

theorem matra_of_getElem? (hg : g.WellFormed t) {k : Nat} {c : Cell}
    (h : (g.layout o).cells[k]? = some c) : c.matra = k + 1 := by
  have hmatra := congrArg (fun matras : List Nat => matras[k]?) (map_matra_layout (o := o) hg)
  obtain ⟨hlt, -⟩ := List.getElem?_eq_some_iff.mp h
  rw [← List.length_map (f := Cell.matra), map_matra_layout hg, List.length_range'] at hlt
  rw [List.getElem?_map, h, List.getElem?_range' hlt, Option.map_some, Option.some.injEq] at hmatra
  omega

/-! ## Tables of a page -/

theorem vibhagClass_eq (hg : g.WellFormed t) (o : RenderOptions) (c : Cell) :
    Html.vibhagClass (g.layout o) c =
      if c.matra ∈ t.vibhagStarts then "vibhag-start" else "" := by
  have hany : (g.layout o).vibhags.any (fun v => v.startMatra == c.matra) = true ↔
      c.matra ∈ t.vibhagStarts := by
    rw [← map_startMatra hg o, List.any_eq_true, List.mem_map]
    simp only [beq_iff_eq]
  simp only [Html.vibhagClass, hany]

theorem mem_classes_iff (hg : g.WellFormed t) (kind : Html.RowKind) (c : Cell) :
    "vibhag-start" ∈ (kind.cell (g.layout o) c).read.classes ↔ c.matra ∈ t.vibhagStarts := by
  obtain ⟨others, hclasses, hothers⟩ := kind.classes_eq (g.layout o) c
  have hnone : "vibhag-start" ∉ others := fun hmem => (hothers _ hmem).1 rfl
  have hname : (!"vibhag-start".isEmpty) = true := by decide
  rw [Html.TableCell.read, hclasses, vibhagClass_eq hg, List.mem_filter, List.mem_cons,
    and_iff_left hname, or_iff_left hnone]
  split
  · rename_i hmem
    exact iff_of_true rfl hmem
  · rename_i hmem
    exact iff_of_false (by decide) hmem

theorem marksVibhags_read (hg : g.WellFormed t) (o : RenderOptions) (kind : Html.RowKind) :
    (kind.read (g.layout o)).MarksVibhags t where
  length_eq := by rw [Html.RowKind.read, List.length_map, length_cells_layout hg]
  class_iff k cell hcell := by
    rw [Html.RowKind.read, List.getElem?_map] at hcell
    obtain ⟨c, hc, rfl⟩ := Option.map_eq_some_iff.mp hcell
    rw [← matra_of_getElem? hg hc]
    exact mem_classes_iff hg kind c

/-! ## Columns of a drawing -/

theorem stroke_eq (hg : g.WellFormed t) {index : Nat} {v : Vibhag}
    (hv : (g.layout o).vibhags[index]? = some v) (config : ExportConfig) {c : Cell}
    (hc : c ∈ v.cells) :
    (if c.matra = v.startMatra ∧ 0 < index then config.vibhagBorderWidth else 1) =
      t.strokeOf config c.matra := by
  have hone := one_lt_startMatra_iff hg hv
  simp only [Taal.strokeOf, mem_vibhagStarts_iff_first hg hv hc, ← hone]
  congr 1
  refine propext (and_congr_right fun hfirst => ?_)
  rw [hfirst]

theorem columnsNodes_eq (hg : g.WellFormed t) (o : RenderOptions) (config : ExportConfig) :
    Svg.columnsNodes config 0 (g.layout o).vibhags = (g.layout o).cells.flatMap fun c =>
      Svg.columnNodes config (Svg.place config c.matra) (t.strokeOf config c.matra) c := by
  have hcells : ∀ entry ∈ (g.layout o).vibhags.zipIdx 0,
      (entry.1.cells.flatMap fun c => Svg.columnNodes config (Svg.place config c.matra)
        (if c.matra = entry.1.startMatra ∧ 0 < entry.2 then config.vibhagBorderWidth else 1) c) =
      entry.1.cells.flatMap fun c => Svg.columnNodes config (Svg.place config c.matra)
        (t.strokeOf config c.matra) c := by
    intro entry hentry
    have hv := List.mem_zipIdx_iff_getElem?.mp hentry
    exact List.flatMap_congr fun c hc => by rw [stroke_eq hg hv config hc]
  rw [Svg.columnsNodes, List.flatMap_congr hcells, cells, List.flatMap_assoc,
    ← List.zipIdx_map_fst 0 (g.layout o).vibhags, List.flatMap_map, List.zipIdx_map_fst]

end Layout

namespace Export

/-- The width of the outline of a box. -/
def Svg.strokeWidth? : Node → Option String := attribute? "stroke-width"

theorem Svg.strokes_columnNodes (config : ExportConfig) (p : Place) (stroke : Nat)
    (c : Layout.Cell) : ((columnNodes config p stroke c).filter isBox).map strokeWidth? =
      List.replicate 3 (some stroke.repr) := rfl

/-- The ground and the headings of a drawing. -/
def Svg.groundNodes (config : ExportConfig) (l : Layout) : List Node :=
  .element "rect" [("width", "100%"), ("height", "100%"), ("fill", "white")] []
    :: (titleNodes config l ++ taalNameNodes config l)

theorem Svg.readNodes_svg {t : Taal} {g : Grid} (hg : g.WellFormed t) (o : RenderOptions)
    (config : ExportConfig) :
    readNodes (svg config (g.layout o)) =
      some [.element "svg" (extent config (g.layout o)) (groundNodes config (g.layout o) ++
        ((g.layout o).cells.map fun c =>
          columnNodes config (place config c.matra) (t.strokeOf config c.matra) c).flatten)] := by
  rw [svg, (reads_drawing config (g.layout o)).readNodes_write, nodes, groundNodes,
    Layout.columnsNodes_eq hg, List.flatMap_def, List.cons_append]

/-! ## Lines of a text table -/

/-- The rows of a line stand in a table after the heading and the lines before it. -/
theorem exists_table_eq {layouts : List Layout} {index : Nat} {l : Layout}
    (h : layouts[index]? = some l) (heading : Bool) :
    ∃ before after : List String,
      table layouts heading = "\n".intercalate (before ++ tableLine (index + 1) l ++ after) ∧
      before.length = (if heading then 5 else 0) + 5 * index := by
  have hlines := tableLines_eq 1 h
  rw [Nat.add_comm 1 index] at hlines
  obtain ⟨hindex, -⟩ := List.getElem?_eq_some_iff.mp h
  cases layouts with
  | nil => cases h
  | cons first rest =>
    have hlength : (if heading then tableHeading first (first :: rest).length else []).length =
        if heading then 5 else 0 := by
      cases heading <;> rfl
    refine ⟨(if heading then tableHeading first (first :: rest).length else [])
        ++ tableLines 1 ((first :: rest).take index),
      tableLines (index + 1 + 1) ((first :: rest).drop (index + 1)) ++ tableLegend, ?_, ?_⟩
    · rw [table, hlines]
      simp only [List.append_assoc]
    · rw [List.length_append, hlength, length_tableLines, List.length_take]
      omega

/-! ## Exports of a grid -/

/-- The cells of a row of text, each after what separates it from the one before. -/
def separatedCells (t : Taal) (l : Layout) (cellText : Layout.Cell → String) : String :=
  String.join (l.cells.map fun c => t.separatorBefore c.matra ++ cellText c)

/-- A text in the middle of the columns of a table cell. -/
def centred (text : String) : String := Text.centre tableCellWidth text

/-- Exports of a line that draw the vibhags of a taal. -/
structure DrawsVibhags (t : Taal) (config : ExportConfig) (l : Layout) : Prop where
  matras_eq : l.cells.map Layout.Cell.matra = List.range' 1 t.totalMatras
  /-- All rows of the line mark the vibhags, wherever it stands on a page. -/
  page : ∀ (layouts : List Layout) (index : Nat), layouts[index]? = some l →
    ∃ (out : String) (style headings : List Node) (lines : List (List Node)) (table : Node)
      (rows : List Html.ReadRow),
      html config layouts = .ok out ∧
      (Checked.Fits config → Checked.html config layouts = some (.ok out)) ∧
      readPage out = some [.element "style" [] style,
        .element "div" [("class", "notation-container")] (headings ++ lines.flatten)] ∧
      lines.length = layouts.length ∧
      lines[index]? = some [Html.labelNode (index + 1), table] ∧
      Html.readTable table = some rows ∧ rows ≠ [] ∧ ∀ row ∈ rows, row.MarksVibhags t
  /-- In a drawing the three boxes of a matra have the outline that the taal asks for. -/
  drawing : ∃ columns : List (List Node),
    readNodes (svg config l) = some [.element "svg" (Svg.extent config l)
      (Svg.groundNodes config l ++ columns.flatten)] ∧
    columns.length = t.totalMatras ∧
    ∀ k c, l.cells[k]? = some c → ∃ column, columns[k]? = some column ∧
      column.filterMap Svg.content? = [c.matra.repr, c.symbol, c.rendered] ∧
      (column.filter Svg.isBox).map Svg.strokeWidth? =
        List.replicate 3 (some (t.strokeOf config (k + 1)).repr)
  drawing_defined : Svg.Measurable config l → Checked.drawing config l = some (svg config l)
  /-- The rows of the line in a table of text have bars where vibhags begin. -/
  table : ∀ (layouts : List Layout) (heading : Bool) (index : Nat), layouts[index]? = some l →
    ∃ before after : List String,
      Checked.table layouts heading = some (Export.table layouts heading) ∧
      Export.table layouts heading = "\n".intercalate (before ++ [
        s!"--- Line {index + 1} ---",
        "Matra:  " ++ separatedCells t l (fun c => centred c.matra.repr),
        "Symbol: " ++ separatedCells t l (fun c => centred c.symbol),
        "Swar:   " ++ separatedCells t l (fun c => centred c.displayText),
        ""] ++ after) ∧
      before.length = (if heading then 5 else 0) + 5 * index
  line : l.toLine = separatedCells t l Layout.Cell.displayText

end Export

/-- **All exports draw the vibhags of the taal.** Whatever has been done to a grid of a taal, and
however it is drawn: on a page each row of its line has the class of a boundary exactly at the first
matras of the vibhags, in a drawing the outlines of the three boxes of a matra are heavy exactly
there, unless it is the first matra, and in rows of text and in the line that is shown bars stand
exactly before these matras. -/
theorem exports_draw_vibhags (t : Taal) (edits : List Grid.Edit) (o : RenderOptions)
    (config : ExportConfig) :
    DrawsVibhags t config (((Grid.new t).run edits).layout o) := by
  have hg : ((Grid.new t).run edits).WellFormed t :=
    Grid.wellFormed_run (Grid.wellFormed_new t) edits
  generalize (Grid.new t).run edits = g at hg
  refine
    { matras_eq := Layout.map_matra_layout hg
      page := fun layouts index h => ?_
      drawing := ?_
      drawing_defined := fun h => Checked.drawing_eq_some h
      table := fun layouts heading index h => ?_
      line := Layout.row_eq_join hg _ }
  · cases layouts with
    | nil => cases h
    | cons first rest =>
      obtain ⟨out, hout, hread⟩ := Html.readPage_html config first rest
      refine ⟨out, _, _, _, Html.tableNode config (g.layout o), _, hout, fun hfits => ?_, hread,
        Html.length_linesNodes config 1 _, Html.getElem?_linesNodes config h,
        Html.readTable_tableNode config (g.layout o), ?_, fun row hrow => ?_⟩
      · rw [Checked.html_eq_some hfits, hout]
      · simp [Html.rowKinds]
      · obtain ⟨kind, -, rfl⟩ := List.mem_map.mp hrow
        exact Layout.marksVibhags_read hg o kind
  · refine ⟨_, Svg.readNodes_svg hg o config, ?_, fun k c hc => ?_⟩
    · rw [List.length_map, Layout.length_cells_layout hg]
    · rw [← Layout.matra_of_getElem? hg hc, List.getElem?_map, hc]
      exact ⟨_, rfl, Svg.filterMap_columnNodes _ _ _ c, Svg.strokes_columnNodes _ _ _ c⟩
  · obtain ⟨before, after, htable, hbefore⟩ := exists_table_eq h heading
    refine ⟨before, after, Checked.table_eq_some layouts heading, ?_, hbefore⟩
    rw [htable, tableLine]
    simp only [tableRow, Layout.row_eq_join hg]
    rfl

/-- The second line of a page, in a taal with a vibhag of one matra at each end. -/
theorem exports_draw_vibhags_short :
    ∃ t : Taal, t.vibhagStructure = [1, 2, 1] ∧ t.vibhagStarts = [1, 2, 4] ∧
      let l := ((Grid.new t).run [.fill "SA RE_k - GA"]).layout {}
      (∃ (out : String) (style headings : List Node) (lines : List (List Node)) (table : Node)
        (rows : List Html.ReadRow),
        html {} [(Grid.new Taal.dadra).layout {}, l] = .ok out ∧
        Checked.html {} [(Grid.new Taal.dadra).layout {}, l] = some (.ok out) ∧
        readPage out = some [.element "style" [] style,
          .element "div" [("class", "notation-container")] (headings ++ lines.flatten)] ∧
        lines[1]? = some [Html.labelNode 2, table] ∧
        Html.readTable table = some rows ∧ rows ≠ [] ∧ ∀ row ∈ rows, row.MarksVibhags t) ∧
      Checked.drawing {} l = some (svg {} l) ∧ [1, 2, 3, 4].map (t.strokeOf {}) = [1, 3, 1, 3] ∧
      l.toLine = separatedCells t l Layout.Cell.displayText ∧
      l.toLine = "SA | RE\u0332 - | GA" := by
  let d : Taal.Definition :=
    Taal.Outline.toDefinition { name := "short", displayName := "Short", vibhags := [1, 2, 1] }
  let t : Taal := ⟨d, Taal.Definition.fault?_eq_none_iff.mp rfl⟩
  have hdraws := exports_draw_vibhags t [.fill "SA RE_k - GA"] {} {}
  obtain ⟨out, style, headings, lines, table, rows, hout, hchecked, hread, -, hline, hrows⟩ :=
    hdraws.page [(Grid.new Taal.dadra).layout {}, _] 1 rfl
  have hfits : Checked.Fits {} := ⟨by decide, by decide⟩
  have hmeasures : Svg.Measurable {} (((Grid.new t).run [.fill "SA RE_k - GA"]).layout {}) :=
    ⟨by decide +kernel, fun _ => by decide +kernel, by decide +kernel, by decide +kernel,
      fun _ _ => by decide +kernel⟩
  exact ⟨t, rfl, rfl, ⟨out, style, headings, lines, table, rows, hout, hchecked hfits, hread, hline,
    hrows⟩, hdraws.drawing_defined hmeasures, by decide, hdraws.line, by decide +kernel⟩

end Sargam
