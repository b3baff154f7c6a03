import Sargam.Proofs.Checked.Operations
import Sargam.Proofs.DisplayLine
import Sargam.Proofs.PageNodes

/-!
# Tables of a page

A page is read as its style sheet and a container, and the container as the headings that are
wanted and, for each line, a label and a table. The rows of a table are of at most four kinds, and
all kinds are written alike: a row has one cell for each cell of the line, and a cell has the class
of the vibhag that begins with it before any other.

* `Html.RowKind`, `Html.rowKinds`: the rows of a line.
* `Html.pageNodes`, `Html.shows_page`: what a page is read as.
* `Html.readTable`: the rows of a table, with the classes and the text of each cell.
* `Html.readTable_tableNode`: the table of a line is read as its rows.
-/

namespace Sargam.Export

namespace Html

/-! ## Rows of a line -/

/-- A kind of row: its class, if it has one, and its cell for a cell of a line. The cell has some
text, and the class of the vibhag that begins with it before others. -/
structure RowKind where
  className : Option String
  cell : Layout → Layout.Cell → TableCell
  text_ne : ∀ l c, (cell l c).text ≠ ""
  classes_eq : ∀ l c, ∃ others, (cell l c).classes = vibhagClass l c :: others ∧
    ∀ name ∈ others, name ≠ "vibhag-start" ∧ ' ' ∉ name.toList

theorem orBlank_ne (text : String) : orBlank text ≠ "" := by
  unfold orBlank
  split
  · decide
  · rename_i htext
    exact fun hempty => htext (String.isEmpty_iff.mpr hempty)

namespace RowKind

def matra : RowKind where
  className := some "matra-number"
  cell := matraCell
  text_ne _ c := Marker.repr_ne rfl c.matra
  classes_eq _ _ := ⟨[], rfl, List.forall_mem_nil _⟩

def symbol : RowKind where
  className := some "symbol-row"
  cell := symbolCell
  text_ne _ c := orBlank_ne c.symbol
  classes_eq _ c := by
    refine ⟨[symbolClass c.marker], rfl, List.forall_mem_singleton.mpr ?_⟩
    unfold symbolClass
    split <;> decide

def swar : RowKind where
  className := none
  cell := swarCell
  text_ne _ c := orBlank_ne c.rendered
  classes_eq _ c := by
    refine ⟨["swar-cell", swarClass c.marker], rfl,
      List.forall_mem_cons.mpr ⟨by decide, List.forall_mem_singleton.mpr ?_⟩⟩
    unfold swarClass
    split <;> decide

def bol : RowKind where
  className := some "bol-row"
  cell := bolCell
  text_ne _ c := orBlank_ne (c.bol.getD "")
  classes_eq _ _ := ⟨[], rfl, List.forall_mem_nil _⟩

def attributes (kind : RowKind) : List (String × String) :=
  kind.className.toList.map fun name => ("class", name)

end RowKind

/-- The rows of a line in order. -/
def rowKinds (config : ExportConfig) (l : Layout) : List RowKind :=
  (if config.includeMatraNumbers then [.matra] else []) ++ [.symbol, .swar]
    ++ (if showsBols config l then [.bol] else [])

theorem lineRows_eq (config : ExportConfig) (l : Layout) :
    lineRows config l =
      (rowKinds config l).flatMap fun kind => lineRow l kind.attributes kind.cell := by
  unfold lineRows rowKinds
  rw [List.flatMap_append, List.flatMap_append]
  congr 1
  · rw [List.append_assoc]
    congr 1
    · split
      · exact (List.append_nil _).symm
      · rfl
    · exact congrArg _ (List.append_nil _).symm
  · split
    · exact (List.append_nil _).symm
    · rfl

/-! ## Elements -/

def cellNode (cell : TableCell) : Node :=
  .element "td" [("class", classList cell.classes)] [.text cell.text]

def rowNode (l : Layout) (kind : RowKind) : Node :=
  .element "tr" kind.attributes (l.cells.map fun c => cellNode (kind.cell l c))

def labelNode (lineNumber : Nat) : Node :=
  .element "div" [("class", "line-label")] [.text s!"Line {lineNumber}"]

def tableNode (config : ExportConfig) (l : Layout) : Node :=
  .element "table" [("class", "notation-table")] ((rowKinds config l).map (rowNode l))

/-- The title, unless it is empty, and the name of the taal and the extent of the piece, if it is
wanted. -/
def headingNodes (config : ExportConfig) (first : Layout) (lineCount : Nat) : List Node :=
  (if config.title = "" then []
    else [.element "div" [("class", "notation-title")] [.text config.title]])
    ++ (if config.includeTaalName then [.element "div" [("class", "taal-name")] [.text
      s!"{first.taalDisplayName} ({first.totalMatras} Matras) - {lineCount} Line(s)"]] else [])

/-- The label and the table of each line, where the first line has the given number. -/
def linesNodes (config : ExportConfig) (lineNumber : Nat) (layouts : List Layout) :
    List (List Node) :=
  (layouts.zipIdx lineNumber).map fun (l, lineNumber) =>
    [labelNode lineNumber, tableNode config l]

/-- The elements of the page for lines of which the given one is the first. -/
def pageNodes (config : ExportConfig) (first : Layout) (layouts : List Layout) : List Node :=
  [.element "style" [] (Node.ofText (Markup.content (styleSheet (sizes config) config))),
    .element "div" [("class", "notation-container")]
      (headingNodes config first layouts.length ++ (linesNodes config 1 layouts).flatten)]

/-! ## Reading a page -/

open Markup

theorem wellNamed_nil : WellNamed [] := ⟨rfl, List.nodup_nil⟩

theorem wellNamed_class (value : String) : WellNamed [("class", value)] :=
  .of_names ["class"] rfl (by decide) (by decide)

theorem content_data (text : String) : Markup.content [.data text] = text := by
  rw [Markup.content, List.flatMap_singleton, Piece.chars, String.ofList_toList]

theorem ofText_of_ne {text : String} (h : text ≠ "") : Node.ofText text = [.text text] := if_neg h

/-- An element around data that is not empty. -/
theorem shows_data {name : String} (hname : isName name = true)
    {attributes : List (String × String)} (h : WellNamed attributes) {text : String}
    (htext : text ≠ "") :
    Shows (Markup.element name attributes [.data text])
      [.element name attributes [.text text]] := by
  have hshows := Shows.element_text hname h (List.forall_mem_singleton.mpr (Piece.plain_data text))
    (List.forall_mem_singleton.mpr rfl)
  rwa [content_data, ofText_of_ne htext] at hshows

/-- A row without cells is empty. -/
theorem shows_tableRow {attributes : List (String × String)} (h : WellNamed attributes)
    {cells : List TableCell} (htexts : ∀ cell ∈ cells, cell.text ≠ "") :
    Shows (tableRow attributes cells) [.element "tr" attributes (cells.map cellNode)] := by
  refine .cons_gap (by decide) (.append_gap ?_ (by decide))
  cases cells with
  | nil =>
    exact .element_text (by decide) h (List.forall_mem_nil _) (List.forall_mem_nil _)
  | cons cell rest =>
    rw [List.map_eq_flatMap]
    exact .element (by decide) h (.flatMap fun cell hcell =>
      shows_data (by decide) (wellNamed_class _) (htexts cell hcell)) rfl

theorem RowKind.wellNamed_attributes (kind : RowKind) : WellNamed kind.attributes := by
  unfold attributes
  cases kind.className with
  | none => exact wellNamed_nil
  | some name => exact wellNamed_class name

theorem shows_lineRows (config : ExportConfig) (l : Layout) :
    Shows (lineRows config l) ((rowKinds config l).map (rowNode l)) := by
  rw [lineRows_eq, List.map_eq_flatMap]
  refine .flatMap fun kind _ => ?_
  have htexts : ∀ cell ∈ l.cells.map (kind.cell l), cell.text ≠ "" :=
    List.forall_mem_map.mpr fun c _ => kind.text_ne l c
  have hshows := shows_tableRow kind.wellNamed_attributes htexts
  rwa [List.map_map] at hshows

/-- A block around an element that is shown for its text. -/
theorem shows_block {name : String} {className : String} {body : Markup} {shown : List Node}
    (h : Shows (Markup.element name [("class", className)] body) shown) :
    Shows (block name className body) shown :=
  .cons_gap (by decide) (.append_gap h (by decide))

theorem shows_label (lineNumber : Nat) :
    Shows (block "div" "line-label" [.fixed "Line ", number lineNumber])
      [labelNode lineNumber] := by
  have hshows := Shows.element_text (by decide : isName "div" = true) (wellNamed_class "line-label")
    (List.forall_mem_cons.mpr ⟨(by decide : (Piece.fixed "Line ").plain = true),
      List.forall_mem_singleton.mpr (Piece.plain_data lineNumber.repr)⟩)
    (List.forall_mem_cons.mpr ⟨rfl, List.forall_mem_singleton.mpr rfl⟩)
  have hcontent : Markup.content [.fixed "Line ", .data lineNumber.repr] =
      s!"Line {lineNumber}" := by
    rw [Markup.content, List.flatMap_cons, List.flatMap_singleton, String.ofList_append]
    exact congrArg₂ (· ++ ·) String.ofList_toList String.ofList_toList
  rw [hcontent, ofText_of_ne (by simp)] at hshows
  exact shows_block hshows

theorem shows_table (config : ExportConfig) (l : Layout) :
    Shows (block "table" "notation-table" (.fixed "\n" :: (lineRows config l ++ [.fixed "  "])))
      [tableNode config l] := by
  have hany : ((rowKinds config l).map (rowNode l)).any Node.isElement = true := by
    simp [rowKinds, rowNode, Node.isElement]
  exact shows_block (.element (by decide) (wellNamed_class _)
    (.cons_gap (by decide) (.append_gap (shows_lineRows config l) (by decide))) hany)

theorem shows_lineTables (config : ExportConfig) (lineNumber : Nat) (layouts : List Layout) :
    Shows (lineTables config lineNumber layouts)
      (linesNodes config lineNumber layouts).flatten := by
  induction layouts generalizing lineNumber with
  | nil => exact .nil
  | cons l rest ih =>
    exact .append (.append (shows_label lineNumber) (shows_table config l)) (ih (lineNumber + 1))

theorem shows_headings (config : ExportConfig) (first : Layout) (lineCount : Nat) :
    Shows (title config ++ taalHeading config first lineCount)
      (headingNodes config first lineCount) := by
  unfold title taalHeading headingNodes
  refine .append ?_ ?_
  · by_cases htitle : config.title = ""
    · rw [if_pos (String.isEmpty_iff.mpr htitle), if_pos htitle]
      exact .nil
    · rw [if_neg (mt String.isEmpty_iff.mp htitle), if_neg htitle]
      exact shows_block (shows_data (by decide) (wellNamed_class _) htitle)
  · split
    · exact shows_block (shows_data (by decide) (wellNamed_class _) (by simp))
    · exact .nil

theorem shows_page (config : ExportConfig) (first : Layout) {layouts : List Layout}
    (h : layouts ≠ []) :
    Shows (page (sizes config) config first layouts) (pageNodes config first layouts) := by
  have hstyle := Shows.element_text (by decide : isName "style" = true) wellNamed_nil
    (tidy_styleSheet (sizes config) config).plain
    (List.all_eq_true.mp (rfl : (styleSheet (sizes config) config).all Piece.isText = true))
  have hany : (headingNodes config first layouts.length
      ++ (linesNodes config 1 layouts).flatten).any Node.isElement = true := by
    obtain ⟨l, rest, rfl⟩ := List.exists_cons_of_ne_nil h
    simp [linesNodes, labelNode, Node.isElement]
  have hcontainer := Shows.element (by decide : isName "div" = true)
    (wellNamed_class "notation-container") (.cons_gap (by decide : "\n".toList.all isGapChar = true)
      ((shows_headings config first layouts.length).append (shows_lineTables config 1 layouts)))
    hany
  exact .append_gap (.append hstyle (.cons_gap (by decide) hcontainer)) (by decide)

/-- A page is read as its elements, whatever its lines are. -/
theorem readPage_html (config : ExportConfig) (first : Layout) (rest : List Layout) :
    ∃ out, html config (first :: rest) = .ok out ∧
      readPage out = some (pageNodes config first (first :: rest)) := by
  have hplain := (tidy_page (sizes config) config first (first :: rest)).plain
  exact ⟨_, rfl, (shows_page config first (List.cons_ne_nil first rest)).readPage_write hplain⟩

theorem length_linesNodes (config : ExportConfig) (lineNumber : Nat) (layouts : List Layout) :
    (linesNodes config lineNumber layouts).length = layouts.length := by
  rw [linesNodes, List.length_map, List.length_zipIdx]

theorem getElem?_linesNodes (config : ExportConfig) {layouts : List Layout} {index : Nat}
    {l : Layout} (h : layouts[index]? = some l) :
    (linesNodes config 1 layouts)[index]? = some [labelNode (index + 1), tableNode config l] := by
  rw [linesNodes, List.getElem?_map, List.getElem?_zipIdx, h, Nat.add_comm index 1]
  rfl

/-! ## Reading a table -/

/-- A row as it is read. -/
structure ReadRow where
  className : Option String
  cells : List TableCell

/-- The classes in the value of an attribute. -/
def readClasses (value : String) : List String :=
  (spaceParts value).filter fun name => !name.isEmpty

/-- The classes and the text of a cell. -/
def readCell : Node → Option TableCell
  | .element "td" [("class", value)] [.text text] => some ⟨readClasses value, text⟩
  | _ => none

def readRow : Node → Option ReadRow
  | .element "tr" [] cells => (cells.mapM readCell).map (⟨none, ·⟩)
  | .element "tr" [("class", name)] cells => (cells.mapM readCell).map (⟨some name, ·⟩)
  | _ => none

/-- The rows of a table. -/
def readTable : Node → Option (List ReadRow)
  | .element "table" _ rows => rows.mapM readRow
  | _ => none

/-- A cell as it is read. An empty class is not written. -/
def TableCell.read (cell : TableCell) : TableCell where
  classes := cell.classes.filter fun name => !name.isEmpty
  text := cell.text

/-- A row of a line as it is read. -/
def RowKind.read (kind : RowKind) (l : Layout) : ReadRow where
  className := kind.className
  cells := l.cells.map fun c => (kind.cell l c).read

theorem readCell_cellNode {cell : TableCell} (h : ∀ name ∈ cell.classes, ' ' ∉ name.toList) :
    readCell (cellNode cell) = some cell.read := by
  have hnames : ∀ name ∈ cell.read.classes, ' ' ∉ name.toList :=
    fun name hname => h name (List.mem_of_mem_filter hname)
  have hlist : classList cell.classes = " ".intercalate cell.read.classes := rfl
  have hclasses : readClasses (classList cell.classes) = cell.read.classes := by
    rw [readClasses, hlist]
    by_cases hnil : cell.read.classes = []
    · rw [hnil]
      rfl
    · rw [spaceParts_intercalate hnil hnames, TableCell.read, List.filter_filter]
      simp only [Bool.and_self]
  rw [cellNode, readCell, hclasses]
  rfl

theorem RowKind.space_not_mem_classes (kind : RowKind) (l : Layout) (c : Layout.Cell) :
    ∀ name ∈ (kind.cell l c).classes, ' ' ∉ name.toList := by
  obtain ⟨others, heq, hothers⟩ := kind.classes_eq l c
  have hvibhag : ' ' ∉ (vibhagClass l c).toList := by
    unfold vibhagClass
    split <;> decide
  rw [heq]
  exact List.forall_mem_cons.mpr ⟨hvibhag, fun name hname => (hothers name hname).2⟩

theorem readRow_rowNode (kind : RowKind) (l : Layout) :
    readRow (rowNode l kind) = some (kind.read l) := by
  have hcells : (l.cells.map fun c => cellNode (kind.cell l c)).mapM readCell =
      some (kind.read l).cells := by
    rw [List.mapM_map]
    exact Checked.mapM_eq_some fun c _ => readCell_cellNode (kind.space_not_mem_classes l c)
  rw [rowNode, RowKind.attributes, RowKind.read]
  cases kind.className with
  | none => exact congrArg (Option.map (ReadRow.mk none)) hcells
  | some name => exact congrArg (Option.map (ReadRow.mk (some name))) hcells

/-- The table of a line is read as its rows. -/
theorem readTable_tableNode (config : ExportConfig) (l : Layout) :
    readTable (tableNode config l) = some ((rowKinds config l).map fun kind => kind.read l) := by
  rw [tableNode, readTable, List.mapM_map]
  exact Checked.mapM_eq_some fun kind _ => readRow_rowNode kind l

end Html

end Sargam.Export
