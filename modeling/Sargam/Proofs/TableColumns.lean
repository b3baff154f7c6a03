import Mathlib.Algebra.GroupWithZero.Nat
import Mathlib.Data.List.Basic
import Sargam.Export.Table
import Sargam.Grid.Display
import Sargam.Proofs.Shortening
import Sargam.Taal.Library

/-!
# Columns of a text table

The three rows of a line stand one below the other, so what belongs to a matra has to begin at the
same column in each of them. Columns are counted in visible characters and the texts of cells carry
any number of marks, so the length of a row says nothing about its columns. What decides is that
every block of a row, padded or cut, takes eight columns; then the place of a block depends on how
many cells and vibhags stand before it, and not on their texts.

* `Text.ShownIn`: a block of columns that shows a text, as a whole or cut.
* `Text.shownIn_centreChars`: a centred text is such a block.
* `Layout.rowWidth`, `Layout.cellColumns`: the width of a row and the columns of its cells, from
  the numbers of cells alone.
* `Layout.Aligned`, `Layout.aligned_tableRow`: a row that keeps to them.
* `table_columns_aligned`: the three rows of each line of a table do.
-/

namespace Sargam

namespace Text

/-! ## Blocks -/

/-- A block of columns that shows a text: between spaces, an odd one to the right, if a column is
left free; and otherwise the first visible characters of the text with the marks that follow
them, an ellipsis and a space. -/
structure ShownIn (width : Nat) (text block : List Char) : Prop where
  width_eq : visibleCount block = width
  whole : visibleCount text < width → ∃ left right,
    block = List.replicate left ' ' ++ text ++ List.replicate right ' ' ∧
      (left = right ∨ left + 1 = right)
  cut : width ≤ visibleCount text → ∃ first rest, text = first ++ rest ∧
    visibleCount first = width - 2 ∧ (∀ c, rest.head? = some c → isVisible c = true) ∧
      block = first ++ ['…', ' ']

theorem visibleCount_replicate_space (n : Nat) : visibleCount (List.replicate n ' ') = n := by
  have hspace : isVisible ' ' = true := by decide
  simp [visibleCount, List.countP_replicate, hspace]

/-- What is left of a text after its first visible characters begins with a visible one. -/
theorem exists_append_takeVisible (count : Nat) (cs : List Char) :
    ∃ rest, cs = takeVisible count cs ++ rest ∧
      ∀ c, rest.head? = some c → isVisible c = true := by
  obtain ⟨rest, happend⟩ := takeVisible_prefix_self count cs
  refine ⟨rest, happend.symm, fun c hc => ?_⟩
  obtain ⟨after, rfl⟩ := List.head?_eq_some_iff.mp hc
  exact (longestPart_takeVisible count cs).isVisible_of_append happend.symm

theorem visibleCount_ellipsis : visibleCount ['…'] = 1 := by decide

theorem shownIn_centreChars {width : Nat} (hwidth : 2 ≤ width) (text : List Char) :
    ShownIn width text (centreChars width text) := by
  by_cases hfree : visibleCount text < width
  · have hfit : fit width text = text := if_pos hfree
    refine ⟨?_, fun _ => ?_, fun hle => absurd hfree (Nat.not_lt.mpr hle)⟩
    · simp only [centreChars, hfit, visibleCount_append, visibleCount_replicate_space]
      omega
    · simp only [centreChars, hfit]
      exact ⟨_, _, rfl, by omega⟩
  · have hfit : fit width text = takeVisible (width - 2) text ++ ['…'] := if_neg hfree
    have htaken : visibleCount (takeVisible (width - 2) text) = width - 2 := by
      rw [visibleCount_takeVisible]
      omega
    have hpad : width - (width - 2 + 1) = 1 := by omega
    have hblock : centreChars width text = takeVisible (width - 2) text ++ ['…', ' '] := by
      simp [centreChars, hfit, htaken, visibleCount_ellipsis, hpad]
    refine ⟨?_, fun hlt => absurd hlt hfree, fun _ => ?_⟩
    · have hend : visibleCount ['…', ' '] = 2 := by decide
      rw [hblock, visibleCount_append, htaken, hend]
      omega
    · obtain ⟨rest, happend, hrest⟩ := exists_append_takeVisible (width - 2) text
      exact ⟨_, rest, happend, htaken, hrest, hblock⟩

/-! ## Joined blocks -/

theorem visibleCount_intercalate (separator : List Char) (parts : List (List Char)) :
    visibleCount (separator.intercalate parts) =
      (parts.map visibleCount).sum + visibleCount separator * (parts.length - 1) := by
  induction parts with
  | nil => simp
  | cons part rest ih =>
    cases rest with
    | nil => simp
    | cons next rest =>
      rw [List.intercalate_cons_cons, visibleCount_append, visibleCount_append, ih]
      simp only [List.map_cons, List.sum_cons, List.length_cons, Nat.add_sub_cancel]
      rw [Nat.mul_succ]
      omega

/-- Before a block of a row of blocks of one width there are as many blocks as its index says, each
with the separator after it. -/
theorem exists_intercalate_eq (separator : List Char) {width : Nat}
    {blocks : List (List Char)} (hwidth : ∀ block ∈ blocks, visibleCount block = width)
    {index : Nat} {block : List Char} (h : blocks[index]? = some block) :
    ∃ before after, separator.intercalate blocks = before ++ block ++ after ∧
      visibleCount before = (width + visibleCount separator) * index := by
  induction blocks generalizing index with
  | nil => cases h
  | cons first rest ih =>
    obtain ⟨hfirst, hrest⟩ := List.forall_mem_cons.mp hwidth
    cases index with
    | zero =>
      cases h
      cases rest with
      | nil => exact ⟨[], [], by simp, by simp⟩
      | cons next rest =>
        refine ⟨[], separator ++ separator.intercalate (next :: rest), ?_, by simp⟩
        rw [List.intercalate_cons_cons, List.nil_append, List.append_assoc]
    | succ index =>
      rw [List.getElem?_cons_succ] at h
      obtain ⟨before, after, happend, hbefore⟩ := ih hrest h
      have hne : rest ≠ [] := by
        rintro rfl
        cases h
      refine ⟨first ++ separator ++ before, after, ?_, ?_⟩
      · rw [List.intercalate_cons_of_ne_nil hne, happend]
        simp only [List.append_assoc]
      · rw [visibleCount_append, visibleCount_append, hfirst, hbefore, Nat.mul_succ]
        omega

end Text

/-! ## Rows -/

namespace Layout

open Text Export

/-- The columns of the label of a row. -/
def labelWidth : Nat := 8

/-- The columns of the cells of a vibhag, with one between cells. -/
def Vibhag.width (v : Vibhag) : Nat := tableCellWidth * v.cells.length + (v.cells.length - 1)

/-- The columns of a row: its label, its cells, one between the cells of a vibhag and three
between vibhags. -/
def rowWidth (l : Layout) : Nat :=
  labelWidth + tableCellWidth * l.cells.length
    + (l.vibhags.map fun v => v.cells.length - 1).sum + 3 * (l.vibhags.length - 1)

/-- The first columns of the cells of vibhags that begin at a column. -/
def columnsFrom (start : Nat) : List Vibhag → List Nat
  | [] => []
  | v :: rest =>
    List.range' start v.cells.length (tableCellWidth + 1)
      ++ columnsFrom (start + v.width + 3) rest

/-- The first column of each cell of a row. -/
def cellColumns (l : Layout) : List Nat := columnsFrom labelWidth l.vibhags

/-- A row of a text table that keeps to the columns of its layout. -/
structure Aligned (l : Layout) (label : String) (cellText : Cell → String) (row : String) :
    Prop where
  label_eq : ∃ cells, row = label ++ cells
  width_eq : visibleLength row = l.rowWidth
  cell : ∀ (k : Nat) (c : Cell), l.cells[k]? = some c → ∃ before block after,
    row.toList = before ++ block ++ after ∧ l.cellColumns[k]? = some (visibleCount before) ∧
      ShownIn tableCellWidth (cellText c).toList block

/-- The characters of a row of vibhags. -/
def rowChars (block : Cell → List Char) (vibhags : List Vibhag) : List Char :=
  [' ', '|', ' '].intercalate (vibhags.map fun v => [' '].intercalate (v.cells.map block))

theorem rowChars_cons_of_ne_nil (block : Cell → List Char) (v : Vibhag) {rest : List Vibhag}
    (hne : rest ≠ []) :
    rowChars block (v :: rest) =
      [' '].intercalate (v.cells.map block) ++ [' ', '|', ' '] ++ rowChars block rest := by
  rw [rowChars, List.map_cons, List.intercalate_cons_of_ne_nil (by simpa using hne), rowChars]

theorem toList_row (l : Layout) (cellText : Cell → String) :
    (l.row cellText).toList = rowChars (fun c => (cellText c).toList) l.vibhags := by
  simp only [row, String.toList_intercalate, List.map_map, Function.comp_def]
  rfl

section

variable {block : Cell → List Char} (hblock : ∀ c, visibleCount (block c) = tableCellWidth)

include hblock

theorem visibleCount_vibhag (v : Vibhag) :
    visibleCount ([' '].intercalate (v.cells.map block)) = v.width := by
  have hspace : visibleCount [' '] = 1 := by decide
  have hcells : (v.cells.map block).map visibleCount =
      List.replicate v.cells.length tableCellWidth := by
    rw [List.map_map, ← List.map_const']
    exact List.map_congr_left fun c _ => hblock c
  rw [visibleCount_intercalate, hcells, List.sum_replicate_nat, hspace, List.length_map,
    Vibhag.width, Nat.one_mul, Nat.mul_comm]

theorem visibleCount_rowChars (vibhags : List Vibhag) :
    visibleCount (rowChars block vibhags) =
      tableCellWidth * (vibhags.flatMap Vibhag.cells).length
        + (vibhags.map fun v => v.cells.length - 1).sum + 3 * (vibhags.length - 1) := by
  have hbar : visibleCount [' ', '|', ' '] = 3 := by decide
  have hwidths : (vibhags.map Vibhag.width).sum =
      tableCellWidth * (vibhags.flatMap Vibhag.cells).length
        + (vibhags.map fun v => v.cells.length - 1).sum := by
    induction vibhags with
    | nil => rfl
    | cons v rest ih =>
      simp only [List.map_cons, List.sum_cons, List.flatMap_cons, List.length_append, ih,
        Vibhag.width, Nat.mul_add]
      omega
  have hmap : (vibhags.map fun v => [' '].intercalate (v.cells.map block)).map visibleCount =
      vibhags.map Vibhag.width := by
    rw [List.map_map]
    exact List.map_congr_left fun v _ => visibleCount_vibhag hblock v
  rw [rowChars, visibleCount_intercalate, hmap, hbar, List.length_map, hwidths]

/-- A cell of a row stands where the cells and vibhags before it say. -/
theorem exists_rowChars_eq (start : Nat) {vibhags : List Vibhag} {k : Nat} {c : Cell}
    (h : (vibhags.flatMap Vibhag.cells)[k]? = some c) :
    ∃ before after, rowChars block vibhags = before ++ block c ++ after ∧
      (columnsFrom start vibhags)[k]? = some (start + visibleCount before) := by
  induction vibhags generalizing start k with
  | nil => cases h
  | cons v rest ih =>
    have hspace : visibleCount [' '] = 1 := by decide
    have hbar : visibleCount [' ', '|', ' '] = 3 := by decide
    rw [List.flatMap_cons] at h
    by_cases hk : k < v.cells.length
    · -- The cell is one of this vibhag.
      rw [List.getElem?_append_left hk] at h
      have hcell : (v.cells.map block)[k]? = some (block c) := by
        rw [List.getElem?_map, h, Option.map_some]
      have hwidth : ∀ b ∈ v.cells.map block, visibleCount b = tableCellWidth :=
        List.forall_mem_map.mpr fun c _ => hblock c
      obtain ⟨before, after, happend, hbefore⟩ :=
        exists_intercalate_eq [' '] hwidth hcell
      have hcolumn : (columnsFrom start (v :: rest))[k]? = some (start + visibleCount before) := by
        rw [columnsFrom, List.getElem?_append_left (by simpa using hk), List.getElem?_range' hk,
          hbefore, hspace]
      cases rest with
      | nil =>
        refine ⟨before, after, ?_, hcolumn⟩
        rw [rowChars, List.map_singleton, List.intercalate_singleton, happend]
      | cons next rest =>
        refine ⟨before, after ++ [' ', '|', ' '] ++ rowChars block (next :: rest), ?_, hcolumn⟩
        rw [rowChars_cons_of_ne_nil block v (List.cons_ne_nil next rest), happend]
        simp only [List.append_assoc]
    · -- The cell is one of a later vibhag, and all of this one stands before it.
      have hle := Nat.le_of_not_lt hk
      rw [List.getElem?_append_right hle] at h
      obtain ⟨before, after, happend, hcolumn⟩ := ih (start + v.width + 3) h
      have hne : rest ≠ [] := by
        rintro rfl
        cases h
      refine ⟨[' '].intercalate (v.cells.map block) ++ [' ', '|', ' '] ++ before, after, ?_, ?_⟩
      · rw [rowChars_cons_of_ne_nil block v hne, happend]
        simp only [List.append_assoc]
      · rw [columnsFrom, List.getElem?_append_right (by simpa using hle), List.length_range',
          hcolumn, visibleCount_append, visibleCount_append, visibleCount_vibhag hblock, hbar]
        congr 1
        omega

end

theorem aligned_tableRow (l : Layout) {label : String} (hlabel : visibleLength label = labelWidth)
    (cellText : Cell → String) : l.Aligned label cellText (label ++ tableRow l cellText) := by
  have hshown := fun c => shownIn_centreChars (by decide : 2 ≤ tableCellWidth) (cellText c).toList
  have hblock := fun c => (hshown c).width_eq
  have hchars : (label ++ tableRow l cellText).toList =
      label.toList ++ rowChars (fun c => centreChars tableCellWidth (cellText c).toList)
        l.vibhags := by
    rw [String.toList_append, tableRow, toList_row]
    simp only [centre, String.toList_ofList]
  refine ⟨⟨_, rfl⟩, ?_, fun k c hc => ?_⟩
  · rw [visibleLength, hchars, visibleCount_append, visibleCount_rowChars hblock, rowWidth, cells,
      ← hlabel, visibleLength]
    omega
  · obtain ⟨before, after, happend, hcolumn⟩ := exists_rowChars_eq hblock labelWidth hc
    refine ⟨label.toList ++ before, _, after, ?_, ?_, hshown c⟩
    · rw [hchars, happend]
      simp only [List.append_assoc]
    · rw [cellColumns, hcolumn, visibleCount_append, ← hlabel, visibleLength]

end Layout

/-! ## Tables -/

namespace Export

theorem length_tableLines (number : Nat) (layouts : List Layout) :
    (tableLines number layouts).length = 5 * layouts.length := by
  induction layouts generalizing number with
  | nil => rfl
  | cons l rest ih =>
    have hline : (tableLine number l).length = 5 := rfl
    rw [tableLines, List.length_append, hline, ih, List.length_cons]
    omega

/-- The rows of a line stand after those of the lines before it. -/
theorem tableLines_eq (number : Nat) {index : Nat} {layouts : List Layout} {l : Layout}
    (h : layouts[index]? = some l) :
    tableLines number layouts = tableLines number (layouts.take index)
      ++ tableLine (number + index) l
      ++ tableLines (number + index + 1) (layouts.drop (index + 1)) := by
  induction layouts generalizing number index with
  | nil => cases h
  | cons first rest ih =>
    cases index with
    | zero =>
      cases h
      rfl
    | succ index =>
      rw [List.getElem?_cons_succ] at h
      rw [tableLines, ih _ h, List.take_succ_cons, tableLines, List.drop_succ_cons,
        Nat.add_right_comm number 1 index, Nat.add_assoc number index 1]
      simp only [List.append_assoc]

end Export

/-- **The rows of a text table are aligned,** whatever the layouts and their texts. Under the
heading, if there is one, each line has its number and three rows. All three are as wide as the
layout says, and each cell stands in them at the column that the layout says, with its text in
the middle of eight columns, or cut to six visible characters and an ellipsis. -/
theorem table_columns_aligned {layouts : List Layout} {index : Nat} {l : Layout}
    (h : layouts[index]? = some l) (heading : Bool) :
    ∃ before after matra symbol swar,
      Export.table layouts heading = "\n".intercalate
        (before ++ [s!"--- Line {index + 1} ---", matra, symbol, swar, ""] ++ after) ∧
      before.length = (if heading then 5 else 0) + 5 * index ∧
      l.Aligned "Matra:  " (fun c => c.matra.repr) matra ∧
      l.Aligned "Symbol: " Layout.Cell.symbol symbol ∧
      l.Aligned "Swar:   " Layout.Cell.displayText swar := by
  obtain ⟨hindex, -⟩ := List.getElem?_eq_some_iff.mp h
  obtain ⟨first, rest, hcons⟩ := List.exists_cons_of_length_pos (Nat.zero_lt_of_lt hindex)
  have hlines := Export.tableLines_eq 1 h
  rw [Nat.add_comm 1 index] at hlines
  refine ⟨(if heading then Export.tableHeading first layouts.length else [])
      ++ Export.tableLines 1 (layouts.take index),
    Export.tableLines (index + 1 + 1) (layouts.drop (index + 1)) ++ Export.tableLegend, _, _, _,
    ?_, ?_, l.aligned_tableRow (by decide) _, l.aligned_tableRow (by decide) _,
    l.aligned_tableRow (by decide) _⟩
  · have htable : Export.table layouts heading = "\n".intercalate
        ((if heading then Export.tableHeading first layouts.length else [])
          ++ Export.tableLines 1 layouts ++ Export.tableLegend) := by
      rw [hcons]
      rfl
    rw [htable, hlines, Export.tableLine]
    simp only [List.append_assoc]
  · have hheading : (if heading then Export.tableHeading first layouts.length else []).length =
        if heading then 5 else 0 := by
      cases heading <;> rfl
    rw [List.length_append, hheading, Export.length_tableLines, List.length_take]
    omega

/-- Two layouts of which the second fits no taal: it has an empty vibhag, a cell with seven visible
characters and more marks, and a cell with eight. -/
theorem table_columns_aligned_uneven :
    let first := (Grid.new Taal.dadra).layout {}
    let l : Layout := ⟨"odd", "Odd", 9, [4], [
      ⟨1, 1, 2, [⟨1, some .sam, "X", none, "DHA\u0332 NI\u0332\u0307 ", false⟩,
        ⟨7, none, "khali 10", none, "DHA\u0332 GA M", false⟩]⟩,
      ⟨2, 5, 5, []⟩,
      ⟨3, 5, 5, [⟨123456789, none, "", none, "", true⟩]⟩]⟩
    ([first, l][1]? = some l ∧ l.rowWidth = 39 ∧ l.cellColumns = [8, 17, 31]) ∧
    ∃ before after matra symbol swar,
      Export.table [first, l] true = "\n".intercalate
        (before ++ ["--- Line 2 ---", matra, symbol, swar, ""] ++ after) ∧
      before.length = 10 ∧
      l.Aligned "Matra:  " (fun c => c.matra.repr) matra ∧
      l.Aligned "Symbol: " Layout.Cell.symbol symbol ∧
      l.Aligned "Swar:   " Layout.Cell.displayText swar := by
  intro first l
  have hline : [first, l][1]? = some l := rfl
  exact ⟨⟨hline, by decide, by decide⟩, table_columns_aligned hline true⟩

end Sargam
