import Mathlib.Data.List.Basic
import Sargam.Proofs.Checked.Reading
import Sargam.Proofs.Editing
import Sargam.Proofs.Vibhags
import Sargam.Taal.Library

/-!
# Grids and compositions with checked operations

A cell is reached by its index, one less than its position; a vibhag by the segment of its cells;
a run of swaras by the segment between two quotients. The edits look at a position before they
use it, so they are defined for any grid. To show a grid takes more: it is defined because a grid
that edits lead to has as many cells as its taal has matras, and the taal has that many in its
vibhags and drum syllables.

* `spread_eq_some`: swaras spread over matras.
* `editGrid_eq_some`, `editGrids_eq_some`, `editComposition_eq_some`: edits.
* `sequenceText_eq_some`, `layout_eq_some`: grids as they are shown.
-/

namespace Sargam.Checked

/-! ## Spreading items -/

/-- Items spread over `total` slots. Segments are cut out only if there are more items than
slots. -/
def spread {α : Type} (items : List α) (total : Nat) : Option (List (List α)) :=
  if items = [] ∨ total = 0 ∨ items.length ≤ total then some (distribute items total)
  else (List.range total).mapM fun slot => do
    let first ← div (slot * items.length) total
    let last ← div ((slot + 1) * items.length) total
    slice items first last

theorem spread_eq_some {α : Type} (items : List α) (total : Nat) :
    spread items total = some (distribute items total) := by
  unfold spread
  split
  · rfl
  · rename_i h
    obtain ⟨-, htotal, hlength⟩ : items ≠ [] ∧ total ≠ 0 ∧ ¬ items.length ≤ total := by
      simpa only [not_or] using h
    rw [distribute, if_neg hlength]
    refine mapM_eq_some fun slot hslot => ?_
    have hfirst : slot * items.length / total ≤ (slot + 1) * items.length / total :=
      Nat.div_le_div_right (Nat.mul_le_mul_right _ (Nat.le_succ slot))
    have hlast : (slot + 1) * items.length / total ≤ items.length :=
      Nat.div_le_of_le_mul (Nat.mul_le_mul_right _ (List.mem_range.mp hslot))
    simp only [div_eq_some htotal, Option.bind_eq_bind, Option.bind_some,
      slice_eq_some hfirst hlast]

/-! ## Edits of grids -/

/-- The index of the cell with a position. -/
def indexOf (g : Grid) (position : Nat) : Option (Except OutOfRange Nat) := do
  if g.HasPosition position then return .ok (← sub position 1)
  else return .error ⟨position, g.cells.length⟩

def cell (g : Grid) (position : Nat) : Option (Except OutOfRange CellContent) := do
  match ← indexOf g position with
  | .error outOfRange => return .error outOfRange
  | .ok index => return .ok (← g.cells[index]?)

def setCell (g : Grid) (position : Nat) (content : CellContent) :
    Option (Except OutOfRange Grid) := do
  match ← indexOf g position with
  | .error outOfRange => return .error outOfRange
  | .ok index => return .ok { g with cells := ← write g.cells index content.normalize }

/-- The grid with typed text at a position, which is looked at once more when the text has been
read. -/
def setText (g : Grid) (position : Nat) (text : String) : Option (Except InputFault Grid) := do
  match ← indexOf g position with
  | .error outOfRange => return .error (.position outOfRange)
  | .ok _ =>
    match ← parseCell text with
    | .error rejections => return .error (.tokens rejections)
    | .ok content => return (← setCell g position content).mapError .position

def readCells (total : Nat) (text : String) :
    Option (Except InputFault (List CellContent)) := do
  let words := Text.words text
  if total < words.length then return .error (.position ⟨words.length, total⟩)
  else return (← readAll wordContent words).mapError .tokens

def distributeText (g : Grid) (text : String) : Option (Except (List Rejection) Grid) := do
  match ← parseSequence text with
  | .error rejections => return .error rejections
  | .ok swaras =>
    let groups ← spread swaras g.cells.length
    return .ok (g.assign (groups.map CellContent.ofSwaras))

def editGrid (g : Grid) : Grid.Edit → Option (Except InputFault Grid)
  | .setCell position content => do return (← setCell g position content).mapError .position
  | .setText position text => setText g position text
  | .fill text => do return (← readCells g.cells.length text).map g.assign
  | .distribute text => do return (← distributeText g text).mapError .tokens
  | .clear => some (.ok g.clear)

/-- The grid that edits leave behind. A refused edit leaves it as it is. -/
def editGrids (g : Grid) : List Grid.Edit → Option Grid
  | [] => some g
  | edit :: rest => do
    match ← editGrid g edit with
    | .error _ => editGrids g rest
    | .ok edited => editGrids edited rest

variable {g : Grid} {t : Taal}

theorem indexOf_eq_some {position : Nat} (h : g.HasPosition position) :
    indexOf g position = some (.ok (position - 1)) := by
  rw [indexOf, if_pos h, sub_eq_some h.1]
  rfl

theorem indexOf_eq_some_error {position : Nat} (h : ¬ g.HasPosition position) :
    indexOf g position = some (.error ⟨position, g.cells.length⟩) := by
  rw [indexOf, if_neg h]
  rfl

theorem index_lt {position : Nat} (h : g.HasPosition position) : position - 1 < g.cells.length :=
  Nat.lt_of_lt_of_le (Nat.sub_lt h.1 Nat.one_pos) h.2

theorem cell_eq_some (g : Grid) (position : Nat) : cell g position = some (g.cell position) := by
  by_cases h : g.HasPosition position
  · simp only [cell, Grid.cell, indexOf_eq_some h, dif_pos h, Option.bind_eq_bind,
      Option.bind_some, List.getElem?_eq_getElem (index_lt h)]
    rfl
  · simp only [cell, Grid.cell, indexOf_eq_some_error h, dif_neg h, Option.bind_eq_bind,
      Option.bind_some]
    rfl

theorem setCell_eq_some (g : Grid) (position : Nat) (content : CellContent) :
    setCell g position content = some (g.setCell position content) := by
  by_cases h : g.HasPosition position
  · simp only [setCell, Grid.setCell, indexOf_eq_some h, if_pos h, Option.bind_eq_bind,
      Option.bind_some, write_eq_some (index_lt h)]
    rfl
  · simp only [setCell, Grid.setCell, indexOf_eq_some_error h, if_neg h, Option.bind_eq_bind,
      Option.bind_some]
    rfl

theorem setText_eq_some (g : Grid) (position : Nat) (text : String) :
    setText g position text = some (g.setText position text) := by
  by_cases h : g.HasPosition position
  · simp only [setText, Grid.setText, indexOf_eq_some h, if_pos h, parseCell_eq_some,
      Option.bind_eq_bind, Option.bind_some]
    cases CellContent.parse text with
    | error rejections => rfl
    | ok content =>
      simp only [setCell_eq_some, Option.bind_some]
      rfl
  · simp only [setText, Grid.setText, indexOf_eq_some_error h, if_neg h, Option.bind_eq_bind,
      Option.bind_some]
    rfl

theorem readCells_eq_some (total : Nat) (text : String) :
    readCells total text = some (Grid.readCells total text) := by
  simp only [readCells, Grid.readCells, readAll_eq_some wordContent_eq_some]
  split <;> rfl

theorem distributeText_eq_some (g : Grid) (text : String) :
    distributeText g text = some (g.distribute text) := by
  simp only [distributeText, Grid.distribute, parseSequence_eq_some, Option.bind_eq_bind,
    Option.bind_some]
  cases Sargam.parseSequence text with
  | error rejections => rfl
  | ok swaras =>
    simp only [spread_eq_some, Option.bind_some]
    rfl

theorem editGrid_eq_some (g : Grid) (edit : Grid.Edit) :
    editGrid g edit = some (g.apply edit) := by
  cases edit with
  | setCell position content =>
    rw [editGrid, setCell_eq_some]
    rfl
  | setText position text => exact setText_eq_some g position text
  | fill text =>
    rw [editGrid, readCells_eq_some]
    rfl
  | distribute text =>
    rw [editGrid, distributeText_eq_some]
    rfl
  | clear => rfl

theorem editGrids_eq_some (g : Grid) (edits : List Grid.Edit) :
    editGrids g edits = some (g.run edits) := by
  induction edits generalizing g with
  | nil => rfl
  | cons edit rest ih =>
    have hrun : g.run (edit :: rest) = ((Grid.perform edit).left g).run rest := rfl
    rw [editGrids, editGrid_eq_some, hrun, Grid.perform_eq, Editing.left, Editing.allOrNothing]
    cases g.apply edit with
    | error fault => exact ih g
    | ok edited => exact ih edited

/-! ## Edits of compositions -/

def readLines (total line : Nat) :
    List String → Option (Except LineFault (List (List CellContent)))
  | [] => some (.ok [])
  | text :: rest => do
    match ← readCells total text with
    | .error fault => return .error ⟨line, fault⟩
    | .ok contents => return (← readLines total (line + 1) rest).map (contents :: ·)

def fillLines (c : Composition) (text : String) : Option (Except LineFault Composition) := do
  let rows ← readLines c.taal.totalMatras 1 (Composition.segments text)
  return rows.map fun contents =>
    { c with lines := Composition.assignLines c.taal contents c.lines }

def editComposition (c : Composition) :
    Composition.Edit → Option (Except Composition.Refusal Composition)
  | .fillLines text => do return (← fillLines c text).mapError .lines
  | .onLine line edit =>
    match c.line? line with
    | none => some (.error (.noLine line))
    | some g => do return ((← editGrid g edit).mapError .cell).map (c.setLine line)
  | .addLine => some (.ok c.addLine)
  | .removeLine =>
    match c.removeLine? with
    | none => some (.error .onlyLine)
    | some c => some (.ok c)
  | .clear => some (.ok c.clear)

theorem readLines_eq_some (total line : Nat) (texts : List String) :
    readLines total line texts = some (Composition.readLines total line texts) := by
  induction texts generalizing line with
  | nil => rfl
  | cons text rest ih =>
    rw [readLines, Composition.readLines, readCells_eq_some, ih]
    cases Grid.readCells total text <;> rfl

theorem editComposition_eq_some (c : Composition) (edit : Composition.Edit) :
    editComposition c edit = some (c.apply edit) := by
  cases edit with
  | fillLines text =>
    rw [editComposition, fillLines, readLines_eq_some]
    rfl
  | onLine line edit =>
    simp only [editComposition, Composition.apply, editGrid_eq_some]
    cases c.line? line <;> rfl
  | addLine => rfl
  | removeLine =>
    simp only [editComposition, Composition.apply]
    cases c.removeLine? <;> rfl
  | clear => rfl

/-! ## Grids as they are shown -/

/-- Consecutive segments of the given sizes, from an index on. -/
def slices {α : Type} (items : List α) (first : Nat) : List Nat → Option (List (List α))
  | [] => some []
  | size :: sizes => do
    let part ← slice items first (first + size)
    return part :: (← slices items (first + size) sizes)

def sequenceText (g : Grid) : Option String := do
  let parts ← slices g.cells 0 g.taal.vibhagStructure
  return " | ".intercalate (parts.map fun cells => " ".intercalate (cells.map CellContent.tokens))

def bol (t : Taal) (matra : Nat) : Option (Option String) :=
  match t.bols with
  | none => some none
  | some bols => do return some (← bols[← sub matra 1]?)

def cellLayout (options : RenderOptions) (g : Grid) (matra : Nat) : Option Layout.Cell := do
  let content ← g.cells[← sub matra 1]?
  let bol ← bol g.taal matra
  let rendered ← renderCell options content
  return ⟨matra, g.taal.marker? matra, g.taal.symbol matra, bol, rendered, content.isEmpty⟩

def vibhagLayouts (options : RenderOptions) (g : Grid) (number matra : Nat) :
    List Nat → Option (List Layout.Vibhag)
  | [] => some []
  | size :: sizes => do
    let cells ← (List.range' matra size).mapM (cellLayout options g)
    let last ← sub (matra + size) 1
    return ⟨number, matra, last, cells⟩
      :: (← vibhagLayouts options g (number + 1) (matra + size) sizes)

def layout (options : RenderOptions) (g : Grid) : Option Layout := do
  let vibhags ← vibhagLayouts options g 1 1 g.taal.vibhagStructure
  return ⟨g.taal.name, g.taal.displayName, g.taal.totalMatras, g.taal.vibhagStructure, vibhags⟩

def line (options : RenderOptions) (g : Grid) : Option String := do
  return (← layout options g).toLine

theorem slices_eq_some {α : Type} {items : List α} {sizes : List Nat} {first : Nat}
    (h : first + sizes.sum ≤ items.length) :
    slices items first sizes = some (Grid.chunks sizes (items.drop first)) := by
  induction sizes generalizing first with
  | nil => rfl
  | cons size sizes ih =>
    rw [List.sum_cons] at h
    have hpart : slice items first (first + size) = some ((items.drop first).take size) := by
      rw [slice_eq_some (Nat.le_add_right _ _) (by omega), segment, List.drop_take,
        Nat.add_sub_cancel_left]
    rw [slices, hpart, ih (by omega), Grid.chunks, List.drop_drop]
    rfl

/-- The vibhags of the taal do not go beyond the cells. -/
theorem zero_add_sum_le (hg : g.WellFormed t) :
    0 + g.taal.vibhagStructure.sum ≤ g.cells.length := by
  rw [hg.taal_eq, Nat.zero_add, Taal.sum_vibhagStructure]
  exact Nat.le_of_eq hg.length_cells.symm

theorem sequenceText_eq_some (hg : g.WellFormed t) :
    sequenceText g = some g.sequenceText := by
  rw [sequenceText, slices_eq_some (zero_add_sum_le hg)]
  rfl

/-- A grid with fewer cells than its taal has matras would have no text. -/
example : sequenceText ⟨Taal.dadra, [.sustain]⟩ = none := by decide +kernel

theorem bol_eq_some {index : Nat} (h : index < t.totalMatras) :
    bol t (index + 1) = some (t.bols.bind fun bols => bols[index]?) := by
  rw [bol]
  cases hbols : t.bols with
  | none => rfl
  | some bols =>
    have hindex : index < bols.length := t.consistent.bols_length bols hbols ▸ h
    simp only [sub_eq_some (Nat.le_add_left 1 index), Nat.add_sub_cancel, Option.bind_eq_bind,
      Option.bind_some, List.getElem?_eq_getElem hindex]
    rfl

theorem cellLayout_eq_some (options : RenderOptions) (hg : g.WellFormed t) {index : Nat}
    {content : CellContent} (h : g.cells[index]? = some content) :
    cellLayout options g (index + 1) =
      some (Grid.cellLayout g.taal options (index + 1) content) := by
  obtain ⟨hindex, -⟩ := List.getElem?_eq_some_iff.mp h
  have hbol : bol g.taal (index + 1) = some (g.taal.bols.bind fun bols => bols[index]?) :=
    bol_eq_some (by rw [hg.taal_eq, ← hg.length_cells]; exact hindex)
  simp only [cellLayout, sub_eq_some (Nat.le_add_left 1 index), Nat.add_sub_cancel, h, hbol,
    renderCell_eq_some, Option.bind_eq_bind, Option.bind_some]
  rfl

theorem cellLayouts_eq_some (options : RenderOptions) (hg : g.WellFormed t) {index size : Nat}
    (h : index + size ≤ g.cells.length) :
    (List.range' (index + 1) size).mapM (cellLayout options g) =
      some (Grid.cellLayouts g.taal options (index + 1) ((g.cells.drop index).take size)) := by
  induction size generalizing index with
  | zero => rfl
  | succ size ih =>
    have hindex : index < g.cells.length := by omega
    rw [List.range'_succ, List.mapM_cons,
      cellLayout_eq_some options hg (List.getElem?_eq_getElem hindex), ih (by omega),
      List.drop_eq_getElem_cons hindex, List.take_succ_cons, Grid.cellLayouts]
    rfl

theorem vibhagLayouts_eq_some (options : RenderOptions) (hg : g.WellFormed t) {sizes : List Nat}
    {index : Nat} (h : index + sizes.sum ≤ g.cells.length) (number : Nat) :
    vibhagLayouts options g number (index + 1) sizes =
      some (Grid.vibhagLayouts g.taal options number (index + 1) sizes (g.cells.drop index)) := by
  induction sizes generalizing index number with
  | nil => rfl
  | cons size sizes ih =>
    rw [List.sum_cons] at h
    have hnext : index + 1 + size = index + size + 1 := by omega
    have hlast : sub (index + size + 1) 1 = some (index + size + 1 - 1) :=
      sub_eq_some (Nat.le_add_left 1 _)
    rw [vibhagLayouts, cellLayouts_eq_some options hg (by omega), hnext, hlast, ih (by omega),
      Grid.vibhagLayouts, hnext, List.drop_drop]
    rfl

/-- A grid with a cell for each matra of its taal can be shown. -/
theorem layout_eq_some (options : RenderOptions) (hg : g.WellFormed t) :
    layout options g = some (g.layout options) := by
  rw [layout, vibhagLayouts_eq_some options hg (zero_add_sum_le hg)]
  rfl

theorem line_eq_some (options : RenderOptions) (hg : g.WellFormed t) :
    line options g = some (g.layout options).toLine := by
  rw [line, layout_eq_some options hg]
  rfl

end Sargam.Checked
