import Sargam.Cell
import Sargam.Taal

/-!
# Grids

A grid is one cycle of a taal with a cell for each matra. It is changed by edits, each of
which either succeeds as a whole or changes nothing.

* `Grid`, `Grid.new`: one line of cells, and the empty one.
* `Grid.setCell`, `Grid.setText`: one cell, from its content or from what is typed into it.
* `Grid.fill`: all cells, from one word for each.
* `distribute`, `Grid.distribute`: all cells, from swaras spread evenly over them.
* `Grid.Edit`, `Grid.apply`: an edit as a value, and its effect.
-/

namespace Sargam

/-! ## Faults -/

/-- A position that no cell has. -/
structure OutOfRange where
  position : Nat
  totalMatras : Nat
  deriving DecidableEq, Repr

/-- The wording of a position that no cell has. -/
def OutOfRange.message (e : OutOfRange) : String :=
  s!"matra {e.position} out of range (1-{e.totalMatras})"

/-- Why typed text cannot be placed. -/
inductive InputFault where
  | position (outOfRange : OutOfRange)
  | tokens (rejections : List Rejection)
  deriving DecidableEq, Repr

/-- The wording of an input fault. -/
def InputFault.message : InputFault → String
  | .position outOfRange => outOfRange.message
  | .tokens rejections => Rejection.summary rejections

/-! ## Spreading items -/

/-- The items from `first` up to `last`, exclusive. -/
def segment {α : Type} (items : List α) (first last : Nat) : List α :=
  (items.take last).drop first

/-- Items spread over `total` slots. While there are slots enough each item has one of its
own, from the first slot on; otherwise the slots hold consecutive runs of nearly equal
length. The products are taken without overflow: they are exact also where products of machine
words would wrap or fail. -/
def distribute {α : Type} (items : List α) (total : Nat) : List (List α) :=
  if items.length ≤ total then
    items.map (fun item => [item]) ++ List.replicate (total - items.length) []
  else
    (List.range total).map fun slot =>
      segment items (slot * items.length / total) ((slot + 1) * items.length / total)

/-! ## Grids -/

/-- One cycle of a taal. -/
structure Grid where
  taal : Taal
  /-- The cells from matra 1 on. -/
  cells : List CellContent
  deriving DecidableEq

namespace Grid

/-- The empty grid of a taal. -/
def new (t : Taal) : Grid := ⟨t, List.replicate t.totalMatras .empty⟩

/-- Whether a position, from 1, is that of a cell. -/
def HasPosition (g : Grid) (position : Nat) : Prop :=
  1 ≤ position ∧ position ≤ g.cells.length

instance (g : Grid) (position : Nat) : Decidable (g.HasPosition position) :=
  inferInstanceAs (Decidable (_ ∧ _))

/-- The content at a position. -/
def cell (g : Grid) (position : Nat) : Except OutOfRange CellContent :=
  if h : g.HasPosition position then
    have hindex : position - 1 < g.cells.length :=
      Nat.lt_of_lt_of_le (Nat.sub_lt h.1 Nat.one_pos) h.2
    .ok g.cells[position - 1]
  else .error ⟨position, g.cells.length⟩

/-- The grid with a new content at a position. -/
def setCell (g : Grid) (position : Nat) (content : CellContent) : Except OutOfRange Grid :=
  if g.HasPosition position then
    .ok { g with cells := g.cells.set (position - 1) content.normalize }
  else .error ⟨position, g.cells.length⟩

/-- The grid with typed text at a position. The position is looked at before the text. -/
def setText (g : Grid) (position : Nat) (text : String) : Except InputFault Grid :=
  if g.HasPosition position then
    match CellContent.parse text with
    | .error rejections => .error (.tokens rejections)
    | .ok content => (g.setCell position content).mapError .position
  else .error (.position ⟨position, g.cells.length⟩)

/-- The grid with every cell empty. -/
def clear (g : Grid) : Grid := { g with cells := g.cells.map fun _ => .empty }

/-- The grid with new contents from matra 1 on, and no other content. -/
def assign (g : Grid) (contents : List CellContent) : Grid :=
  { g with
    cells := contents.take g.cells.length
      ++ List.replicate (g.cells.length - contents.length) .empty }

/-- The contents that the words of a text stand for, at most `total` of them. Too many words
are reported before any word is read. -/
def readCells (total : Nat) (text : String) : Except InputFault (List CellContent) :=
  let words := Text.words text
  if total < words.length then .error (.position ⟨words.length, total⟩)
  else (readAll CellContent.ofWord words).mapError .tokens

/-- The grid with one word of a text in each cell from matra 1 on. -/
def fill (g : Grid) (text : String) : Except InputFault Grid :=
  (readCells g.cells.length text).map g.assign

/-- The grid with the swaras of a text spread evenly over it. -/
def distribute (g : Grid) (text : String) : Except (List Rejection) Grid :=
  (parseSequence text).map fun swaras =>
    g.assign ((Sargam.distribute swaras g.cells.length).map CellContent.ofSwaras)

/-- The number of cells that are not empty. -/
def filledCount (g : Grid) : Nat := g.cells.countP fun content => !content.isEmpty

/-- Whether no cell is empty. -/
def isComplete (g : Grid) : Bool := g.filledCount = g.cells.length

/-! ## Edits -/

/-- A change of one grid. -/
inductive Edit where
  | setCell (position : Nat) (content : CellContent)
  | setText (position : Nat) (text : String)
  | fill (text : String)
  | distribute (text : String)
  | clear

/-- The grid after an edit. -/
def apply (g : Grid) : Edit → Except InputFault Grid
  | .setCell position content => (g.setCell position content).mapError .position
  | .setText position text => g.setText position text
  | .fill text => g.fill text
  | .distribute text => (g.distribute text).mapError .tokens
  | .clear => .ok g.clear

end Grid

end Sargam
