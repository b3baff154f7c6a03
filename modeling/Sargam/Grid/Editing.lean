import Sargam.Editing
import Sargam.Grid

/-!
# Editing a grid in place

How the edits of a grid are made on the cells themselves, one cell after the other.

* `Grid.placeCell`, `Grid.placeText`: one cell, after a look at its position.
* `Grid.replace`: all cells, emptied first and then filled from matra 1 on.
* `Grid.perform`: any edit.
-/

namespace Sargam.Grid

/-- Puts a content into the cell with a position, from 1; there may be no such cell. -/
def put (position : Nat) (content : CellContent) : Editing InputFault Grid Unit :=
  modify fun g => { g with cells := g.cells.set (position - 1) content }

/-- Fails unless there is a cell with the position. -/
def checkPosition (position : Nat) : Editing InputFault Grid Unit := do
  let g ← get
  unless g.HasPosition position do
    throw (.position ⟨position, g.cells.length⟩)

/-- Puts a content into the cell with a position. -/
def placeCell (position : Nat) (content : CellContent) : Editing InputFault Grid Unit := do
  checkPosition position
  put position content.normalize

/-- Puts typed text into the cell with a position. -/
def placeText (position : Nat) (text : String) : Editing InputFault Grid Unit := do
  checkPosition position
  let content ← MonadExcept.ofExcept ((CellContent.parse text).mapError InputFault.tokens)
  placeCell position content

/-- Puts contents into the cells from a position on. -/
def putFrom (position : Nat) : List CellContent → Editing InputFault Grid Unit
  | [] => pure ()
  | content :: rest => do
    put position content
    putFrom (position + 1) rest

/-- Empties every cell, then puts contents into the cells from matra 1 on. -/
def replace (contents : List CellContent) : Editing InputFault Grid Unit := do
  modify clear
  putFrom 1 contents

/-- Makes an edit. Typed text is read as a whole before the first cell is touched. -/
def perform : Edit → Editing InputFault Grid Unit
  | .setCell position content => placeCell position content
  | .setText position text => placeText position text
  | .fill text => do
    let g ← get
    let contents ← MonadExcept.ofExcept (readCells g.cells.length text)
    replace contents
  | .distribute text => do
    let swaras ← MonadExcept.ofExcept ((parseSequence text).mapError InputFault.tokens)
    let g ← get
    replace ((Sargam.distribute swaras g.cells.length).map CellContent.ofSwaras)
  | .clear => modify clear

/-- The grid that edits leave behind, failed ones included. -/
def run (g : Grid) (edits : List Edit) : Grid := Editing.leftAfter perform g edits

end Sargam.Grid
