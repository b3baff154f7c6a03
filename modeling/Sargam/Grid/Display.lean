import Sargam.Grid
import Sargam.Layout

/-!
# Grids as they are shown

The cells of a grid, grouped by the vibhags of its taal: as the tokens that would be typed for
them, and as a layout with music text and marks.

* `Grid.sequenceText`: the grid as a line of tokens.
* `Grid.layout`: the grid as it is shown.
-/

namespace Sargam.Grid

/-- A list cut into consecutive groups of the given sizes. -/
def chunks {α : Type} : List Nat → List α → List (List α)
  | [], _ => []
  | size :: sizes, items => items.take size :: chunks sizes (items.drop size)

/-- The contents of each vibhag. -/
def vibhagCells (g : Grid) : List (List CellContent) := chunks g.taal.vibhagStructure g.cells

/-- The grid as a line of tokens, with bars between the vibhags. -/
def sequenceText (g : Grid) : String :=
  " | ".intercalate
    (g.vibhagCells.map fun cells => " ".intercalate (cells.map CellContent.tokens))

/-- The cell of a matra as it is shown. -/
def cellLayout (t : Taal) (options : RenderOptions) (matra : Nat) (content : CellContent) :
    Layout.Cell where
  matra := matra
  marker := t.marker? matra
  symbol := t.symbol matra
  bol := t.bols.bind fun bols => bols[matra - 1]?
  rendered := content.render options
  isEmpty := content.isEmpty

/-- The cells from a matra on as they are shown. -/
def cellLayouts (t : Taal) (options : RenderOptions) (matra : Nat) :
    List CellContent → List Layout.Cell
  | [] => []
  | content :: rest =>
    cellLayout t options matra content :: cellLayouts t options (matra + 1) rest

/-- The vibhags from a number and a matra on as they are shown. -/
def vibhagLayouts (t : Taal) (options : RenderOptions) (number matra : Nat) :
    List Nat → List CellContent → List Layout.Vibhag
  | [], _ => []
  | size :: sizes, cells =>
    ⟨number, matra, matra + size - 1, cellLayouts t options matra (cells.take size)⟩
      :: vibhagLayouts t options (number + 1) (matra + size) sizes (cells.drop size)

/-- The grid as it is shown. -/
def layout (options : RenderOptions) (g : Grid) : Layout where
  taalName := g.taal.name
  taalDisplayName := g.taal.displayName
  totalMatras := g.taal.totalMatras
  vibhagStructure := g.taal.vibhagStructure
  vibhags := vibhagLayouts g.taal options 1 1 g.taal.vibhagStructure g.cells

end Sargam.Grid
