import Sargam.Sequence
import Sargam.Swara.Rendering

/-!
# Cells

A cell is what stands on one beat: nothing, a sign that the note before is held, or a group of
swaras sung within the beat.

* `CellContent`: the content of a cell.
* `CellContent.parse`: the content that is typed into a cell.
* `CellContent.tokens`, `CellContent.render`: the content as it is typed and as it is drawn.
-/

namespace Sargam

/-- The content of a cell. -/
inductive CellContent where
  | empty
  | sustain
  | swaras (group : List Swara)
  deriving DecidableEq

namespace CellContent

/-- The sign of a held note; it also keeps the place of an empty cell in a line of text. -/
def sustainSign : String := "-"

/-- The cell of a group of swaras, which is empty if the group is. -/
def ofSwaras : List Swara → CellContent
  | [] => .empty
  | group => .swaras group

/-- The same content, with an empty cell in place of an empty group. -/
def normalize : CellContent → CellContent
  | .swaras group => ofSwaras group
  | content => content

/-- Whether a cell holds nothing. -/
def isEmpty : CellContent → Bool
  | .empty => true
  | _ => false

/-- The swaras of a cell. -/
def group : CellContent → List Swara
  | .swaras group => group
  | _ => []

/-- The content that is typed into a cell: a sustain sign alone, or a sequence of tokens. -/
def parse (text : String) : Except (List Rejection) CellContent :=
  let typed := Text.trim text
  if typed = sustainSign then .ok .sustain else (parseSequence typed).map ofSwaras

/-- The content that one word of a running line stands for. -/
def ofWord (word : String) : Except Token.Fault CellContent :=
  if word = sustainSign then .ok .sustain
  else (Token.parse word).map fun swara => .swaras [swara]

/-- The tokens of a cell, with the sustain sign for a cell without swaras. -/
def tokens : CellContent → String
  | .swaras group => " ".intercalate (group.map Swara.token)
  | _ => sustainSign

/-- A cell as music text; nothing is drawn for an empty one. -/
def render (options : RenderOptions) : CellContent → String
  | .empty => ""
  | .sustain => sustainSign
  | .swaras group => renderSequence options " " group

end CellContent

end Sargam
