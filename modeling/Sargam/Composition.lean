import Sargam.Grid.Display

/-!
# Compositions

A composition is several cycles of one taal, each on a line of its own; there is always at
least one. An edit of a composition either succeeds as a whole or changes nothing.

* `Composition`, `Composition.new`: the lines of a piece, and a piece of empty lines.
* `Composition.addLine`, `Composition.removeLine?`: one line more or less at the end.
* `Composition.fillLines`: the first lines, from one text.
* `Composition.Edit`, `Composition.apply`: an edit as a value, and its effect.
-/

namespace Sargam

/-- Why a line of a text for several lines cannot be placed. -/
structure LineFault where
  /-- The number of the line, from 1. -/
  line : Nat
  fault : InputFault
  deriving DecidableEq, Repr

/-- The wording of a line fault. -/
def LineFault.message (e : LineFault) : String := s!"line {e.line}: {e.fault.message}"

/-- Several cycles of one taal. -/
structure Composition where
  taal : Taal
  lines : List Grid
  deriving DecidableEq

namespace Composition

/-- A composition of empty lines, at least one. -/
def new (t : Taal) (lineCount : Nat) : Composition :=
  ⟨t, List.replicate (max lineCount 1) (Grid.new t)⟩

/-! ## Lines -/

/-- The grid of a line, from 1. -/
def line? (c : Composition) (line : Nat) : Option Grid :=
  match line with
  | 0 => none
  | index + 1 => c.lines[index]?

/-- The composition with another grid on a line, from 1. -/
def setLine (c : Composition) (line : Nat) (g : Grid) : Composition :=
  match line with
  | 0 => c
  | index + 1 => { c with lines := c.lines.set index g }

/-- The composition with an empty line at its end. -/
def addLine (c : Composition) : Composition :=
  { c with lines := c.lines ++ [Grid.new c.taal] }

/-- The composition without its last line, unless that is the only one. -/
def removeLine? (c : Composition) : Option Composition :=
  if c.lines.length ≤ 1 then none else some { c with lines := c.lines.dropLast }

/-- The composition with every cell empty. -/
def clear (c : Composition) : Composition := { c with lines := c.lines.map Grid.clear }

/-- The lines as they are shown. -/
def layouts (options : RenderOptions) (c : Composition) : List Layout :=
  c.lines.map (Grid.layout options)

/-! ## Filling several lines -/

/-- The parts of a text between its bars. -/
def segments (text : String) : List String := (text.toList.splitOn '|').map String.ofList

/-- The contents of several lines, the first of which has the number `line`. The first text
that cannot be placed is reported. -/
def readLines (total line : Nat) : List String → Except LineFault (List (List CellContent))
  | [] => .ok []
  | text :: rest =>
    match Grid.readCells total text with
    | .error fault => .error ⟨line, fault⟩
    | .ok contents => (readLines total (line + 1) rest).map (contents :: ·)

/-- The lines with new contents for the first of them; lines that are missing are added. -/
def assignLines (t : Taal) : List (List CellContent) → List Grid → List Grid
  | [], lines => lines
  | contents :: rest, [] => (Grid.new t).assign contents :: assignLines t rest []
  | contents :: rest, g :: lines => g.assign contents :: assignLines t rest lines

/-- The composition with the parts of a text on its first lines, one word for each cell. -/
def fillLines (c : Composition) (text : String) : Except LineFault Composition :=
  (readLines c.taal.totalMatras 1 (segments text)).map fun contents =>
    { c with lines := assignLines c.taal contents c.lines }

/-! ## Edits -/

/-- A change of a composition. -/
inductive Edit where
  | addLine
  | removeLine
  | fillLines (text : String)
  | clear
  | onLine (line : Nat) (edit : Grid.Edit)

/-- Why an edit is refused. -/
inductive Refusal where
  | noLine (line : Nat)
  | onlyLine
  | lines (fault : LineFault)
  | cell (fault : InputFault)
  deriving DecidableEq, Repr

/-- The composition after an edit. -/
def apply (c : Composition) : Edit → Except Refusal Composition
  | .addLine => .ok c.addLine
  | .removeLine =>
    match c.removeLine? with
    | none => .error .onlyLine
    | some c => .ok c
  | .fillLines text => (c.fillLines text).mapError .lines
  | .clear => .ok c.clear
  | .onLine line edit =>
    match c.line? line with
    | none => .error (.noLine line)
    | some g => ((g.apply edit).mapError .cell).map (c.setLine line)

end Composition

end Sargam
