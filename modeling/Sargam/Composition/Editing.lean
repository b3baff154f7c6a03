import Sargam.Composition
import Sargam.Grid.Editing

/-!
# Editing a composition in place

How the edits of a composition are made on its lines themselves, one line after the other.

* `Composition.atLine`: a change of one line.
* `Composition.addLines`, `Composition.replaceFrom`: lines added, and contents of several lines.
* `Composition.perform`, `Composition.run`: any edit, and several of them.
-/

namespace Sargam.Composition

/-- Changes the grid of a line in place. What the change leaves there stays, also if it
fails. -/
def atLine (line : Nat) (change : Editing InputFault Grid Unit) :
    Editing Refusal Composition Unit :=
  fun c =>
    match c.line? line with
    | none => .error (.noLine line) c
    | some g =>
      match change g with
      | .ok _ edited => .ok () (c.setLine line edited)
      | .error fault left => .error (.cell fault) (c.setLine line left)

/-- Adds empty lines at the end. -/
def addLines : Nat → Editing Refusal Composition Unit
  | 0 => pure ()
  | count + 1 => do
    modify addLine
    addLines count

/-- Replaces the contents of the lines from a number on. -/
def replaceFrom (line : Nat) : List (List CellContent) → Editing Refusal Composition Unit
  | [] => pure ()
  | contents :: rest => do
    atLine line (Grid.replace contents)
    replaceFrom (line + 1) rest

/-- Makes an edit. The text for several lines is read as a whole before the first line is added
or touched. -/
def perform : Edit → Editing Refusal Composition Unit
  | .addLine => modify addLine
  | .removeLine => do
    let c ← get
    if c.lines.length ≤ 1 then throw .onlyLine
    else set { c with lines := c.lines.dropLast }
  | .fillLines text => do
    let c ← get
    let rows ← MonadExcept.ofExcept
      ((readLines c.taal.totalMatras 1 (segments text)).mapError Refusal.lines)
    addLines (rows.length - c.lines.length)
    replaceFrom 1 rows
  | .clear => modify clear
  | .onLine line edit => atLine line (Grid.perform edit)

/-- The composition that edits leave behind, failed ones included. -/
def run (c : Composition) (edits : List Edit) : Composition :=
  Editing.leftAfter perform c edits

end Sargam.Composition
