import Sargam.Json.Printer
import Sargam.Layout

/-!
# Layouts as JSON

Layouts are exported as JSON, and are taken back from it. Writing names every field; reading
allows the mark and the drum syllable of a cell to be left out, and takes a cell for filled
unless it is said to be empty.

* `Layout.toJson`: the value of a layout.
* `Layout.ofJson?`: the layout of a value.
* `Layout.jsonText`: layouts as indented text.
-/

namespace Sargam

/-- The value of a mark; a matra without a mark has none. -/
def Marker.toJson : Option Marker → Json
  | none => .null
  | some .sam => .object [("type", .text "sam")]
  | some .khali => .object [("type", .text "khali")]
  | some (.tali vibhag) => .object [("type", .text "tali"), ("vibhag", .nat vibhag)]

/-- The greatest number that a layout may hold. -/
def Layout.maxNumber : Nat := 18446744073709551615

/-- The mark of a value. -/
def Marker.ofJson? (value : Json) : Option Marker :=
  match value.get? "type" with
  | some (.text "sam") => some .sam
  | some (.text "khali") => some .khali
  | some (.text "tali") => (value.required (Json.natUpTo? Layout.maxNumber) "vibhag").map .tali
  | _ => none

namespace Layout

/-! ## Writing -/

/-- The value of a cell. -/
def Cell.toJson (c : Cell) : Json := .object [
  ("matra", .nat c.matra),
  ("marker", Marker.toJson c.marker),
  ("symbol", .text c.symbol),
  ("bol", .ofOption (c.bol.map .text)),
  ("rendered", .text c.rendered),
  ("isEmpty", .bool c.isEmpty)]

/-- The value of a vibhag. -/
def Vibhag.toJson (v : Vibhag) : Json := .object [
  ("number", .nat v.number),
  ("startMatra", .nat v.startMatra),
  ("endMatra", .nat v.endMatra),
  ("cells", .arrayOf Cell.toJson v.cells)]

/-- The value of a layout. -/
def toJson (l : Layout) : Json := .object [
  ("taalName", .text l.taalName),
  ("taalDisplayName", .text l.taalDisplayName),
  ("totalMatras", .nat l.totalMatras),
  ("vibhagStructure", .arrayOf .nat l.vibhagStructure),
  ("vibhags", .arrayOf Vibhag.toJson l.vibhags)]

/-- Layouts as indented text. -/
def jsonText (layouts : List Layout) : String :=
  Json.write Json.indented (.arrayOf toJson layouts)

/-! ## Reading -/

/-- A number of a layout. -/
def number? (value : Json) : Option Nat := value.natUpTo? maxNumber

/-- The cell of a value. -/
def Cell.ofJson? (value : Json) : Option Cell := do
  let matra ← value.required number? "matra"
  let marker ← value.optional Marker.ofJson? "marker"
  let symbol ← value.required Json.text? "symbol"
  let bol ← value.optional Json.text? "bol"
  let rendered ← value.required Json.text? "rendered"
  let isEmpty ← value.optional Json.bool? "isEmpty"
  return ⟨matra, marker, symbol, bol, rendered, isEmpty.getD false⟩

/-- The vibhag of a value. -/
def Vibhag.ofJson? (value : Json) : Option Vibhag := do
  let number ← value.required number? "number"
  let startMatra ← value.required number? "startMatra"
  let endMatra ← value.required number? "endMatra"
  let cells ← value.required (Json.items? Cell.ofJson?) "cells"
  return ⟨number, startMatra, endMatra, cells⟩

/-- The layout of a value. -/
def ofJson? (value : Json) : Option Layout := do
  let taalName ← value.required Json.text? "taalName"
  let taalDisplayName ← value.required Json.text? "taalDisplayName"
  let totalMatras ← value.required number? "totalMatras"
  let vibhagStructure ← value.required (Json.items? number?) "vibhagStructure"
  let vibhags ← value.required (Json.items? Vibhag.ofJson?) "vibhags"
  return ⟨taalName, taalDisplayName, totalMatras, vibhagStructure, vibhags⟩

/-- The layouts of a list of values. -/
def listOfJson? (value : Json) : Option (List Layout) := value.items? ofJson?

end Layout

end Sargam
