import Sargam.Json
import Sargam.Swara.Rendering

/-!
# Settings

What can be chosen about exports, and how settings are read from JSON: a field that is left
out keeps its usual value, a field that is there has to be of its kind, and fields that are
not known do not matter.

* `ExportConfig`: the choices for exports.
* `RenderOptions.ofJson?`, `ExportConfig.ofJson?`: settings from a value.
-/

namespace Sargam

/-- The choices for exports. -/
structure ExportConfig where
  title : String := "Beat Notation"
  includeTaalName : Bool := true
  includeBolRow : Bool := false
  includeMatraNumbers : Bool := true
  fontSize : Nat := 18
  cellPadding : Nat := 12
  borderColor : String := "#333333"
  samColor : String := "#e74c3c"
  khaliColor : String := "#3498db"
  headerBgColor : String := "#f8f9fa"
  cellBgColor : String := "#ffffff"
  vibhagBorderWidth : Nat := 3
  deriving DecidableEq, Repr

/-- The value of a field, or its usual value if there is no such field. -/
def Json.setting {α : Type} (decode : Json → Option α) (key : String) (usual : α)
    (value : Json) : Option α :=
  match value.get? key with
  | none => some usual
  | some found => decode found

/-- The tivra mark with a name. -/
def TivraGlyph.ofName? : String → Option TivraGlyph
  | "verticalLine" => some .verticalLine
  | "circumflex" => some .circumflex
  | _ => none

/-- The tivra mark of a value. -/
def TivraGlyph.ofJson? (value : Json) : Option TivraGlyph := value.choice? >>= ofName?

/-- The komal style with a name. -/
def KomalStyle.ofName? : String → Option KomalStyle
  | "finalLetter" => some .finalLetter
  | "everyLetter" => some .everyLetter
  | _ => none

/-- The komal style of a value. -/
def KomalStyle.ofJson? (value : Json) : Option KomalStyle := value.choice? >>= ofName?

/-- The render options of a value; null stands for the usual ones. -/
def RenderOptions.ofJson? : Json → Option RenderOptions
  | .null => some {}
  | .object fields => do
    let value := Json.object fields
    let usual : RenderOptions := {}
    let tivraGlyph ← value.setting TivraGlyph.ofJson? "tivraGlyph" usual.tivraGlyph
    let komalStyle ← value.setting KomalStyle.ofJson? "komalStyle" usual.komalStyle
    return ⟨tivraGlyph, komalStyle⟩
  | _ => none

namespace ExportConfig

/-- The greatest size that can be chosen. -/
def maxSize : Nat := 4294967295

/-- The export settings of a value; null stands for the usual ones. -/
def ofJson? : Json → Option ExportConfig
  | .null => some {}
  | .object fields => do
    let value := Json.object fields
    let usual : ExportConfig := {}
    let size? := Json.natUpTo? maxSize
    let title ← value.setting Json.text? "title" usual.title
    let includeTaalName ← value.setting Json.bool? "includeTaalName" usual.includeTaalName
    let includeBolRow ← value.setting Json.bool? "includeBolRow" usual.includeBolRow
    let includeMatraNumbers ←
      value.setting Json.bool? "includeMatraNumbers" usual.includeMatraNumbers
    let fontSize ← value.setting size? "fontSize" usual.fontSize
    let cellPadding ← value.setting size? "cellPadding" usual.cellPadding
    let borderColor ← value.setting Json.text? "borderColor" usual.borderColor
    let samColor ← value.setting Json.text? "samColor" usual.samColor
    let khaliColor ← value.setting Json.text? "khaliColor" usual.khaliColor
    let headerBgColor ← value.setting Json.text? "headerBgColor" usual.headerBgColor
    let cellBgColor ← value.setting Json.text? "cellBgColor" usual.cellBgColor
    let vibhagBorderWidth ← value.setting size? "vibhagBorderWidth" usual.vibhagBorderWidth
    return ⟨title, includeTaalName, includeBolRow, includeMatraNumbers, fontSize, cellPadding,
      borderColor, samColor, khaliColor, headerBgColor, cellBgColor, vibhagBorderWidth⟩
  | _ => none

end ExportConfig

end Sargam
