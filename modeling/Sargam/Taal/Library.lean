import Sargam.Taal.Vibhag
import Sargam.Text.Blank
import Sargam.Text.Case

/-!
# The library of taals

The cycles that are known by name, and what is shown of a cycle where one is chosen.

* `Taal.library`, `Taal.dadra`: the known cycles, and one of them.
* `Taal.find?`: the known cycle of a name, however the name is capitalised.
* `Taal.Summary`: what is shown of a cycle.
-/

namespace Sargam.Taal

/-! ## Known cycles -/

/-- The outlines of the known cycles. -/
def outlines : List Outline := [
  { name := "teentaal"
    displayName := "TeenTaal (तीनताल)"
    vibhags := [4, 4, 4, 4]
    khali := [9]
    tali := [1, 5, 13]
    bols := some ["Dha", "Dhin", "Dhin", "Dha", "Dha", "Dhin", "Dhin", "Dha",
      "Dha", "Tin", "Tin", "Ta", "Ta", "Dhin", "Dhin", "Dha"] },
  { name := "dadra"
    displayName := "Dadra (दादरा)"
    vibhags := [3, 3]
    khali := [4]
    tali := [1]
    bols := some ["Dha", "Dhin", "Na", "Dha", "Tin", "Na"] },
  { name := "jhaptaal"
    displayName := "JhapTaal (झपताल)"
    vibhags := [2, 3, 2, 3]
    khali := [6]
    tali := [1, 3, 8]
    bols := some ["Dhi", "Na", "Dhi", "Dhi", "Na", "Ti", "Na", "Dhi", "Dhi", "Na"] },
  { name := "ektaal"
    displayName := "EkTaal (एकताल)"
    vibhags := [2, 2, 2, 2, 2, 2]
    khali := [3, 7, 11]
    tali := [1, 5, 9]
    bols := some ["Dhin", "Dhin", "DhaGe", "TiRaKiTa", "Tu", "Na",
      "Kat", "Ta", "DhaGe", "TiRaKiTa", "Dhin", "Na"] },
  { name := "rupak"
    displayName := "Rupak (रूपक)"
    vibhags := [3, 2, 2]
    khali := [1]
    tali := [4, 6]
    samOnKhali := true
    bols := some ["Tin", "Tin", "Na", "Dhi", "Na", "Dhi", "Na"] },
  { name := "keherwa"
    displayName := "Keherwa (कहरवा)"
    vibhags := [4, 4]
    khali := [5]
    tali := [1]
    bols := some ["Dha", "Ge", "Na", "Ti", "Na", "Ka", "Dhi", "Na"] }]

/-- The known cycles. -/
def library : List Taal := outlines.filterMap fun o => o.build.toOption

/-- Dadra, the shortest of the known cycles: six matras in two vibhags. -/
def dadra : Taal := library.get ⟨1, by decide +kernel⟩

/-- The known cycle of a name. Blanks around the name and its capitals do not count. -/
def find? (name : String) : Option Taal :=
  library.find? fun t => t.name == Text.lower (Text.trim name)

/-- The names of the known cycles. -/
def names : List String := library.map fun t => t.name

/-! ## Summaries -/

/-- What is shown of a cycle. -/
structure Summary where
  name : String
  displayName : String
  totalMatras : Nat
  vibhagStructure : List Nat
  /-- The glyph above each matra. -/
  symbols : List String
  bols : Option (List String)
  deriving DecidableEq, Repr

/-- The summary of a cycle. -/
def summary (t : Taal) : Summary where
  name := t.name
  displayName := t.displayName
  totalMatras := t.totalMatras
  vibhagStructure := t.vibhagStructure
  symbols := (List.range' 1 t.totalMatras).map t.symbol
  bols := t.bols

end Sargam.Taal
