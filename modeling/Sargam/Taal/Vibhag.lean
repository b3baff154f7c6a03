import Sargam.Taal

/-!
# Vibhags and markers

Where the vibhags of a taal begin, which of them a matra lies in, and what is written above
the matra: sam before khali, khali before tali, and a clap as the number of its vibhag.

* `Taal.vibhagOf?`: the vibhag of a matra.
* `Taal.vibhagStarts`: the first matra of each vibhag.
* `Marker`, `Taal.marker?`, `Taal.symbol`: the mark of a matra and its glyph.
-/

namespace Sargam

/-- What is marked above a matra. -/
inductive Marker where
  | sam
  | khali
  | tali (vibhag : Nat)
  deriving DecidableEq, Repr

/-- The glyph of a mark. -/
def Marker.glyph : Marker → String
  | .sam => "X"
  | .khali => "0"
  | .tali vibhag => vibhag.repr

namespace Taal

/-! ## Vibhags -/

/-- The number of vibhags. -/
def vibhagCount (t : Taal) : Nat := t.vibhagStructure.length

/-- The group that the `n`-th member of consecutive groups lies in, counted on from `first`. -/
def groupOf? (first n : Nat) : List Nat → Option Nat
  | [] => none
  | size :: sizes => if n ≤ size then some first else groupOf? (first + 1) (n - size) sizes

/-- The vibhag, from 1, that a matra lies in. -/
def vibhagOf? (t : Taal) (matra : Nat) : Option Nat :=
  if t.inCycle matra then groupOf? 1 matra t.vibhagStructure else none

/-- The first members of consecutive groups, where the first group begins at `next`. -/
def startsFrom (next : Nat) : List Nat → List Nat
  | [] => []
  | size :: sizes => next :: startsFrom (next + size) sizes

/-- The first matra of each vibhag. -/
def vibhagStarts (t : Taal) : List Nat := startsFrom 1 t.vibhagStructure

/-! ## Markers -/

/-- Whether a matra is the first beat. -/
def isSam (t : Taal) (matra : Nat) : Bool := matra = t.sam

/-- Whether a matra is an empty beat. -/
def isKhali (t : Taal) (matra : Nat) : Bool := matra ∈ t.khali

/-- Whether a matra is a clapped beat. -/
def isTali (t : Taal) (matra : Nat) : Bool := matra ∈ t.tali

/-- The mark of a matra. -/
def marker? (t : Taal) (matra : Nat) : Option Marker :=
  if t.isSam matra then some .sam
  else if t.isKhali matra then some .khali
  else if t.isTali matra then (t.vibhagOf? matra).map .tali
  else none

/-- The glyph above a matra; a matra without a mark has none. -/
def symbol (t : Taal) (matra : Nat) : String :=
  match t.marker? matra with
  | none => ""
  | some marker => marker.glyph

end Taal

end Sargam
