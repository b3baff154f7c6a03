import Sargam.Taal.Positions

/-!
# Taals

A taal is a cycle of matras, grouped into vibhags, with a first beat (sam), empty beats
(khali) and clapped beats (tali). What is said of a cycle need not fit together; a `Taal` is a
definition that does.

* `Taal.Definition`, `Taal.Definition.Consistent`: a full definition, and when it fits together.
* `Taal.Definition.checks`, `Taal.Definition.fault?`: the rules, and the first broken one.
* `Taal.Definition.fault?_eq_none_iff`: nothing is wrong with consistent definitions alone.
* `Taal`, `Taal.ofDefinition`: a consistent definition.
* `Taal.Outline`, `Taal.Outline.build`: a definition in which what is usual can be left out.
-/

namespace Sargam

namespace Taal

/-! ## Definitions -/

/-- The number of matras that vibhags have together. The sum is taken without overflow: it is
exact also where a sum of machine words would wrap or fail. -/
def matraCount (vibhags : List Nat) : Nat := vibhags.foldr (· + ·) 0

/-- What is to be said of a cycle. -/
structure Definition where
  name : String
  displayName : String
  totalMatras : Nat
  /-- The number of matras of each vibhag. -/
  vibhagStructure : List Nat
  /-- The matra of the first beat. -/
  sam : Nat
  /-- The empty beats. -/
  khali : Positions
  /-- The clapped beats. -/
  tali : Positions
  /-- Whether the first beat is meant to be an empty one. -/
  samIsKhali : Bool
  /-- The drum syllables, one for each matra, if they are known. -/
  bols : Option (List String)
  deriving DecidableEq

namespace Definition

/-- Whether a position lies in the cycle. -/
def inCycle (d : Definition) (position : Nat) : Bool :=
  decide (1 ≤ position ∧ position ≤ d.totalMatras)

/-- A definition whose parts fit together. -/
structure Consistent (d : Definition) : Prop where
  total_ne_zero : d.totalMatras ≠ 0
  vibhags_ne_nil : d.vibhagStructure ≠ []
  vibhags_pos : 0 ∉ d.vibhagStructure
  vibhags_sum : matraCount d.vibhagStructure = d.totalMatras
  sam_inCycle : d.inCycle d.sam = true
  khali_inCycle : ∀ p ∈ d.khali.toList, d.inCycle p = true
  tali_inCycle : ∀ p ∈ d.tali.toList, d.inCycle p = true
  sam_khali : decide (d.sam ∈ d.khali) = d.samIsKhali
  bols_length : ∀ bols, d.bols = some bols → bols.length = d.totalMatras

end Definition

/-! ## Faults -/

/-- What can be wrong with a definition. -/
inductive Fault where
  | noMatras
  | emptyVibhag (vibhags : List Nat)
  | vibhagSum (vibhags : List Nat) (total : Nat)
  | samOutside (position total : Nat)
  | khaliOutside (position total : Nat)
  | taliOutside (position total : Nat)
  | samNotKhali
  | samIsKhali (position : Nat)
  | bolCount (count total : Nat)
  deriving DecidableEq, Repr

/-- A list of numbers in brackets. -/
def listText (ns : List Nat) : String := "[" ++ ", ".intercalate (ns.map Nat.repr) ++ "]"

/-- The wording of a fault. -/
def Fault.reason : Fault → String
  | .noMatras => "total matras must be positive"
  | .emptyVibhag vibhags =>
    s!"vibhag structure {listText vibhags} must contain only positive sizes"
  | .vibhagSum vibhags total =>
    s!"vibhag structure {listText vibhags} sums to {matraCount vibhags}, not {total} matras"
  | .samOutside position total => s!"sam position {position} out of range (1-{total})"
  | .khaliOutside position total => s!"khali position {position} out of range (1-{total})"
  | .taliOutside position total => s!"tali position {position} out of range (1-{total})"
  | .samNotKhali => "declared sam-on-khali but sam is not a khali position"
  | .samIsKhali position => s!"sam position {position} is also a khali position"
  | .bolCount count total => s!"{count} bols for {total} matras"

/-- A refused definition: the name it gives and what is wrong with it. -/
structure Inconsistency where
  taal : String
  fault : Fault
  deriving DecidableEq, Repr

/-- The wording of a refusal. -/
def Inconsistency.message (i : Inconsistency) : String :=
  s!"invalid taal '{i.taal}': {i.fault.reason}"

namespace Definition

/-- The least member of a set that lies outside the cycle. -/
def outside? (d : Definition) (ps : Positions) : Option Nat :=
  ps.toList.find? fun p => !d.inCycle p

/-- What is wrong with the choice of the first beat. -/
def samFault? (d : Definition) : Option Fault :=
  if decide (d.sam ∈ d.khali) = d.samIsKhali then none
  else if d.samIsKhali then some .samNotKhali
  else some (.samIsKhali d.sam)

/-- What is wrong with the drum syllables. -/
def bolFault? (d : Definition) : Option Fault :=
  match d.bols with
  | none => none
  | some bols =>
    if bols.length = d.totalMatras then none else some (.bolCount bols.length d.totalMatras)

/-- What each rule finds wrong with a definition: its size, its vibhags, its positions, the
choice of the first beat and the drum syllables are looked at in this order. -/
def checks (d : Definition) : List (Option Fault) := [
  if d.totalMatras = 0 then some .noMatras else none,
  if d.vibhagStructure = [] ∨ 0 ∈ d.vibhagStructure then some (.emptyVibhag d.vibhagStructure)
  else none,
  if matraCount d.vibhagStructure = d.totalMatras then none
  else some (.vibhagSum d.vibhagStructure d.totalMatras),
  if d.inCycle d.sam then none else some (.samOutside d.sam d.totalMatras),
  (d.outside? d.khali).map (.khaliOutside · d.totalMatras),
  (d.outside? d.tali).map (.taliOutside · d.totalMatras),
  d.samFault?,
  d.bolFault?]

/-- The first thing wrong with a definition. -/
def fault? (d : Definition) : Option Fault := d.checks.findSome? id

theorem outside?_eq_none_iff {d : Definition} {ps : Positions} :
    d.outside? ps = none ↔ ∀ p ∈ ps.toList, d.inCycle p = true := by
  simp [outside?, List.find?_eq_none]

theorem samFault?_eq_none_iff {d : Definition} :
    d.samFault? = none ↔ decide (d.sam ∈ d.khali) = d.samIsKhali := by
  unfold samFault?
  split
  · rename_i h
    exact iff_of_true rfl h
  · rename_i h
    refine iff_of_false ?_ h
    split <;> exact Option.some_ne_none _

theorem bolFault?_eq_none_iff {d : Definition} :
    d.bolFault? = none ↔ ∀ bols, d.bols = some bols → bols.length = d.totalMatras := by
  unfold bolFault?
  cases d.bols with
  | none => simp
  | some bols => simp

/-- Nothing is wrong with consistent definitions, and with no others. -/
theorem fault?_eq_none_iff {d : Definition} : d.fault? = none ↔ d.Consistent := by
  simp only [fault?, checks, List.findSome?_eq_none_iff, List.forall_mem_cons, id_eq,
    Option.map_eq_none_iff, outside?_eq_none_iff, samFault?_eq_none_iff, bolFault?_eq_none_iff,
    ite_eq_right_iff, ite_eq_left_iff, reduceCtorEq, imp_false, not_or, Decidable.not_not]
  constructor
  · rintro ⟨htotal, ⟨hne, hpos⟩, hsum, hsam, hkhali, htali, hmark, hbols, -⟩
    exact ⟨htotal, hne, hpos, hsum, hsam, hkhali, htali, hmark, hbols⟩
  · intro h
    exact ⟨h.total_ne_zero, ⟨h.vibhags_ne_nil, h.vibhags_pos⟩, h.vibhags_sum, h.sam_inCycle,
      h.khali_inCycle, h.tali_inCycle, h.sam_khali, h.bols_length, by simp⟩

end Definition

end Taal

/-! ## Taals -/

/-- A cycle whose definition fits together. -/
structure Taal extends Taal.Definition where
  consistent : toDefinition.Consistent
  deriving DecidableEq

namespace Taal

/-- The taal of a definition, or the first thing wrong with it. -/
def ofDefinition (d : Definition) : Except Inconsistency Taal :=
  match h : d.fault? with
  | none => .ok ⟨d, Definition.fault?_eq_none_iff.mp h⟩
  | some fault => .error ⟨d.name, fault⟩

/-- The taal of a consistent definition keeps it as it is. -/
theorem ofDefinition_eq_ok_iff {d : Definition} {t : Taal} :
    ofDefinition d = .ok t ↔ d.Consistent ∧ t.toDefinition = d := by
  unfold ofDefinition
  split
  · rename_i h
    constructor
    · intro ht
      cases ht
      exact ⟨Definition.fault?_eq_none_iff.mp h, rfl⟩
    · rintro ⟨-, rfl⟩
      rfl
  · rename_i fault h
    constructor
    · intro ht
      cases ht
    · rintro ⟨hd, -⟩
      rw [Definition.fault?_eq_none_iff.mpr hd] at h
      cases h

/-- What a taal says of itself is accepted, and gives the taal again. -/
theorem ofDefinition_toDefinition (t : Taal) : ofDefinition t.toDefinition = .ok t :=
  ofDefinition_eq_ok_iff.mpr ⟨t.consistent, rfl⟩

/-! ## Outlines -/

/-- A definition in which what is usual is left out: the number of matras is that of the
vibhags together, the first beat is matra 1 and not empty, and there are no further marks. -/
structure Outline where
  name : String
  displayName : String
  vibhags : List Nat
  totalMatras : Option Nat := none
  sam : Nat := 1
  khali : List Nat := []
  tali : List Nat := []
  samOnKhali : Bool := false
  bols : Option (List String) := none

namespace Outline

/-- The full definition of an outline. -/
def toDefinition (o : Outline) : Definition where
  name := o.name
  displayName := o.displayName
  totalMatras := o.totalMatras.getD (matraCount o.vibhags)
  vibhagStructure := o.vibhags
  sam := o.sam
  khali := Positions.ofList o.khali
  tali := Positions.ofList o.tali
  samIsKhali := o.samOnKhali
  bols := o.bols

/-- The taal of an outline. -/
def build (o : Outline) : Except Inconsistency Taal := ofDefinition o.toDefinition

end Outline

end Taal

end Sargam
