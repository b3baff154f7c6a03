/-!
# Swaras

A swara is one note: a base note of the scale, a modifier that the base note admits, and an
octave at most three away from the middle one. The type carries both rules, so every swara in
the library is a note that can be sung.

* `BaseNote`: the seven notes, with their written and classical names.
* `Modifier`: natural (shuddha), flat (komal) or sharp (tivra).
* `BaseNote.legalModifiers`: the modifiers that a note admits.
* `Swara`, `Swara.make`: a swara, and the only way to one from unchecked parts.
* `Swara.make_eq_ok_iff`: exactly the lawful parts make a swara.
-/

namespace Sargam

/-! ## Notes and modifiers -/

/-- The seven notes of the scale. -/
inductive BaseNote where
  | sa | re | ga | ma | pa | dha | ni
  deriving DecidableEq, Repr, Inhabited

/-- How a note is bent: not at all (shuddha), flattened (komal) or sharpened (tivra). -/
inductive Modifier where
  | shuddha | komal | tivra
  deriving DecidableEq, Repr, Inhabited

namespace BaseNote

/-- The notes in the order of the scale. -/
def all : List BaseNote := [sa, re, ga, ma, pa, dha, ni]

/-- The name by which a note is written. -/
def name : BaseNote → String
  | sa => "SA"
  | re => "RE"
  | ga => "GA"
  | ma => "MA"
  | pa => "PA"
  | dha => "DHA"
  | ni => "NI"

/-- The classical name of a note. -/
def svarName : BaseNote → String
  | sa => "Shadja"
  | re => "Rishabha"
  | ga => "Gandhara"
  | ma => "Madhyama"
  | pa => "Panchama"
  | dha => "Dhaivata"
  | ni => "Nishada"

/-- The place of a note in the scale, from 1. -/
def degree : BaseNote → Nat
  | sa => 1
  | re => 2
  | ga => 3
  | ma => 4
  | pa => 5
  | dha => 6
  | ni => 7

/-- The note that is written so; case counts. -/
def ofName? (text : String) : Option BaseNote := all.find? (fun note => note.name == text)

/-- The modifiers that a note admits. Sa and pa are fixed, ma alone can be sharp, and the
others can be flat. -/
def legalModifiers : BaseNote → List Modifier
  | sa | pa => [.shuddha]
  | re | ga | dha | ni => [.shuddha, .komal]
  | ma => [.shuddha, .tivra]

/-- Whether a note has a flat form. -/
def canBeKomal (note : BaseNote) : Bool := note.legalModifiers.contains .komal

/-- Whether a note has a sharp form. -/
def canBeTivra (note : BaseNote) : Bool := note.legalModifiers.contains .tivra

/-- The notes that have a flat form. -/
def komalNotes : List BaseNote := all.filter canBeKomal

/-- The notes that have a sharp form. -/
def tivraNotes : List BaseNote := all.filter canBeTivra

@[simp] theorem ofName?_name (note : BaseNote) : ofName? note.name = some note := by
  cases note <;> decide

theorem ofName?_eq_some_iff {text : String} {note : BaseNote} :
    ofName? text = some note ↔ text = note.name := by
  constructor
  · intro h
    have hname := List.find?_some (p := fun b : BaseNote => b.name == text) h
    exact (eq_of_beq hname).symm
  · rintro rfl
    exact ofName?_name note

theorem name_inj {a b : BaseNote} (h : a.name = b.name) : a = b := by
  simpa using congrArg ofName? h

end BaseNote

namespace Modifier

/-- The modifiers, the natural one first. -/
def all : List Modifier := [shuddha, komal, tivra]

/-- The word for a modifier. -/
def name : Modifier → String
  | shuddha => "shuddha"
  | komal => "komal"
  | tivra => "tivra"

/-- What a modifier adds to the written name of a note. -/
def suffix : Modifier → String
  | shuddha => ""
  | komal => "_k"
  | tivra => "_t"

end Modifier

/-! ## Swaras -/

/-- One note as it is sung. -/
structure Swara where
  base : BaseNote
  modifier : Modifier
  /-- Octaves above the middle one, or below it where negative. -/
  octave : Int
  modifier_legal : modifier ∈ base.legalModifiers
  octave_ge : -3 ≤ octave
  octave_le : octave ≤ 3
  deriving DecidableEq

namespace Swara

/-- Why parts do not make a swara. -/
inductive Fault where
  | illegalModifier (base : BaseNote) (modifier : Modifier)
  | octaveOutOfRange (octave : Int)
  deriving DecidableEq, Repr

/-- The wording of a fault. -/
def Fault.message : Fault → String
  | .illegalModifier base modifier => s!"'{base.name}' cannot be {modifier.name}"
  | .octaveOutOfRange octave => s!"octave {octave} out of range, must be between -3 and +3"

/-- The swara with the given parts. An illegal modifier is reported before a bad octave. -/
def make (base : BaseNote) (modifier : Modifier) (octave : Int) : Except Fault Swara :=
  if hm : modifier ∈ base.legalModifiers then
    if ho : -3 ≤ octave ∧ octave ≤ 3 then .ok ⟨base, modifier, octave, hm, ho.1, ho.2⟩
    else .error (.octaveOutOfRange octave)
  else .error (.illegalModifier base modifier)

/-- Whether a swara is flat. -/
def isKomal (s : Swara) : Bool := s.modifier = .komal

/-- Whether a swara is sharp. -/
def isTivra (s : Swara) : Bool := s.modifier = .tivra

theorem ext_parts {s t : Swara} (hb : s.base = t.base) (hm : s.modifier = t.modifier)
    (ho : s.octave = t.octave) : s = t := by
  cases s
  cases t
  simp_all

/-- Lawful parts, and only they, make a swara, which then has those parts. -/
theorem make_eq_ok_iff {base : BaseNote} {modifier : Modifier} {octave : Int} {s : Swara} :
    make base modifier octave = .ok s ↔
      s.base = base ∧ s.modifier = modifier ∧ s.octave = octave := by
  constructor
  · intro h
    unfold make at h
    split at h
    · split at h
      · cases h
        exact ⟨rfl, rfl, rfl⟩
      · cases h
    · cases h
  · rintro ⟨rfl, rfl, rfl⟩
    simp [make, s.modifier_legal, s.octave_ge, s.octave_le]

end Swara

end Sargam
