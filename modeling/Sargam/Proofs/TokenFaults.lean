import Mathlib.Control.Monad.Basic
import Sargam.Proofs.TokenGrammar

/-!
# What is wrong with a token

A text that is no token may be wrong in several ways at once, and one of them is reported. What
follows its name comes first: if that is no suffix and octave part, the text is malformed, whatever
its name is. Then come the name, the modifier and the octave. So each report says as much of the
parts it is not about as that those before it are right. An octave is reported as the reader
keeps it, where what is beyond the limit has become the limit; its sign is kept.

* `leadingName`, `afterName`, `NameCut`: a text cut after its name.
* `Tail`, `split_eq_ok_iff_tail`: what may follow a name, and the parts that a text then has.
* `Swara.make_eq_illegalModifier_iff`, `Swara.make_eq_octaveOutOfRange_iff`: what is wrong with
  parts that make no swara.
* `parse_eq_iff_swara`: a report other than that of a malformed text is about parts.
* `parse_reports_first_fault`: for each outcome, the texts that have it.
-/

namespace Sargam

/-! ## Parts that make no swara -/

namespace Swara

variable {base other : BaseNote} {modifier otherModifier : Modifier} {octave reported : Int}

theorem make_eq_illegalModifier_iff :
    make base modifier octave = .error (.illegalModifier other otherModifier) ↔
      modifier ∉ base.legalModifiers ∧ other = base ∧ otherModifier = modifier := by
  unfold make
  split
  · rename_i hlegal
    split
    · simp [hlegal]
    · simp [hlegal]
  · rename_i hillegal
    simp [hillegal, eq_comm]

theorem make_eq_octaveOutOfRange_iff :
    make base modifier octave = .error (.octaveOutOfRange reported) ↔
      modifier ∈ base.legalModifiers ∧ ¬(-3 ≤ octave ∧ octave ≤ 3) ∧ reported = octave := by
  unfold make
  split
  · rename_i hlegal
    split
    · rename_i hrange
      simp [hrange]
    · rename_i hrange
      simp only [Except.error.injEq, Fault.octaveOutOfRange.injEq, hlegal, hrange,
        not_false_eq_true, true_and, eq_comm]
  · rename_i hillegal
    simp [hillegal]

end Swara

namespace Token

/-! ## Names and what follows them -/

/-- The name of a text: the alphabetic characters at its front. -/
def leadingName (text : String) : String :=
  String.ofList (text.toList.takeWhile Text.isAlphabetic)

/-- What follows the name of a text. -/
def afterName (text : String) : String :=
  String.ofList (text.toList.dropWhile Text.isAlphabetic)

/-- A text cut after the longest run of alphabetic characters at its front. -/
structure NameCut (text name rest : String) : Prop where
  append_eq : name ++ rest = text
  alphabetic : ∀ c ∈ name.toList, Text.isAlphabetic c = true
  longest : ∀ run : List Char, run <+: text.toList →
    (∀ c ∈ run, Text.isAlphabetic c = true) → run <+: name.toList

theorem nameCut (text : String) : NameCut text (leadingName text) (afterName text) where
  append_eq := by
    apply String.toList_injective
    rw [String.toList_append, leadingName, afterName, String.toList_ofList, String.toList_ofList,
      List.takeWhile_append_dropWhile]
  alphabetic := by
    rw [leadingName, String.toList_ofList]
    exact List.all_eq_true.mp List.all_takeWhile
  longest run hrun halphabetic := by
    obtain ⟨after, hafter⟩ := hrun
    rw [leadingName, String.toList_ofList, ← hafter, List.takeWhile_append_of_pos halphabetic]
    exact List.prefix_append run _

/-- What may follow a name: the suffix of a modifier and an octave part, each of which may be
empty. -/
def Tail (rest : String) (modifier : Modifier) (octave : String) (value : Int) : Prop :=
  ∃ suffix, rest = suffix ++ octave ∧ SuffixPart suffix modifier ∧ OctavePart octave.toList value

theorem tail_iff {rest octave : String} {modifier : Modifier} {value : Int} :
    Tail rest modifier octave value ↔
      rest = modifier.suffix ++ octave ∧ OctavePart octave.toList value := by
  constructor
  · rintro ⟨suffix, hrest, hsuffix, hpart⟩
    rw [suffixPart_iff.mp hsuffix] at hrest
    exact ⟨hrest, hpart⟩
  · rintro ⟨hrest, hpart⟩
    exact ⟨modifier.suffix, hrest, suffixPart_iff.mpr rfl, hpart⟩

/-- A text has parts when its name is followed by a suffix and an octave part. -/
theorem split_eq_ok_iff_tail {text : String} {parts : Parts} :
    split text = .ok parts ↔ parts.name = leadingName text ∧
      ∃ octave value, Tail (afterName text) parts.modifier octave value ∧
        parts.octave = saturate value := by
  rw [split, splitChars, Except.map_eq_ok_iff]
  constructor
  · rintro ⟨⟨modifier, octave⟩, hread, rfl⟩
    obtain ⟨rest, hdrop, written, hpart, hoctave⟩ := readSuffix_eq_ok_iff.mp hread
    refine ⟨rfl, String.ofList rest, written, tail_iff.mpr ⟨?_, ?_⟩, hoctave⟩
    · apply String.toList_injective
      rw [afterName, String.toList_ofList, hdrop, String.toList_append, String.toList_ofList]
    · rwa [String.toList_ofList]
  · rintro ⟨hname, octave, value, htail, hoctave⟩
    obtain ⟨hrest, hpart⟩ := tail_iff.mp htail
    refine ⟨(parts.modifier, parts.octave), readSuffix_eq_ok_iff.mpr
      ⟨octave.toList, ?_, value, hpart, hoctave⟩, ?_⟩
    · rw [← String.toList_append, ← hrest, afterName, String.toList_ofList]
    · obtain ⟨name, modifier, kept⟩ := parts
      simp only [Parts.mk.injEq, and_true]
      exact hname.symm

/-! ## Octaves as they are kept -/

theorem saturate_eq (value : Int) :
    saturate value = value.sign * min value.natAbs (2 ^ 31 - 1) := by
  have hlimit : octaveLimit = 2 ^ 31 - 1 := rfl
  rw [saturate, hlimit]
  rcases Int.lt_trichotomy value 0 with hneg | rfl | hpos
  · rw [Int.sign_eq_neg_one_of_neg hneg]
    omega
  · rfl
  · rw [Int.sign_eq_one_of_pos hpos]
    omega

theorem saturate_inRange_iff {value : Int} :
    (-3 ≤ saturate value ∧ saturate value ≤ 3) ↔ value.natAbs ≤ 3 := by
  simp only [saturate, octaveLimit]
  omega

theorem saturate_of_natAbs_le {value : Int} (h : value.natAbs ≤ 3) : saturate value = value := by
  simp only [saturate, octaveLimit]
  omega

/-! ## Reports -/

theorem swara_eq_unlawful_iff {parts : Parts} {fault : Swara.Fault} :
    parts.swara = .error (.unlawful fault) ↔
      ∃ base, NamePart parts.name base ∧
        Swara.make base parts.modifier parts.octave = .error fault := by
  simp only [namePart_iff, ← BaseNote.ofName?_eq_some_iff]
  rw [Parts.swara]
  cases BaseNote.ofName? parts.name with
  | none => simp
  | some base => simp [Except.mapError_eq_error_iff]

theorem swara_eq_unknownNote_iff {parts : Parts} {unknown : String} :
    parts.swara = .error (.unknownNote unknown) ↔
      unknown = parts.name ∧ ∀ base, ¬NamePart parts.name base := by
  simp only [namePart_iff, ← BaseNote.ofName?_eq_some_iff]
  rw [Parts.swara]
  cases BaseNote.ofName? parts.name with
  | none => simp [eq_comm]
  | some base => simp [Except.mapError_eq_error_iff]

theorem swara_ne_malformed (parts : Parts) (malformation : Malformation) :
    parts.swara ≠ .error (.malformed malformation) := by
  rw [Parts.swara]
  cases BaseNote.ofName? parts.name with
  | none => simp
  | some base => simp [Except.mapError_eq_error_iff]

theorem parse_eq_malformed_iff {text : String} {malformation : Malformation} :
    parse text = .error (.malformed malformation) ↔ split text = .error malformation := by
  rw [parse]
  cases split text with
  | error other => simp
  | ok parts => simp [swara_ne_malformed]

/-- An outcome other than that of a malformed text is that of the parts. -/
theorem parse_eq_iff_swara {text : String} {outcome : Except Fault Swara}
    (h : ∀ malformation, outcome ≠ .error (.malformed malformation)) :
    parse text = outcome ↔ ∃ modifier octave value, Tail (afterName text) modifier octave value ∧
      (⟨leadingName text, modifier, saturate value⟩ : Parts).swara = outcome := by
  have hparts : parse text = outcome ↔ ∃ parts, split text = .ok parts ∧ parts.swara = outcome := by
    rw [parse]
    cases split text with
    | error malformation => simp [(h malformation).symm]
    | ok parts => simp
  rw [hparts]
  constructor
  · rintro ⟨⟨name, modifier, kept⟩, hsplit, houtcome⟩
    obtain ⟨rfl, octave, value, htail, rfl⟩ := split_eq_ok_iff_tail.mp hsplit
    exact ⟨modifier, octave, value, htail, houtcome⟩
  · rintro ⟨modifier, octave, value, htail, houtcome⟩
    exact ⟨_, split_eq_ok_iff_tail.mpr ⟨rfl, octave, value, htail, rfl⟩, houtcome⟩

theorem exists_malformed_iff {text : String} :
    (∃ malformation, parse text = .error (.malformed malformation)) ↔
      ¬∃ modifier octave value, Tail (afterName text) modifier octave value := by
  simp only [parse_eq_malformed_iff]
  cases hsplit : split text with
  | error malformation =>
    refine iff_of_true ⟨malformation, rfl⟩ ?_
    rintro ⟨modifier, octave, value, htail⟩
    have hparts : split text = .ok ⟨leadingName text, modifier, saturate value⟩ :=
      split_eq_ok_iff_tail.mpr ⟨rfl, octave, value, htail, rfl⟩
    cases hsplit.symm.trans hparts
  | ok parts =>
    obtain ⟨-, octave, value, htail, -⟩ := split_eq_ok_iff_tail.mp hsplit
    refine iff_of_false ?_ fun h => h ⟨parts.modifier, octave, value, htail⟩
    rintro ⟨malformation, h⟩
    cases h

theorem parse_eq_unknownNote_iff {text unknown : String} :
    parse text = .error (.unknownNote unknown) ↔
      (∃ modifier octave value, Tail (afterName text) modifier octave value) ∧
        unknown = leadingName text ∧ ∀ base, ¬NamePart (leadingName text) base := by
  rw [parse_eq_iff_swara (by simp)]
  simp only [swara_eq_unknownNote_iff]
  constructor
  · rintro ⟨modifier, octave, value, htail, hunknown⟩
    exact ⟨⟨modifier, octave, value, htail⟩, hunknown⟩
  · rintro ⟨⟨modifier, octave, value, htail⟩, hunknown⟩
    exact ⟨modifier, octave, value, htail, hunknown⟩

theorem parse_eq_illegalModifier_iff {text : String} {base : BaseNote} {modifier : Modifier} :
    parse text = .error (.unlawful (.illegalModifier base modifier)) ↔
      ∃ octave value, Tail (afterName text) modifier octave value ∧
        NamePart (leadingName text) base ∧ modifier ∉ base.legalModifiers := by
  rw [parse_eq_iff_swara (by simp)]
  simp only [swara_eq_unlawful_iff, Swara.make_eq_illegalModifier_iff]
  constructor
  · rintro ⟨_, octave, value, htail, _, hname, hillegal, rfl, rfl⟩
    exact ⟨octave, value, htail, hname, hillegal⟩
  · rintro ⟨octave, value, htail, hname, hillegal⟩
    exact ⟨modifier, octave, value, htail, base, hname, hillegal, rfl, rfl⟩

theorem parse_eq_octaveOutOfRange_iff {text : String} {reported : Int} :
    parse text = .error (.unlawful (.octaveOutOfRange reported)) ↔
      ∃ base modifier octave value, Tail (afterName text) modifier octave value ∧
        NamePart (leadingName text) base ∧ modifier ∈ base.legalModifiers ∧ 3 < value.natAbs ∧
        reported = saturate value := by
  rw [parse_eq_iff_swara (by simp)]
  simp only [swara_eq_unlawful_iff, Swara.make_eq_octaveOutOfRange_iff, saturate_inRange_iff,
    Nat.not_le]
  constructor
  · rintro ⟨modifier, octave, value, htail, base, hname, hlegal, hfar, hreported⟩
    exact ⟨base, modifier, octave, value, htail, hname, hlegal, hfar, hreported⟩
  · rintro ⟨base, modifier, octave, value, htail, hname, hlegal, hfar, hreported⟩
    exact ⟨modifier, octave, value, htail, base, hname, hlegal, hfar, hreported⟩

theorem exists_parse_eq_ok_iff {text : String} {base : BaseNote} {modifier : Modifier}
    {value : Int} :
    (∃ s, parse text = .ok s ∧ s.base = base ∧ s.modifier = modifier ∧ s.octave = value) ↔
      ∃ octave, Tail (afterName text) modifier octave value ∧
        NamePart (leadingName text) base ∧ modifier ∈ base.legalModifiers ∧ value.natAbs ≤ 3 := by
  constructor
  · rintro ⟨s, hparse, rfl, rfl, rfl⟩
    obtain ⟨modifier, octave, value, htail, hswara⟩ := (parse_eq_iff_swara (by simp)).mp hparse
    obtain ⟨hname, rfl, hoctave⟩ := swara_eq_ok_iff.mp hswara
    rw [saturate_eq_iff.mp hoctave] at htail
    have hge := s.octave_ge
    have hle := s.octave_le
    exact ⟨octave, htail, namePart_iff.mpr hname, s.modifier_legal, by omega⟩
  · rintro ⟨octave, htail, hname, hlegal, hnear⟩
    refine ⟨⟨base, modifier, value, hlegal, by omega, by omega⟩,
      (parse_eq_iff_swara (by simp)).mpr ⟨modifier, octave, value, htail, ?_⟩, rfl, rfl, rfl⟩
    exact swara_eq_ok_iff.mpr ⟨namePart_iff.mp hname, rfl, saturate_of_natAbs_le hnear⟩

/-- **The first fault of a token is reported.** A text is cut after its name, the longest run of
alphabetic characters at its front. It is malformed exactly when the name is not followed by a
suffix and an octave part. Otherwise its name is reported unless it is that of a note, then its
modifier unless the note admits it, and then its octave if it is beyond three, with its sign and
with a magnitude of `2 ^ 31 - 1` at most; a text without these faults is the swara that it says.
The parts of a text that is not malformed are the text when they are joined. -/
theorem parse_reports_first_fault (text : String) :
    let name := leadingName text
    let rest := afterName text
    NameCut text name rest ∧
      ((∃ malformation, parse text = .error (.malformed malformation)) ↔
        ¬∃ modifier octave value, Tail rest modifier octave value) ∧
      (∀ unknown, parse text = .error (.unknownNote unknown) ↔
        (∃ modifier octave value, Tail rest modifier octave value) ∧
          unknown = name ∧ ∀ base, ¬NamePart name base) ∧
      (∀ base modifier, parse text = .error (.unlawful (.illegalModifier base modifier)) ↔
        ∃ octave value, Tail rest modifier octave value ∧
          NamePart name base ∧ modifier ∉ base.legalModifiers) ∧
      (∀ reported, parse text = .error (.unlawful (.octaveOutOfRange reported)) ↔
        ∃ base modifier octave value, Tail rest modifier octave value ∧
          NamePart name base ∧ modifier ∈ base.legalModifiers ∧ 3 < value.natAbs ∧
          reported = value.sign * min value.natAbs (2 ^ 31 - 1)) ∧
      (∀ base modifier value, (∃ s, parse text = .ok s ∧
          s.base = base ∧ s.modifier = modifier ∧ s.octave = value) ↔
        ∃ octave, Tail rest modifier octave value ∧
          NamePart name base ∧ modifier ∈ base.legalModifiers ∧ value.natAbs ≤ 3) ∧
      ∀ parts, split text = .ok parts ↔
        ∃ octave value, Tail rest parts.modifier octave value ∧ parts.name = name ∧
          parts.octave = value.sign * min value.natAbs (2 ^ 31 - 1) ∧
          parts.name ++ parts.modifier.suffix ++ octave = text := by
  intro name rest
  simp only [← saturate_eq]
  refine ⟨nameCut text, exists_malformed_iff, fun unknown => parse_eq_unknownNote_iff,
    fun base modifier => parse_eq_illegalModifier_iff,
    fun reported => parse_eq_octaveOutOfRange_iff,
    fun base modifier value => exists_parse_eq_ok_iff, fun parts => ?_⟩
  rw [split_eq_ok_iff_tail]
  constructor
  · rintro ⟨hname, octave, value, htail, hoctave⟩
    refine ⟨octave, value, htail, hname, hoctave, ?_⟩
    rw [hname, String.append_assoc, ← (tail_iff.mp htail).1, (nameCut text).append_eq]
  · rintro ⟨octave, value, htail, hname, hoctave, -⟩
    exact ⟨hname, octave, value, htail, hoctave⟩

/-- Each fault together with the ones that are reported after it. -/
example : parse "ＳＡ_k_k+9" = .error (.malformed .secondModifier) ∧
    parse "ＳＡ_k+9" = .error (.unknownNote "ＳＡ") ∧
    parse "SA_k+9" = .error (.unlawful (.illegalModifier .sa .komal)) ∧
    parse "SA-0099999999999" = .error (.unlawful (.octaveOutOfRange (-2147483647))) := by
  decide +kernel

end Token

end Sargam
