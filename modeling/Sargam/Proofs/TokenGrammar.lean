import Mathlib.Algebra.Group.Nat.Defs
import Sargam.Proofs.Outcome
import Sargam.Swara.Token

/-!
# The grammar of tokens

What the reader of tokens accepts, said without the reader. A token is a name, the suffix of a
modifier and an octave part; the octave part is empty or a sign before digits, whose value is
the sum of the digits by the places they stand in. The reader goes another way: it takes the
longest alphabetic run for a name, reads suffixes in a loop, and lets great numbers saturate.

* `placeValue`, `OctavePart`: the value of digits, and the octave parts with what they mean.
* `readSuffix_eq_ok_iff`: what may follow a name, and what is read from it.
* `split_eq_ok_iff`: the texts that have given parts.
* `parse_eq_ok_iff`: the tokens of a swara.
* `parse_accepts_grammar`: tokens are read by the grammar, and nothing else is.
-/

namespace Sargam.Token

/-! ## Octave parts -/

/-- The value of decimal digits, each counted by the place it stands in. -/
def placeValue : List Char → Nat
  | [] => 0
  | c :: cs => (c.toNat - '0'.toNat) * 10 ^ cs.length + placeValue cs

theorem ofDigitChars_eq_placeValue (cs : List Char) : Nat.ofDigitChars 10 cs 0 = placeValue cs := by
  induction cs with
  | nil => rfl
  | cons c cs ih =>
    rw [Nat.ofDigitChars_cons, Nat.ofDigitChars_eq_ofDigitChars_zero, ih, placeValue,
      Nat.mul_zero, Nat.zero_add, Nat.mul_comm]

/-- A text and the octave that it writes: nothing for the middle octave, otherwise a sign and
one or more digits, among them any number of leading zeros. -/
inductive OctavePart : List Char → Int → Prop where
  | middle : OctavePart [] 0
  | above {digits : List Char} (hne : digits ≠ [])
      (hdigits : ∀ c ∈ digits, c.isDigit = true) :
      OctavePart ('+' :: digits) (placeValue digits)
  | below {digits : List Char} (hne : digits ≠ [])
      (hdigits : ∀ c ∈ digits, c.isDigit = true) :
      OctavePart ('-' :: digits) (-(placeValue digits : Int))

/-- An octave as the reader keeps it: what lies beyond the limit counts as the limit. -/
def saturate (octave : Int) : Int := max (-octaveLimit) (min octave octaveLimit)

/-- Octaves that a swara may have are kept as they are, and no others are mistaken for them. -/
theorem saturate_eq_iff {octave : Int} {s : Swara} :
    saturate octave = s.octave ↔ octave = s.octave := by
  have hge := s.octave_ge
  have hle := s.octave_le
  simp only [saturate, octaveLimit]
  omega

theorem readOctave_eq_ok_iff {sign : Char} {digits : List Char} {octave : Int} :
    readOctave sign digits = .ok octave ↔
      (digits ≠ [] ∧ ∀ c ∈ digits, c.isDigit = true) ∧ octave =
        saturate (if sign = '-' then -(placeValue digits : Int) else placeValue digits) := by
  have hlimit : saturate (if sign = '-' then -(placeValue digits : Int) else placeValue digits) =
      if sign = '-' then -((min (placeValue digits) octaveLimit : Nat) : Int)
      else (min (placeValue digits) octaveLimit : Nat) := by
    unfold saturate
    split <;> omega
  rw [hlimit, ← ofDigitChars_eq_placeValue]
  -- The reader asks for an empty list and for all digits at once, as one `Bool`.
  have hcheck : ¬(digits.isEmpty || !digits.all Char.isDigit) = true ↔
      digits ≠ [] ∧ ∀ c ∈ digits, c.isDigit = true := by simp
  unfold readOctave
  split
  · rename_i hbad
    constructor
    · intro h
      cases h
    · rintro ⟨hdigits, -⟩
      exact absurd hbad (hcheck.mpr hdigits)
  · rename_i hgood
    rw [Except.ok.injEq]
    constructor
    · intro h
      exact ⟨hcheck.mp hgood, h.symm⟩
    · rintro ⟨-, h⟩
      exact h.symm

/-! ## What follows a name -/

/-- Nothing, or a sign and what it is read as: the rest of a token after its modifier. -/
def ReadsOctave (cs : List Char) (octave : Int) : Prop :=
  ∃ written, OctavePart cs written ∧ octave = saturate written

theorem readsOctave_nil_iff {octave : Int} : ReadsOctave [] octave ↔ octave = 0 := by
  constructor
  · rintro ⟨written, hpart, rfl⟩
    cases hpart
    rfl
  · rintro rfl
    exact ⟨0, .middle, rfl⟩

theorem readsOctave_cons_iff {c : Char} {cs : List Char} {octave : Int} :
    ReadsOctave (c :: cs) octave ↔ (c = '+' ∨ c = '-') ∧ readOctave c cs = .ok octave := by
  constructor
  · rintro ⟨written, hpart, rfl⟩
    cases hpart with
    | above hne hdigits =>
      exact ⟨.inl rfl, readOctave_eq_ok_iff.mpr ⟨⟨hne, hdigits⟩, rfl⟩⟩
    | below hne hdigits =>
      exact ⟨.inr rfl, readOctave_eq_ok_iff.mpr ⟨⟨hne, hdigits⟩, rfl⟩⟩
  · rintro ⟨hsign, hread⟩
    obtain ⟨⟨hne, hdigits⟩, rfl⟩ := readOctave_eq_ok_iff.mp hread
    rcases hsign with rfl | rfl
    · exact ⟨placeValue cs, .above hne hdigits, rfl⟩
    · exact ⟨-(placeValue cs : Int), .below hne hdigits, rfl⟩

theorem not_readsOctave_underscore {cs : List Char} {octave : Int} :
    ¬ReadsOctave ('_' :: cs) octave := by
  rw [readsOctave_cons_iff]
  rintro ⟨hsign, -⟩
  exact absurd hsign (by decide)

/-- A text that starts with the written suffix of a modifier, and what follows the suffix. -/
inductive Marked : List Char → Modifier → List Char → Prop where
  | komal (rest : List Char) : Marked ('_' :: 'k' :: rest) .komal rest
  | tivra (rest : List Char) : Marked ('_' :: 't' :: rest) .tivra rest

theorem eq_suffix_append_iff {cs rest : List Char} {n : Modifier} :
    cs = n.suffix.toList ++ rest ↔ (n = .shuddha ∧ cs = rest) ∨ Marked cs n rest := by
  constructor
  · rintro rfl
    cases n with
    | shuddha => exact .inl ⟨rfl, rfl⟩
    | komal => exact .inr (.komal rest)
    | tivra => exact .inr (.tivra rest)
  · rintro (⟨rfl, rfl⟩ | hmarked)
    · rfl
    · cases hmarked with
      | komal => rfl
      | tivra => rfl

theorem Marked.ne_shuddha {cs rest : List Char} {n : Modifier} (h : Marked cs n rest) :
    n ≠ .shuddha := by
  rintro rfl
  cases h

theorem Marked.unique {cs rest after : List Char} {m n : Modifier} (h : Marked cs m rest)
    (hn : Marked cs n after) : n = m ∧ after = rest := by
  cases h with
  | komal =>
    cases hn
    exact ⟨rfl, rfl⟩
  | tivra =>
    cases hn
    exact ⟨rfl, rfl⟩

theorem Marked.not_readsOctave {cs rest : List Char} {n : Modifier} (h : Marked cs n rest)
    {octave : Int} : ¬ReadsOctave cs octave := by
  cases h with
  | komal => exact not_readsOctave_underscore
  | tivra => exact not_readsOctave_underscore

/-- A suffix is read as its modifier, unless a modifier has been read before. -/
theorem readSuffix_of_marked {cs rest : List Char} {n : Modifier} (h : Marked cs n rest)
    (modifier : Modifier) :
    readSuffix modifier cs =
      if modifier = .shuddha then readSuffix n rest else .error .secondModifier := by
  cases h with
  | komal => rfl
  | tivra => rfl

theorem readSuffix_of_unmarked {cs : List Char} (h : ∀ n rest, ¬Marked cs n rest)
    {modifier n : Modifier} {octave : Int} :
    readSuffix modifier cs = .ok (n, octave) ↔ n = modifier ∧ ReadsOctave cs octave := by
  fun_cases readSuffix modifier cs with
  | case1 =>
    rw [readsOctave_nil_iff, Except.ok.injEq, Prod.mk.injEq, eq_comm, eq_comm (a := octave)]
  | case2 rest => exact absurd (.komal rest) (h _ _)
  | case3 rest => exact absurd (.komal rest) (h _ _)
  | case4 rest => exact absurd (.tivra rest) (h _ _)
  | case5 rest => exact absurd (.tivra rest) (h _ _)
  | case6 c rest _ _ hsign =>
    rw [readsOctave_cons_iff, Except.map_eq_ok_iff]
    constructor
    · rintro ⟨read, hread, hpair⟩
      cases hpair
      exact ⟨rfl, hsign, hread⟩
    · rintro ⟨rfl, -, hread⟩
      exact ⟨octave, hread, rfl⟩
  | case7 c rest _ _ hother =>
    rw [readsOctave_cons_iff]
    constructor
    · intro hread
      cases hread
    · rintro ⟨-, hsign, -⟩
      exact absurd hsign hother

/-- After a modifier only an octave part is read: a second suffix is refused. -/
theorem readSuffix_modified {modifier n : Modifier} (hm : modifier ≠ .shuddha) {cs : List Char}
    {octave : Int} :
    readSuffix modifier cs = .ok (n, octave) ↔ n = modifier ∧ ReadsOctave cs octave := by
  by_cases hmarked : ∃ second rest, Marked cs second rest
  · obtain ⟨second, rest, hmarked⟩ := hmarked
    rw [readSuffix_of_marked hmarked, if_neg hm]
    constructor
    · intro h
      cases h
    · rintro ⟨-, hoctave⟩
      exact absurd hoctave hmarked.not_readsOctave
  · exact readSuffix_of_unmarked fun second rest h => hmarked ⟨second, rest, h⟩

/-- After a name stand the suffix of its modifier, which may be empty, and an octave part. -/
theorem readSuffix_eq_ok_iff {n : Modifier} {cs : List Char} {octave : Int} :
    readSuffix .shuddha cs = .ok (n, octave) ↔
      ∃ rest, cs = n.suffix.toList ++ rest ∧ ReadsOctave rest octave := by
  by_cases hmarked : ∃ first rest, Marked cs first rest
  · obtain ⟨first, rest, hmarked⟩ := hmarked
    rw [readSuffix_of_marked hmarked, if_pos rfl, readSuffix_modified hmarked.ne_shuddha]
    constructor
    · rintro ⟨rfl, hoctave⟩
      exact ⟨rest, eq_suffix_append_iff.mpr (.inr hmarked), hoctave⟩
    · rintro ⟨after, hcs, hoctave⟩
      rcases eq_suffix_append_iff.mp hcs with ⟨-, rfl⟩ | hafter
      · exact absurd hoctave hmarked.not_readsOctave
      · obtain ⟨rfl, rfl⟩ := hmarked.unique hafter
        exact ⟨rfl, hoctave⟩
  · rw [readSuffix_of_unmarked fun first rest h => hmarked ⟨first, rest, h⟩]
    constructor
    · rintro ⟨rfl, hoctave⟩
      exact ⟨cs, rfl, hoctave⟩
    · rintro ⟨rest, hcs, hoctave⟩
      rcases eq_suffix_append_iff.mp hcs with ⟨rfl, rfl⟩ | hrest
      · exact ⟨rfl, hoctave⟩
      · exact absurd ⟨n, rest, hrest⟩ hmarked

/-! ## Names -/

theorem name_ne_nil (note : BaseNote) : note.name.toList ≠ [] := by
  cases note <;> decide

theorem isUpper_of_mem_name {note : BaseNote} : ∀ c ∈ note.name.toList, c.isUpper = true := by
  have hall : note.name.toList.all Char.isUpper = true := by cases note <;> decide
  exact List.all_eq_true.mp hall

/-- What follows a name starts with no alphabetic character, so the name ends there. -/
theorem head_not_alphabetic {n : Modifier} {rest : List Char} {octave : Int}
    (h : ReadsOctave rest octave) :
    ∀ c ∈ (n.suffix.toList ++ rest).head?, Text.isAlphabetic c = false := by
  intro c hc
  cases n with
  | shuddha =>
    obtain ⟨written, hpart, -⟩ := h
    cases hpart with
    | middle => cases hc
    | above =>
      cases hc
      exact Text.isAlphabetic_of_lt (by decide)
    | below =>
      cases hc
      exact Text.isAlphabetic_of_lt (by decide)
  | komal =>
    cases hc
    exact Text.isAlphabetic_underscore
  | tivra =>
    cases hc
    exact Text.isAlphabetic_underscore

theorem takeWhile_dropWhile_append {p : Char → Bool} {run rest : List Char}
    (hrun : ∀ c ∈ run, p c = true) (hrest : ∀ c ∈ rest.head?, p c = false) :
    (run ++ rest).takeWhile p = run ∧ (run ++ rest).dropWhile p = rest := by
  rw [List.takeWhile_append_of_pos hrun, List.dropWhile_append_of_pos hrun]
  cases rest with
  | nil => simp
  | cons c cs =>
    have hc : p c = false := hrest c rfl
    simp [hc]

/-- The texts that have given parts: an alphabetic name, a suffix and an octave part. -/
theorem split_eq_ok_iff {text : String} {parts : Parts} :
    split text = .ok parts ↔
      ∃ rest, text.toList = parts.name.toList ++ (parts.modifier.suffix.toList ++ rest) ∧
        (∀ c ∈ parts.name.toList, Text.isAlphabetic c = true) ∧
        ReadsOctave rest parts.octave := by
  rw [split, splitChars, Except.map_eq_ok_iff]
  constructor
  · rintro ⟨⟨modifier, octave⟩, hread, rfl⟩
    obtain ⟨rest, hdrop, hoctave⟩ := readSuffix_eq_ok_iff.mp hread
    refine ⟨rest, ?_, ?_, hoctave⟩
    · rw [← hdrop, String.toList_ofList, List.takeWhile_append_dropWhile]
    · rw [String.toList_ofList]
      exact List.all_eq_true.mp List.all_takeWhile
  · rintro ⟨rest, htext, hname, hoctave⟩
    obtain ⟨htake, hdrop⟩ := takeWhile_dropWhile_append hname (head_not_alphabetic hoctave)
    refine ⟨(parts.modifier, parts.octave), ?_, ?_⟩
    · rw [htext, hdrop]
      exact readSuffix_eq_ok_iff.mpr ⟨rest, rfl, hoctave⟩
    · rw [htext, htake, String.ofList_toList]

/-! ## Tokens -/

theorem swara_eq_ok_iff {parts : Parts} {s : Swara} :
    parts.swara = .ok s ↔
      parts.name = s.base.name ∧ parts.modifier = s.modifier ∧ parts.octave = s.octave := by
  rw [Parts.swara]
  cases hname : BaseNote.ofName? parts.name with
  | none =>
    constructor
    · intro h
      cases h
    · rintro ⟨hbase, -⟩
      rw [hbase, BaseNote.ofName?_name] at hname
      cases hname
  | some base =>
    rw [BaseNote.ofName?_eq_some_iff.mp hname, Except.mapError_eq_ok_iff, Swara.make_eq_ok_iff]
    constructor
    · rintro ⟨hbase, hmodifier, hoctave⟩
      exact ⟨congrArg BaseNote.name hbase.symm, hmodifier.symm, hoctave.symm⟩
    · rintro ⟨hbase, hmodifier, hoctave⟩
      exact ⟨BaseNote.name_inj hbase.symm, hmodifier.symm, hoctave.symm⟩

/-- The tokens of a swara: its name, the suffix of its modifier, and a text for its octave. -/
theorem parse_eq_ok_iff {text : String} {s : Swara} :
    parse text = .ok s ↔
      ∃ octave, text.toList = s.base.name.toList ++ (s.modifier.suffix.toList ++ octave) ∧
        OctavePart octave s.octave := by
  have hparse : parse text = .ok s ↔ split text = .ok ⟨s.base.name, s.modifier, s.octave⟩ := by
    rw [parse]
    cases hsplit : split text with
    | error malformation => simp
    | ok parts =>
      cases parts
      simp only [swara_eq_ok_iff, Except.ok.injEq, Parts.mk.injEq]
  rw [hparse, split_eq_ok_iff]
  constructor
  · rintro ⟨octave, htext, -, written, hpart, hsaturate⟩
    rw [saturate_eq_iff.mp hsaturate.symm] at hpart
    exact ⟨octave, htext, hpart⟩
  · rintro ⟨octave, htext, hpart⟩
    have hname : ∀ c ∈ s.base.name.toList, Text.isAlphabetic c = true :=
      fun c hc => Text.isAlphabetic_of_isUpper (isUpper_of_mem_name c hc)
    exact ⟨octave, htext, hname, s.octave, hpart, (saturate_eq_iff.mpr rfl).symm⟩

/-- The names of the grammar. -/
inductive NamePart : String → BaseNote → Prop where
  | sa : NamePart "SA" .sa
  | re : NamePart "RE" .re
  | ga : NamePart "GA" .ga
  | ma : NamePart "MA" .ma
  | pa : NamePart "PA" .pa
  | dha : NamePart "DHA" .dha
  | ni : NamePart "NI" .ni

/-- The modifier suffixes of the grammar. -/
inductive SuffixPart : String → Modifier → Prop where
  | shuddha : SuffixPart "" .shuddha
  | komal : SuffixPart "_k" .komal
  | tivra : SuffixPart "_t" .tivra

theorem namePart_iff {name : String} {base : BaseNote} : NamePart name base ↔ name = base.name := by
  constructor
  · intro h
    cases h <;> rfl
  · rintro rfl
    cases base <;> constructor

theorem suffixPart_iff {suffix : String} {modifier : Modifier} :
    SuffixPart suffix modifier ↔ suffix = modifier.suffix := by
  constructor
  · intro h
    cases h <;> rfl
  · rintro rfl
    cases modifier <;> constructor

/-- **The grammar of tokens.** A text is read as a swara exactly when it is a name, a suffix
that the note admits and an octave part of value at most three, each of any spelling the grammar
allows; the swara is the one that these parts say. -/
theorem parse_accepts_grammar (text : String) (s : Swara) :
    parse text = .ok s ↔
      ∃ (name suffix octave : String) (base : BaseNote) (modifier : Modifier) (value : Int),
        text = name ++ suffix ++ octave ∧
        NamePart name base ∧ SuffixPart suffix modifier ∧ OctavePart octave.toList value ∧
        modifier ∈ base.legalModifiers ∧ value.natAbs ≤ 3 ∧
        s.base = base ∧ s.modifier = modifier ∧ s.octave = value := by
  rw [parse_eq_ok_iff]
  constructor
  · rintro ⟨octave, htext, hpart⟩
    have hvalue : s.octave.natAbs ≤ 3 := by
      have hge := s.octave_ge
      have hle := s.octave_le
      omega
    refine ⟨s.base.name, s.modifier.suffix, String.ofList octave, s.base, s.modifier, s.octave,
      ?_, namePart_iff.mpr rfl, suffixPart_iff.mpr rfl, ?_, s.modifier_legal, hvalue, rfl, rfl, rfl⟩
    · apply String.toList_injective
      simp only [String.toList_append, String.toList_ofList, List.append_assoc, htext]
    · rwa [String.toList_ofList]
  · rintro ⟨name, suffix, octave, base, modifier, value, rfl, hname, hsuffix, hpart, -, -,
      rfl, rfl, rfl⟩
    rw [namePart_iff.mp hname, suffixPart_iff.mp hsuffix]
    refine ⟨octave.toList, ?_, hpart⟩
    simp only [String.toList_append, List.append_assoc]

end Sargam.Token
