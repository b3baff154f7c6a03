import Mathlib.Control.Monad.Basic
import Sargam.Proofs.Spacing
import Sargam.Proofs.TokenGrammar
import Sargam.Sequence

/-!
# Writing notes and reading them back

A swara is read back from its own token, and a list of swaras from its tokens, with whatever
blanks between them. So each typed sequence has one canonical text, which is read as the same
swaras and is its own canonical text.

* `octavePart_octaveSuffix`: the written octave is an octave part of that value.
* `Token.parse_token`, `Token.isWord_of_parse`: tokens are read back, and what is read is a word.
* `canonicalText`, `canonicalise`: the canonical text of swaras, and of a typed sequence.
* `writing_reads_back`: nothing is lost between writing and reading.
-/

namespace Sargam

/-! ## Single tokens -/

namespace Token

/-- The numeral of a number consists of digits, and has the number as its value. -/
theorem placeValue_repr (n : Nat) :
    n.repr.toList ≠ [] ∧ (∀ c ∈ n.repr.toList, c.isDigit = true) ∧
      placeValue n.repr.toList = n := by
  rw [Nat.toList_repr]
  refine ⟨Nat.toDigits_ne_nil, fun c hc => ?_, ?_⟩
  · exact Nat.isDigit_of_mem_toDigits (by decide) (by decide) hc
  · rw [← ofDigitChars_eq_placeValue, Nat.ofDigitChars_ten_toDigits]

/-- The written octave is an octave part of the grammar, for every octave there is. -/
theorem octavePart_octaveSuffix (octave : Int) :
    OctavePart (Swara.octaveSuffix octave).toList octave := by
  unfold Swara.octaveSuffix
  split
  · rename_i hzero
    subst hzero
    exact .middle
  · rename_i hne
    rw [Int.repr_eq_if]
    split
    · rename_i hpos
      have hvalue : (octave.toNat : Int) = octave := by omega
      obtain ⟨hnil, hdigits, hplace⟩ := placeValue_repr octave.toNat
      rw [if_pos (by omega), String.toList_append]
      have hpart := OctavePart.above hnil hdigits
      rwa [hplace, hvalue] at hpart
    · rename_i hnonpos
      have hvalue : -((-octave).toNat : Int) = octave := by omega
      obtain ⟨hnil, hdigits, hplace⟩ := placeValue_repr (-octave).toNat
      rw [if_neg (by omega), String.toList_append]
      have hpart := OctavePart.below hnil hdigits
      rwa [hplace, hvalue] at hpart

theorem parse_token (s : Swara) : parse s.token = .ok s := by
  refine parse_eq_ok_iff.mpr ⟨(Swara.octaveSuffix s.octave).toList, ?_,
    octavePart_octaveSuffix s.octave⟩
  rw [Swara.token, String.toList_append, String.toList_append, List.append_assoc]

/-! ## Tokens are words -/

/-- Whether a character can stand in a token. -/
def isTokenChar (c : Char) : Bool :=
  c.isUpper || c.isDigit || ['_', 'k', 't', '+', '-'].contains c

theorem isTokenChar_of_octavePart {cs : List Char} {octave : Int} (h : OctavePart cs octave) :
    ∀ c ∈ cs, isTokenChar c = true := by
  have hdigit : ∀ c : Char, c.isDigit = true → isTokenChar c = true := by
    intro c hc
    simp [isTokenChar, hc]
  cases h with
  | middle =>
    intro c hc
    cases hc
  | above hne hdigits =>
    exact List.forall_mem_cons.mpr ⟨rfl, fun c hc => hdigit c (hdigits c hc)⟩
  | below hne hdigits =>
    exact List.forall_mem_cons.mpr ⟨rfl, fun c hc => hdigit c (hdigits c hc)⟩

theorem isTokenChar_of_parse {text : String} {s : Swara} (h : parse text = .ok s) :
    ∀ c ∈ text.toList, isTokenChar c = true := by
  obtain ⟨octave, htext, hpart⟩ := parse_eq_ok_iff.mp h
  have hname : ∀ c ∈ s.base.name.toList, isTokenChar c = true := by
    intro c hc
    simp [isTokenChar, isUpper_of_mem_name c hc]
  have hsuffix : ∀ c ∈ s.modifier.suffix.toList, isTokenChar c = true := by
    cases s.modifier <;> simp [Modifier.suffix, isTokenChar]
  rw [htext]
  exact List.forall_mem_append.mpr
    ⟨hname, List.forall_mem_append.mpr ⟨hsuffix, isTokenChar_of_octavePart hpart⟩⟩

/-- What is read as a swara is a word: blanks around it set it off, and none divides it. -/
theorem isWord_of_parse {text : String} {s : Swara} (h : parse text = .ok s) :
    Text.IsWord text := by
  constructor
  · rintro rfl
    obtain ⟨octave, htext, -⟩ := parse_eq_ok_iff.mp h
    have hnil := (List.append_eq_nil_iff.mp htext.symm).1
    exact name_ne_nil s.base hnil
  · intro c hc
    exact Text.isBlank_eq_false (by decide) (isTokenChar_of_parse h c hc)

end Token

/-! ## Sequences -/

/-- The canonical text of swaras: their tokens, joined by single spaces. -/
def canonicalText (swaras : List Swara) : String := " ".intercalate (swaras.map Swara.token)

/-- The canonical text of a typed sequence, if it can be read. -/
def canonicalise (text : String) : Except (List Rejection) String :=
  (parseSequence text).map canonicalText

/-- The tokens of swaras are read back, whatever blanks they are laid out with. -/
theorem parseSequence_of_spaced {swaras : List Swara} {text : String}
    (h : Text.Spaced (swaras.map Swara.token) text) : parseSequence text = .ok swaras := by
  have hwords : Text.words text = swaras.map Swara.token := by
    refine Text.words_of_spaced h fun word hword => ?_
    obtain ⟨s, -, rfl⟩ := List.mem_map.mp hword
    exact Token.isWord_of_parse (Token.parse_token s)
  rw [parseSequence, hwords, readAll_eq_ok_iff, List.map_map]
  exact List.map_congr_left fun s _ => Token.parse_token s

theorem parseSequence_canonicalText (swaras : List Swara) :
    parseSequence (canonicalText swaras) = .ok swaras :=
  parseSequence_of_spaced (Text.spaced_intercalate _)

/-- **Nothing is lost between writing and reading.** The tokens of swaras are read back with any
blanks around them. The canonical text of what has been read is read in the same way, and to
canonicalise it again changes nothing. -/
theorem writing_reads_back :
    (∀ (swaras : List Swara) (text : String),
      Text.Spaced (swaras.map Swara.token) text → parseSequence text = .ok swaras) ∧
    (∀ (text : String) (swaras : List Swara), parseSequence text = .ok swaras →
      parseSequence (canonicalText swaras) = parseSequence text) ∧
    (∀ text : String, (canonicalise text).bind canonicalise = canonicalise text) := by
  refine ⟨fun swaras text h => parseSequence_of_spaced h, fun text swaras h => ?_, fun text => ?_⟩
  · rw [h, parseSequence_canonicalText]
  · rw [canonicalise]
    cases parseSequence text with
    | error rejections => rfl
    | ok swaras =>
      change canonicalise (canonicalText swaras) = .ok (canonicalText swaras)
      rw [canonicalise, parseSequence_canonicalText]
      rfl

/-- Two notes with a no-break space before them, a tab and an em space between them and a line
end after them, and the same notes with their octaves spelled at length. -/
theorem writing_reads_back_two_notes :
    let swaras : List Swara := [⟨.sa, .shuddha, 0, by decide, by decide, by decide⟩,
      ⟨.re, .komal, -3, by decide, by decide, by decide⟩]
    Text.Spaced (swaras.map Swara.token)
        ("\u00a0" ++ "SA" ++ "\t\u2003" ++ ("" ++ "RE_k-3" ++ "\n")) ∧
      parseSequence ("\u00a0" ++ "SA" ++ "\t\u2003" ++ ("" ++ "RE_k-3" ++ "\n")) = .ok swaras ∧
      parseSequence "SA-00 RE_k-0003" = .ok swaras ∧
      parseSequence (canonicalText swaras) = parseSequence "SA-00 RE_k-0003" ∧
      (canonicalise "SA-00 RE_k-0003").bind canonicalise = canonicalise "SA-00 RE_k-0003" := by
  intro swaras
  have htokens : swaras.map Swara.token = ["SA", "RE_k-3"] := by decide +kernel
  have hspaced : Text.Spaced (swaras.map Swara.token)
      ("\u00a0" ++ "SA" ++ "\t\u2003" ++ ("" ++ "RE_k-3" ++ "\n")) := by
    rw [htokens]
    exact .cons (by decide) (by decide) (by decide) (.last (by decide) (by decide))
  have hlong : parseSequence "SA-00 RE_k-0003" = .ok swaras := by decide +kernel
  exact ⟨hspaced, writing_reads_back.1 _ _ hspaced, hlong, writing_reads_back.2.1 _ _ hlong,
    writing_reads_back.2.2 _⟩

end Sargam
