import Mathlib.Control.Monad.Basic
import Sargam.Proofs.Spacing
import Sargam.Sequence

/-!
# Reports of rejected words

A text is read as a whole or not at all. If a word of it cannot be read, the report names
each such word with its place and its fault and names no other. So what is read from two
texts with blanks between them, or reported of them, can be said from the two alone: the places
of the second are counted on from the number of words of the first.

* `mem_rejections_iff`, `pairwise_rejections`: what is reported, and in which order.
* `readAll_eq_error_iff`, `exists_readAll_eq_ok_iff`: when there is a report and when a reading.
* `readAll_append_of_ok`, `readAll_append_of_not_ok`: joined lists of words.
* `parseSequence_whole_or_report`: all of this for the swaras of a text.
-/

namespace Sargam

/-- The same rejection where `count` further words stand before the text. -/
def Rejection.after (count : Nat) (r : Rejection) : Rejection :=
  { r with position := count + r.position }

variable {α : Type}

/-- The rejections in an outcome; there are none in a success. -/
def reported : Except (List Rejection) α → List Rejection
  | .ok _ => []
  | .error refused => refused

variable {read : String → Except Token.Fault α}

/-! ## What is reported -/

theorem mem_rejections_iff {first : Nat} {tokens : List String} {r : Rejection} :
    r ∈ rejections read first tokens ↔
      ∃ index, tokens[index]? = some r.token ∧ r.position = first + index ∧
        read r.token = .error r.fault := by
  induction tokens generalizing first with
  | nil => simp [rejections]
  | cons token rest ih =>
    -- The first word has index 0, and each other word one more than in the rest.
    have hsplit : (∃ index, (token :: rest)[index]? = some r.token ∧
          r.position = first + index ∧ read r.token = .error r.fault) ↔
        (token = r.token ∧ r.position = first ∧ read r.token = .error r.fault) ∨
          r ∈ rejections read (first + 1) rest := by
      rw [ih]
      constructor
      · rintro ⟨index, htoken, hposition, hfault⟩
        cases index with
        | zero => exact .inl ⟨Option.some.inj htoken, hposition, hfault⟩
        | succ index => exact .inr ⟨index, htoken, by omega, hfault⟩
      · rintro (⟨rfl, hposition, hfault⟩ | ⟨index, htoken, hposition, hfault⟩)
        · exact ⟨0, rfl, hposition, hfault⟩
        · exact ⟨index + 1, htoken, by omega, hfault⟩
    rw [hsplit]
    cases hread : read token with
    | error fault =>
      have hfirst : r = ⟨first, token, fault⟩ ↔
          token = r.token ∧ r.position = first ∧ read r.token = .error r.fault := by
        constructor
        · rintro rfl
          exact ⟨rfl, rfl, hread⟩
        · rintro ⟨rfl, rfl, hfault⟩
          rw [hread] at hfault
          cases hfault
          rfl
      rw [rejections, hread, List.mem_cons, hfirst]
    | ok a =>
      have hfirst : ¬(token = r.token ∧ r.position = first ∧ read r.token = .error r.fault) := by
        rintro ⟨rfl, -, hfault⟩
        rw [hread] at hfault
        cases hfault
      rw [rejections, hread, or_iff_right hfirst]

theorem pairwise_rejections (first : Nat) (tokens : List String) :
    (rejections read first tokens).Pairwise (fun a b => a.position < b.position) := by
  induction tokens generalizing first with
  | nil => exact List.Pairwise.nil
  | cons token rest ih =>
    cases hread : read token with
    | error fault =>
      rw [rejections, hread]
      refine List.Pairwise.cons (fun r hr => ?_) (ih (first + 1))
      obtain ⟨index, -, hposition, -⟩ := mem_rejections_iff.mp hr
      dsimp only
      omega
    | ok a =>
      rw [rejections, hread]
      exact ih (first + 1)

theorem rejections_add (count first : Nat) (tokens : List String) :
    rejections read (count + first) tokens =
      (rejections read first tokens).map (Rejection.after count) := by
  induction tokens generalizing first with
  | nil => rfl
  | cons token rest ih =>
    have hrest := ih (first + 1)
    rw [← Nat.add_assoc] at hrest
    cases hread : read token with
    | error fault =>
      simp only [rejections, hread, hrest, List.map_cons]
      rfl
    | ok a => simp only [rejections, hread, hrest]

/-! ## Outcomes -/

theorem readAll_eq_error_iff {tokens : List String} {refused : List Rejection} :
    readAll read tokens = .error refused ↔ refused ≠ [] ∧ rejections read 1 tokens = refused := by
  unfold readAll
  split
  · rename_i hnil
    constructor
    · intro h
      cases h
    · rintro ⟨hne, rfl⟩
      exact absurd hnil hne
  · rename_i hne
    constructor
    · intro h
      cases h
      exact ⟨hne, rfl⟩
    · rintro ⟨-, rfl⟩
      rfl

/-- If a word is refused, so is the list, with a report on each refused word. -/
theorem exists_report {tokens : List String} (h : ¬∀ token ∈ tokens, ∃ a, read token = .ok a) :
    ∃ refused, readAll read tokens = .error refused ∧ refused ≠ [] ∧
      refused.Pairwise (fun a b => a.position < b.position) ∧
      ∀ r, r ∈ refused ↔ ∃ index, tokens[index]? = some r.token ∧ r.position = index + 1 ∧
        read r.token = .error r.fault := by
  have hrejected : rejections read 1 tokens ≠ [] := fun hnil => h (rejections_eq_nil_iff.mp hnil)
  refine ⟨_, readAll_eq_error_iff.mpr ⟨hrejected, rfl⟩, hrejected, pairwise_rejections 1 _,
    fun r => ?_⟩
  rw [mem_rejections_iff]
  simp only [Nat.add_comm 1]

theorem exists_readAll_eq_ok_iff {tokens : List String} :
    (∃ as, readAll read tokens = .ok as) ↔ rejections read 1 tokens = [] := by
  cases h : readAll read tokens with
  | error refused =>
    obtain ⟨hne, hrefused⟩ := readAll_eq_error_iff.mp h
    simp [hrefused, hne]
  | ok as =>
    have hnil : rejections read 1 tokens = [] := by
      by_contra hne
      rw [readAll_eq_error_iff.mpr ⟨hne, rfl⟩] at h
      cases h
    simp [hnil]

theorem reported_readAll (tokens : List String) :
    reported (readAll read tokens) = rejections read 1 tokens := by
  cases h : readAll read tokens with
  | error refused => exact (readAll_eq_error_iff.mp h).2.symm
  | ok as => exact (exists_readAll_eq_ok_iff.mp ⟨as, h⟩).symm

/-! ## Readers that agree -/

section Agreement

variable {β : Type} {f : α → β} {other : String → Except Token.Fault β}

theorem rejections_eq_of_map {first : Nat} {tokens : List String}
    (h : ∀ token ∈ tokens, other token = (read token).map f) :
    rejections other first tokens = rejections read first tokens := by
  induction tokens generalizing first with
  | nil => rfl
  | cons token rest ih =>
    obtain ⟨htoken, hrest⟩ := List.forall_mem_cons.mp h
    rw [rejections, rejections, htoken, ih hrest]
    cases read token with
    | error fault => rfl
    | ok a => rfl

/-- Readers that refuse the same words for the same reasons report the same, and what they read
differs only in what is made of each word. -/
theorem readAll_eq_of_map {tokens : List String}
    (h : ∀ token ∈ tokens, other token = (read token).map f) :
    readAll other tokens = (readAll read tokens).map (List.map f) := by
  cases hread : readAll read tokens with
  | error refused =>
    obtain ⟨hne, hrefused⟩ := readAll_eq_error_iff.mp hread
    exact readAll_eq_error_iff.mpr ⟨hne, (rejections_eq_of_map h).trans hrefused⟩
  | ok as =>
    have hmapped := congrArg (List.map (Except.map f)) (readAll_eq_ok_iff.mp hread)
    rw [List.map_map, List.map_map] at hmapped
    refine readAll_eq_ok_iff.mpr ((List.map_congr_left h).trans (hmapped.trans ?_))
    rw [List.map_map]
    rfl

end Agreement

/-! ## Joined lists of words -/

theorem readAll_append_of_ok {tokens more : List String} {as bs : List α}
    (ha : readAll read tokens = .ok as) (hb : readAll read more = .ok bs) :
    readAll read (tokens ++ more) = .ok (as ++ bs) := by
  rw [readAll_eq_ok_iff] at ha hb ⊢
  rw [List.map_append, List.map_append, ha, hb]

/-- The rejections of joined lists are those of both, the second counted on from the first. -/
theorem rejections_append_after (tokens more : List String) :
    rejections read 1 (tokens ++ more) = reported (readAll read tokens) ++
      (reported (readAll read more)).map (Rejection.after tokens.length) := by
  rw [rejections_append, reported_readAll, reported_readAll, Nat.add_comm, rejections_add]

theorem readAll_append_of_not_ok {tokens more : List String}
    (h : (∀ as, readAll read tokens ≠ .ok as) ∨ (∀ bs, readAll read more ≠ .ok bs)) :
    readAll read (tokens ++ more) = .error (reported (readAll read tokens) ++
      (reported (readAll read more)).map (Rejection.after tokens.length)) := by
  refine readAll_eq_error_iff.mpr ⟨fun hnil => ?_, rejections_append_after tokens more⟩
  obtain ⟨ha, hb⟩ := List.append_eq_nil_iff.mp hnil
  rw [reported_readAll] at ha
  rw [List.map_eq_nil_iff, reported_readAll] at hb
  obtain ⟨as, has⟩ := exists_readAll_eq_ok_iff.mpr ha
  obtain ⟨bs, hbs⟩ := exists_readAll_eq_ok_iff.mpr hb
  rcases h with h | h
  · exact h as has
  · exact h bs hbs

/-! ## Texts -/

/-- **Whole or reported.** A text is read when each of its words is, and then as the swaras of
its words in order. Otherwise the report is not empty, its places rise, and it holds the
rejection of a word exactly when that word is refused. Blanks between two texts join what is
read from them, or what is reported of them with the places of the second counted on. -/
theorem parseSequence_whole_or_report :
    (∀ (text : String) (swaras : List Swara), parseSequence text = .ok swaras ↔
      (Text.words text).map Token.parse = swaras.map .ok) ∧
    (∀ text : String, (∃ swaras, parseSequence text = .ok swaras) ↔
      ∀ token ∈ Text.words text, ∃ s, Token.parse token = .ok s) ∧
    (∀ text : String, (¬∀ token ∈ Text.words text, ∃ s, Token.parse token = .ok s) →
      ∃ refused, parseSequence text = .error refused ∧ refused ≠ [] ∧
        refused.Pairwise (fun a b => a.position < b.position) ∧
        ∀ r, r ∈ refused ↔ ∃ index, (Text.words text)[index]? = some r.token ∧
          r.position = index + 1 ∧ Token.parse r.token = .error r.fault) ∧
    (∀ before gap after : String, Text.IsGap gap → gap ≠ "" →
      (∀ as bs, parseSequence before = .ok as → parseSequence after = .ok bs →
        parseSequence (before ++ gap ++ after) = .ok (as ++ bs)) ∧
      ((∀ as, parseSequence before ≠ .ok as) ∨ (∀ bs, parseSequence after ≠ .ok bs) →
        parseSequence (before ++ gap ++ after) = .error (reported (parseSequence before) ++
          (reported (parseSequence after)).map
            (Rejection.after (Text.words before).length)))) := by
  have hread : ∀ text : String, (∃ swaras, parseSequence text = .ok swaras) ↔
      ∀ token ∈ Text.words text, ∃ s, Token.parse token = .ok s :=
    fun text => exists_readAll_eq_ok_iff.trans rejections_eq_nil_iff
  refine ⟨fun text swaras => readAll_eq_ok_iff, hread, fun text hfails => ?_,
    fun before gap after hgap hne => ?_⟩
  · exact exists_report hfails
  · have hjoined : parseSequence (before ++ gap ++ after) =
        readAll Token.parse (Text.words before ++ Text.words after) := by
      rw [parseSequence, Text.words_append_gap_append hgap hne]
    rw [hjoined]
    exact ⟨fun as bs => readAll_append_of_ok, readAll_append_of_not_ok⟩

/-- Two bad words in each of two texts, with an em space and a line end between the texts. -/
theorem parseSequence_reports_four :
    let before := "XX SA PA_k"
    let gap := "\u2003\n"
    let after := " MA+7 RE_k- GA"
    (Text.IsGap gap ∧ gap ≠ "") ∧
    (¬∀ token ∈ Text.words before, ∃ s, Token.parse token = .ok s) ∧
    (∃ refused, parseSequence before = .error refused ∧ refused ≠ []) ∧
    parseSequence (before ++ gap ++ after) = .error [⟨1, "XX", .unknownNote "XX"⟩,
      ⟨3, "PA_k", .unlawful (.illegalModifier .pa .komal)⟩,
      ⟨4, "MA+7", .unlawful (.octaveOutOfRange 7)⟩,
      ⟨5, "RE_k-", .malformed (.octaveSuffix "-")⟩] := by
  intro before gap after
  have hbefore : parseSequence before = .error [⟨1, "XX", .unknownNote "XX"⟩,
      ⟨3, "PA_k", .unlawful (.illegalModifier .pa .komal)⟩] := by decide +kernel
  have hafter : parseSequence after = .error [⟨1, "MA+7", .unlawful (.octaveOutOfRange 7)⟩,
      ⟨2, "RE_k-", .malformed (.octaveSuffix "-")⟩] := by decide +kernel
  have hgap : Text.IsGap gap ∧ gap ≠ "" := by decide
  have hfails : ¬∀ token ∈ Text.words before, ∃ s, Token.parse token = .ok s := by
    rw [← parseSequence_whole_or_report.2.1, hbefore]
    rintro ⟨swaras, h⟩
    cases h
  obtain ⟨refused, hrefused, hne, -⟩ := parseSequence_whole_or_report.2.2.1 before hfails
  have hjoined := (parseSequence_whole_or_report.2.2.2 before gap after hgap.1 hgap.2).2
    (.inl fun as h => by rw [hbefore] at h; cases h)
  have hwords : (Text.words before).length = 3 := by decide +kernel
  rw [hbefore, hafter, hwords] at hjoined
  exact ⟨hgap, hfails, ⟨refused, hrefused, hne⟩, hjoined⟩

end Sargam
