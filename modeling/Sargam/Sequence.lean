import Sargam.Swara.Token
import Sargam.Text.Blank

/-!
# Sequences of tokens

Typed music is a sequence of words, each to be read as a token. Reading is all or nothing:
either every word is read, or each word that cannot be is reported with its place.

* `Rejection`: a word that could not be read.
* `readAll`: a list of words read by a given reader.
* `parseSequence`: the swaras of a text.
* `readAll_eq_ok_iff`: a list of words is read exactly when each of its words is.
-/

namespace Sargam

/-! ## Rejections -/

/-- A word that stands for nothing, its place among the words of its text (from 1), and why. -/
structure Rejection where
  position : Nat
  token : String
  fault : Token.Fault
  deriving DecidableEq, Repr

namespace Rejection

/-- The wording of one rejection. -/
def message (r : Rejection) : String := s!"token {r.position} '{r.token}': {r.fault.message}"

/-- The wording of all rejections of one text, a line for each after their number. -/
def summary (rejections : List Rejection) : String :=
  s!"{rejections.length} invalid token(s)"
    ++ String.join (rejections.map fun r => "\n  " ++ r.message)

end Rejection

/-! ## Reading words -/

variable {α : Type}

/-- The words that a reader refuses, where the first word has the place `first`. -/
def rejections (read : String → Except Token.Fault α) (first : Nat) :
    List String → List Rejection
  | [] => []
  | token :: rest =>
    match read token with
    | .error fault => ⟨first, token, fault⟩ :: rejections read (first + 1) rest
    | .ok _ => rejections read (first + 1) rest

/-- What a reader makes of the words that it accepts. -/
def accepted (read : String → Except Token.Fault α) (tokens : List String) : List α :=
  tokens.filterMap fun token => (read token).toOption

/-- What a reader makes of all words, or all rejections if there are any. -/
def readAll (read : String → Except Token.Fault α) (tokens : List String) :
    Except (List Rejection) (List α) :=
  match rejections read 1 tokens with
  | [] => .ok (accepted read tokens)
  | refused => .error refused

/-- The swaras of a text. -/
def parseSequence (text : String) : Except (List Rejection) (List Swara) :=
  readAll Token.parse (Text.words text)

/-! ## What readers accept -/

/-- The rejections of joined lists: those of the second are counted on from the first. -/
theorem rejections_append (read : String → Except Token.Fault α) (first : Nat)
    (tokens more : List String) :
    rejections read first (tokens ++ more) =
      rejections read first tokens ++ rejections read (first + tokens.length) more := by
  induction tokens generalizing first with
  | nil => simp [rejections]
  | cons token rest ih =>
    have harith : first + (rest.length + 1) = first + 1 + rest.length := by omega
    cases h : read token with
    | error fault => simp [rejections, h, ih, harith]
    | ok a => simp [rejections, h, ih, harith]

/-- Nothing is refused exactly when each word is accepted. -/
theorem rejections_eq_nil_iff {read : String → Except Token.Fault α} {first : Nat}
    {tokens : List String} :
    rejections read first tokens = [] ↔ ∀ token ∈ tokens, ∃ a, read token = .ok a := by
  induction tokens generalizing first with
  | nil => simp [rejections]
  | cons token rest ih =>
    cases h : read token with
    | error fault => simp [rejections, h]
    | ok a => simp [rejections, h, ih]

/-- A list of words is read exactly when each word is, and then in order. -/
theorem readAll_eq_ok_iff {read : String → Except Token.Fault α} {tokens : List String}
    {as : List α} : readAll read tokens = .ok as ↔ tokens.map read = as.map .ok := by
  unfold readAll
  constructor
  · intro h
    split at h
    · rename_i hnil
      cases h
      have hall := rejections_eq_nil_iff.mp hnil
      clear hnil
      induction tokens with
      | nil => rfl
      | cons token rest ih =>
        obtain ⟨a, ha⟩ := hall token List.mem_cons_self
        have hrest := ih fun t ht => hall t (List.mem_cons_of_mem _ ht)
        simp only [accepted] at hrest
        simp [accepted, ha, hrest, Except.toOption]
    · cases h
  · intro h
    have hall : ∀ token ∈ tokens, ∃ a, read token = .ok a := by
      intro token ht
      have hmem : read token ∈ as.map (Except.ok (ε := Token.Fault)) :=
        h ▸ List.mem_map_of_mem ht
      obtain ⟨a, -, ha⟩ := List.mem_map.mp hmem
      exact ⟨a, ha.symm⟩
    rw [rejections_eq_nil_iff.mpr hall]
    have hoption := congrArg (List.filterMap Except.toOption) h
    simpa [accepted, List.filterMap_map, Function.comp_def, Except.toOption] using hoption

end Sargam
