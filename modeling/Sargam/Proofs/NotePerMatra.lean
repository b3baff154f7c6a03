import Sargam.Proofs.Editing
import Sargam.Proofs.Rejections
import Sargam.Proofs.WellFormed

/-!
# One note for each matra

There are three ways to put one note on each matra from the first one on: to fill a line with a
text, to empty the line and type each word into its cell, and to spread a text with no more words
than there are matras. Each reads the words in a way of its own. Filling looks for sustain signs
and reads all words before it touches a cell, typing takes the blanks off each word and reads it
as a sequence, and spreading reads a sequence first and then divides it. They agree, since a
sequence of one word is read like the word, and no more notes than matras are spread one to each.

* `CellContent.parse_of_isWord`: what is typed as one word is read as that word of a line.
* `Grid.typeFrom`, `Grid.retype`: typing word after word into the cells.
* `Grid.typeFrom_eq_ok_iff`, `Grid.fill_eq_ok_iff_retype`: what typing makes of a grid, and that
  filling makes the same of it.
* `Grid.assign_distribute`, `Grid.apply_fill_eq_apply_distribute`: no more notes than matras are
  spread one to each, and so as they are filled in.
* `one_note_per_matra`: the three ways agree on every reachable grid.
-/

namespace Sargam

open Text

/-! ## Words typed alone -/

namespace CellContent

/-- One word typed into a cell is read as it is read in a line, where it would be the first. -/
theorem parse_of_isWord {word : String} (h : IsWord word) :
    parse word = (ofWord word).mapError fun fault => [⟨1, word, fault⟩] := by
  unfold parse ofWord
  rw [trim_of_isWord h]
  by_cases hsign : word = sustainSign
  · simp only [hsign, if_true]
    rfl
  · simp only [hsign, if_false]
    rw [parseSequence, words_of_isWord h]
    cases hread : Token.parse word with
    | error fault => simp [readAll, rejections, hread, Except.map, Except.mapError]
    | ok s => simp [readAll, rejections, accepted, hread, Except.map, Except.mapError,
        Except.toOption, ofSwaras]

theorem normalize_of_proper {content : CellContent} (h : content.Proper) :
    content.normalize = content := by
  cases content with
  | empty => rfl
  | sustain => rfl
  | swaras group =>
    obtain ⟨s, rest, rfl⟩ := List.exists_cons_of_ne_nil fun hnil => h (congrArg swaras hnil)
    rfl

end CellContent

/-! ## Typing word after word -/

namespace Grid

/-- Types words into the cells from a position on, one into each. -/
def typeFrom (position : Nat) : List String → Editing InputFault Grid Unit
  | [] => pure ()
  | word :: rest => do
    perform (.setText position word)
    typeFrom (position + 1) rest

/-- Empties a grid and types words into its cells from matra 1 on. -/
def retype (words : List String) : Editing InputFault Grid Unit := do
  perform .clear
  typeFrom 1 words

theorem perform_eq_ok_iff {edit : Edit} {g edited : Grid} :
    perform edit g = .ok () edited ↔ g.apply edit = .ok edited := by
  rw [perform_eq, Editing.allOrNothing_eq_ok_iff]

theorem setText_eq_ok_iff {g typed : Grid} {position : Nat} {word : String} (h : IsWord word) :
    g.setText position word = .ok typed ↔ g.HasPosition position ∧
      ∃ content, CellContent.ofWord word = .ok content ∧
        typed = { g with cells := g.cells.set (position - 1) content } := by
  unfold setText
  by_cases hposition : g.HasPosition position
  · rw [if_pos hposition, CellContent.parse_of_isWord h]
    cases hread : CellContent.ofWord word with
    | error fault => simp [Except.mapError]
    | ok content =>
      have hkept := CellContent.normalize_of_proper (CellContent.proper_ofWord hread)
      simp [Except.mapError, setCell, hposition, hkept, eq_comm]
  · simp [hposition]

variable {t : Taal} {before after : List CellContent} {typed : Grid}

theorem perform_setText_eq_ok_iff {word : String} (h : IsWord word) :
    perform (.setText (before.length + 1) word) ⟨t, before ++ after⟩ = .ok () typed ↔
      ∃ content old rest, CellContent.ofWord word = .ok content ∧ after = old :: rest ∧
        typed = ⟨t, before ++ [content] ++ rest⟩ := by
  rw [perform_eq_ok_iff, apply, setText_eq_ok_iff h]
  constructor
  · rintro ⟨hposition, content, hread, rfl⟩
    cases after with
    | nil =>
      have hle : before.length + 1 ≤ (before ++ []).length := hposition.2
      rw [List.append_nil] at hle
      exact absurd hle (Nat.not_succ_le_self _)
    | cons old rest => exact ⟨content, old, rest, hread, rfl, by simp⟩
  · rintro ⟨content, old, rest, hread, rfl, rfl⟩
    exact ⟨⟨Nat.le_add_left 1 _, by simp⟩, content, hread, by simp⟩

/-- Words typed from a position on are accepted when each of them is read and there is a cell for
each. -/
theorem typeFrom_eq_ok_iff {words : List String} (h : ∀ word ∈ words, IsWord word) :
    typeFrom (before.length + 1) words ⟨t, before ++ after⟩ = .ok () typed ↔
      ∃ contents, words.map CellContent.ofWord = contents.map .ok ∧
        contents.length ≤ after.length ∧
        typed = ⟨t, before ++ (contents ++ after.drop contents.length)⟩ := by
  -- A typed word joins the cells before the next position, which no later word touches.
  induction words generalizing before after with
  | nil =>
    constructor
    · intro htyped
      cases htyped
      exact ⟨[], rfl, Nat.zero_le _, rfl⟩
    · rintro ⟨contents, hread, -, rfl⟩
      obtain rfl : contents = [] := by simpa using hread.symm
      rfl
  | cons word words ih =>
    obtain ⟨hword, hwords⟩ := List.forall_mem_cons.mp h
    have hlength : ∀ content, before.length + 1 + 1 = (before ++ [content]).length + 1 := by
      simp
    rw [typeFrom, Editing.bind_eq_ok_iff]
    constructor
    · rintro ⟨⟨⟩, between, hfirst, hothers⟩
      obtain ⟨content, old, rest, hread, rfl, rfl⟩ := (perform_setText_eq_ok_iff hword).mp hfirst
      rw [hlength content, ih hwords] at hothers
      obtain ⟨contents, hreads, hle, rfl⟩ := hothers
      refine ⟨content :: contents, ?_, Nat.succ_le_succ hle, by simp⟩
      rw [List.map_cons, hread, hreads, List.map_cons]
    · rintro ⟨contents, hreads, hle, rfl⟩
      obtain ⟨content, others, rfl, hread, hothers⟩ := List.map_eq_cons_iff.mp hreads.symm
      obtain ⟨old, rest, rfl⟩ :=
        List.exists_cons_of_length_pos (Nat.lt_of_lt_of_le (Nat.succ_pos _) hle)
      refine ⟨(), _, (perform_setText_eq_ok_iff hword).mpr
        ⟨content, old, rest, hread.symm, rfl, rfl⟩, ?_⟩
      rw [hlength content, ih hwords]
      exact ⟨others, hothers.symm, Nat.le_of_succ_le_succ hle, by simp⟩

/-! ## Filling -/

theorem readCells_eq_ok_iff {total : Nat} {text : String} {contents : List CellContent} :
    readCells total text = .ok contents ↔
      (words text).map CellContent.ofWord = contents.map .ok ∧ contents.length ≤ total := by
  have hlength : (words text).map CellContent.ofWord = contents.map .ok →
      (words text).length = contents.length := by
    intro hread
    simpa using congrArg List.length hread
  unfold readCells
  dsimp only
  by_cases hfull : total < (words text).length
  · rw [if_pos hfull]
    refine iff_of_false (by simp) ?_
    rintro ⟨hread, hle⟩
    have hwords := hlength hread
    omega
  · rw [if_neg hfull, Except.mapError_eq_ok_iff, readAll_eq_ok_iff]
    constructor
    · intro hread
      have hwords := hlength hread
      exact ⟨hread, by omega⟩
    · exact And.left

theorem assign_of_length_le {g : Grid} {contents : List CellContent}
    (h : contents.length ≤ g.cells.length) :
    g.assign contents =
      { g with cells := contents ++ List.replicate (g.cells.length - contents.length) .empty } := by
  rw [assign, List.take_of_length_le h]

/-- To fill a line with a text and to type its words into the empty line is the same. -/
theorem fill_eq_ok_iff_retype (g : Grid) (text : String) (filled : Grid) :
    perform (.fill text) g = .ok () filled ↔ retype (words text) g = .ok () filled := by
  have hclear : retype (words text) g = typeFrom (([] : List CellContent).length + 1) (words text)
      ⟨g.taal, [] ++ List.replicate g.cells.length .empty⟩ := by
    rw [List.nil_append, ← List.map_const']
    rfl
  rw [perform_eq_ok_iff, apply, fill, Except.map_eq_ok_iff, hclear,
    typeFrom_eq_ok_iff fun word => isWord_of_mem_words]
  simp only [readCells_eq_ok_iff, List.length_replicate, List.drop_replicate, List.nil_append]
  constructor
  · rintro ⟨contents, ⟨hread, hle⟩, rfl⟩
    exact ⟨contents, hread, hle, assign_of_length_le hle⟩
  · rintro ⟨contents, hread, hle, rfl⟩
    exact ⟨contents, ⟨hread, hle⟩, assign_of_length_le hle⟩

/-! ## Spreading -/

theorem assign_append_replicate {g : Grid} {contents : List CellContent}
    (h : contents.length ≤ g.cells.length) :
    g.assign (contents ++ List.replicate (g.cells.length - contents.length) .empty) =
      g.assign contents := by
  have hfull : contents.length + (g.cells.length - contents.length) = g.cells.length := by omega
  have hlength : (contents ++ List.replicate (g.cells.length - contents.length)
      CellContent.empty).length = g.cells.length := by
    rw [List.length_append, List.length_replicate, hfull]
  rw [assign_of_length_le (Nat.le_of_eq hlength), hlength, Nat.sub_self, List.replicate_zero,
    List.append_nil, assign_of_length_le h]

theorem assign_distribute {g : Grid} {swaras : List Swara} (h : swaras.length ≤ g.cells.length) :
    g.assign ((Sargam.distribute swaras g.cells.length).map CellContent.ofSwaras) =
      g.assign (swaras.map fun s => .swaras [s]) := by
  have hspread : (Sargam.distribute swaras g.cells.length).map CellContent.ofSwaras =
      (swaras.map fun s => .swaras [s]) ++
        List.replicate (g.cells.length - swaras.length) .empty := by
    rw [Sargam.distribute, if_pos h, List.map_append, List.map_map, List.map_replicate]
    rfl
  have hsingle : (swaras.map fun s => CellContent.swaras [s]).length ≤ g.cells.length := by
    rwa [List.length_map]
  have hassign := assign_append_replicate hsingle
  rwa [List.length_map, ← hspread] at hassign

/-- A text of notes alone, no more of them than there are matras, fills a line as it is spread over
it, and is refused in the same way. -/
theorem apply_fill_eq_apply_distribute {g : Grid} {text : String}
    (hfit : (words text).length ≤ g.cells.length)
    (hnotes : CellContent.sustainSign ∉ words text) :
    g.apply (.fill text) = g.apply (.distribute text) := by
  have hread : readAll CellContent.ofWord (words text) =
      (parseSequence text).map (List.map fun s => .swaras [s]) := by
    refine readAll_eq_of_map fun word hword => if_neg ?_
    rintro rfl
    exact hnotes hword
  simp only [apply, fill, distribute, readCells, if_neg (Nat.not_lt.mpr hfit), hread]
  cases hparse : parseSequence text with
  | error refused => rfl
  | ok swaras =>
    have hlength : (words text).length = swaras.length := by
      simpa using congrArg List.length (readAll_eq_ok_iff.mp hparse)
    exact congrArg Except.ok (assign_distribute (hlength ▸ hfit)).symm

end Grid

/-- **The ways to put one note on each matra agree.** Whatever has been done to a grid of a taal: to
fill it with a text makes of it what it makes to empty it and type word after word into its cells,
and neither succeeds without the other. A text of notes alone, no more of them than there are
matras, fills the grid as it is spread over it, or both are refused with the same report, and the
grid stays as it is. -/
theorem one_note_per_matra (t : Taal) (edits : List Grid.Edit) (text : String) :
    let g := (Grid.new t).run edits
    (∀ filled, Grid.perform (.fill text) g = .ok () filled ↔
      Grid.retype (words text) g = .ok () filled) ∧
    ((words text).length ≤ t.totalMatras → CellContent.sustainSign ∉ words text →
      (∃ swaras filled, parseSequence text = .ok swaras ∧
        Grid.perform (.fill text) g = .ok () filled ∧
        Grid.perform (.distribute text) g = .ok () filled) ∨
      (∃ refused, parseSequence text = .error refused ∧
        Grid.perform (.fill text) g = .error (.tokens refused) g ∧
        Grid.perform (.distribute text) g = .error (.tokens refused) g)) := by
  intro g
  have hg : g.WellFormed t := Grid.wellFormed_run (Grid.wellFormed_new t) edits
  refine ⟨fun filled => Grid.fill_eq_ok_iff_retype g text filled, fun hfit hnotes => ?_⟩
  rw [← hg.length_cells] at hfit
  simp only [Grid.perform_eq, Editing.allOrNothing,
    Grid.apply_fill_eq_apply_distribute hfit hnotes]
  cases hparse : parseSequence text with
  | error refused =>
    right
    refine ⟨refused, rfl, ?_⟩
    simp only [Grid.apply, Grid.distribute, hparse]
    exact ⟨rfl, rfl⟩
  | ok swaras =>
    left
    refine ⟨swaras, g.assign ((Sargam.distribute swaras g.cells.length).map CellContent.ofSwaras),
      rfl, ?_⟩
    simp only [Grid.apply, Grid.distribute, hparse]
    exact ⟨rfl, rfl⟩

/-- A text with as many notes as dadra has matras, for a line that holds other notes, and a text
with two words that are no notes. -/
theorem one_note_per_matra_dadra :
    let g := (Grid.new Taal.dadra).run [.fill "NI - - PA", .setText 5 "SA RE"]
    let typed := (Grid.new Taal.dadra).run [.setText 1 "SA", .setText 2 "RE_k", .setText 3 "GA",
      .setText 4 "MA_t+1", .setText 5 "PA", .setText 6 "DHA-2"]
    let text := "SA RE_k\u2003GA MA_t+1 PA\tDHA-2"
    let bad := "SA PA_k XX"
    (((words text).length ≤ Taal.dadra.totalMatras ∧ CellContent.sustainSign ∉ words text) ∧
      Grid.retype (words text) g = .ok () typed ∧
      Grid.perform (.fill text) g = .ok () typed ∧
      Grid.perform (.distribute text) g = .ok () typed) ∧
    (((words bad).length ≤ Taal.dadra.totalMatras ∧ CellContent.sustainSign ∉ words bad) ∧
      ∃ refused, parseSequence bad = .error refused ∧ refused.length = 2 ∧
        Grid.perform (.fill bad) g = .error (.tokens refused) g ∧
        Grid.perform (.distribute bad) g = .error (.tokens refused) g) := by
  intro g typed text bad
  have htext : (words text).length ≤ Taal.dadra.totalMatras ∧
      CellContent.sustainSign ∉ words text := by decide +kernel
  have hbad : (words bad).length ≤ Taal.dadra.totalMatras ∧
      CellContent.sustainSign ∉ words bad := by decide +kernel
  have hread : parseSequence bad = .error [⟨2, "PA_k", .unlawful (.illegalModifier .pa .komal)⟩,
      ⟨3, "XX", .unknownNote "XX"⟩] := by decide +kernel
  have hretype : Grid.retype (words text) g = .ok () typed := by decide +kernel
  obtain ⟨htyped, hagree⟩ := one_note_per_matra Taal.dadra
    [.fill "NI - - PA", .setText 5 "SA RE"] text
  have hfill := (htyped typed).mpr hretype
  refine ⟨⟨htext, hretype, hfill, ?_⟩, hbad, ?_⟩
  · rcases hagree htext.1 htext.2 with ⟨-, filled, -, hfilled, hspread⟩ | ⟨refused, -, hrefused, -⟩
    · have hsame : filled = typed := (EStateM.Result.ok.inj (hfilled.symm.trans hfill)).2
      rwa [hsame] at hspread
    · exact absurd (hfill.symm.trans hrefused) (by simp)
  · rcases (one_note_per_matra Taal.dadra [.fill "NI - - PA", .setText 5 "SA RE"] bad).2
      hbad.1 hbad.2 with ⟨swaras, -, hswaras, -⟩ | ⟨refused, hrefused, hboth⟩
    · cases hread.symm.trans hswaras
    · obtain rfl := Except.error.inj (hread.symm.trans hrefused)
      exact ⟨_, hread, rfl, hboth⟩

end Sargam
