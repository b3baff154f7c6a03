import Mathlib.Data.List.Basic
import Sargam.Composition
import Sargam.Proofs.RoundTrip
import Sargam.Proofs.Vibhags

/-!
# Lines of tokens

A grid is written as a line of tokens, vibhag by vibhag with bars between them. A bar stands for
no cell and no note contains one, so the vibhags can be told apart in the line and every note can
be read back from it. Without its bars the line can be filled in again; with them it has a word
too many for each.

* `CellContent.words`: the words that are written for a cell.
* `getElem?_chunks`, `flatten_chunks`: the cells of a vibhag, and of all vibhags.
* `words_intercalate_bars`, `map_words_segments`: the words of a line with bars, and of its parts.
* `readAll_words`: the words of cells with one note at most are read as these cells.
* `sequenceText_keeps_music`: what can be told from the line of a reachable grid.
-/

namespace Sargam

open Text

/-! ## Signs beside tokens -/

/-- The sign between vibhags. -/
def bar : String := "|"

namespace Token

theorem bar_not_mem_token (s : Swara) : '|' ∉ s.token.toList := by
  intro hbar
  have hchar := isTokenChar_of_parse (parse_token s) '|' hbar
  revert hchar
  decide

/-- A text that is not read as a token is not the token of any swara. -/
theorem token_ne_of_parse {text : String} {fault : Fault} (h : parse text = .error fault)
    (s : Swara) : s.token ≠ text := by
  rintro rfl
  rw [parse_token] at h
  cases h

/-- The sustain sign is read as an octave below the middle one without its number. -/
theorem parse_sustainSign :
    parse CellContent.sustainSign = .error (.malformed (.octaveSuffix "-")) := by
  decide +kernel

theorem token_ne_sustainSign (s : Swara) : s.token ≠ CellContent.sustainSign :=
  token_ne_of_parse parse_sustainSign s

theorem token_ne_bar (s : Swara) : s.token ≠ bar := by
  have hbar : parse bar = .error (.malformed (.unexpected "|")) := by decide +kernel
  exact token_ne_of_parse hbar s

end Token

/-! ## Words of cells -/

namespace CellContent

/-- The words that are written for a cell: a sustain sign, or the tokens of its swaras. -/
def words : CellContent → List String
  | .swaras group => group.map Swara.token
  | _ => [sustainSign]

/-- What holds of the sustain sign and of all tokens holds of the words of a cell. -/
theorem forall_mem_words {p : String → Prop} (hsign : p sustainSign)
    (htoken : ∀ s : Swara, p s.token) (content : CellContent) :
    ∀ word ∈ content.words, p word := by
  cases content with
  | empty => exact List.forall_mem_singleton.mpr hsign
  | sustain => exact List.forall_mem_singleton.mpr hsign
  | swaras group =>
    intro word hword
    obtain ⟨s, -, rfl⟩ := List.mem_map.mp hword
    exact htoken s

theorem isWord_sustainSign : IsWord sustainSign :=
  ⟨by decide, by simp [sustainSign, isBlank, blanks]⟩

theorem isWord_of_mem_words {content : CellContent} : ∀ word ∈ content.words, IsWord word :=
  forall_mem_words isWord_sustainSign (fun s => Token.isWord_of_parse (Token.parse_token s)) content

theorem tokens_eq (content : CellContent) : content.tokens = " ".intercalate content.words := by
  cases content with
  | empty => exact String.intercalate_singleton.symm
  | sustain => exact String.intercalate_singleton.symm
  | swaras group => rfl

theorem words_tokens (content : CellContent) : Text.words content.tokens = content.words := by
  rw [tokens_eq]
  exact words_of_spaced (spaced_intercalate _) isWord_of_mem_words

theorem bar_not_mem_words {content : CellContent} :
    ∀ word ∈ content.words, '|' ∉ word.toList :=
  forall_mem_words (by decide) Token.bar_not_mem_token content

/-- The words that are no signs are the notes of the cell. -/
theorem filter_words (content : CellContent) :
    content.words.filter (fun word => word ≠ sustainSign && word ≠ bar) =
      content.group.map Swara.token := by
  cases content with
  | empty => simp [words, group]
  | sustain => simp [words, group]
  | swaras group =>
    refine List.filter_eq_self.mpr fun word hword => ?_
    obtain ⟨s, -, rfl⟩ := List.mem_map.mp hword
    simp [Token.token_ne_sustainSign s, Token.token_ne_bar s]

theorem words_ne_nil {content : CellContent} (h : content.Proper) :
    content.words ≠ [] := by
  cases content with
  | empty => exact List.cons_ne_nil _ _
  | sustain => exact List.cons_ne_nil _ _
  | swaras group =>
    intro hnil
    exact h (congrArg CellContent.swaras (List.map_eq_nil_iff.mp hnil))

theorem length_le_length_flatMap_words {contents : List CellContent}
    (h : ∀ content ∈ contents, content.Proper) :
    contents.length ≤ (contents.flatMap words).length := by
  induction contents with
  | nil => exact Nat.le_refl _
  | cons content rest ih =>
    obtain ⟨hcontent, hrest⟩ := List.forall_mem_cons.mp h
    have hpos := List.length_pos_iff.mpr (words_ne_nil hcontent)
    have hle := ih hrest
    rw [List.flatMap_cons, List.length_append, List.length_cons]
    omega

end CellContent

/-! ## Bars -/

theorem append_bar_append (before after : String) :
    before ++ " | " ++ after = before ++ " " ++ bar ++ (" " ++ after) := by
  have hbar : " | " = " " ++ bar ++ " " := by decide
  rw [hbar]
  simp only [String.append_assoc]

theorem not_mem_toList_intercalate {separator : String} {texts : List String} {c : Char}
    (hseparator : c ∉ separator.toList) (htexts : ∀ text ∈ texts, c ∉ text.toList) :
    c ∉ (separator.intercalate texts).toList := by
  induction texts with
  | nil => simp
  | cons text rest ih =>
    obtain ⟨htext, hrest⟩ := List.forall_mem_cons.mp htexts
    cases rest with
    | nil => rwa [String.intercalate_singleton]
    | cons next rest =>
      rw [String.intercalate_cons_cons, String.toList_append, String.toList_append,
        List.mem_append, List.mem_append]
      rintro ((htext' | hseparator') | hrest')
      · exact htext htext'
      · exact hseparator hseparator'
      · exact ih hrest hrest'

theorem words_append_bar (before after : String) :
    words (before ++ " | " ++ after) = words before ++ bar :: words after := by
  have hword : words bar = [bar] := by decide +kernel
  rw [append_bar_append, ← String.append_assoc, words_append_gap_append isGap_space (by decide),
    words_append_gap_append isGap_space (by decide), hword, List.append_assoc,
    List.singleton_append]

/-- The words of texts with bars between them. -/
theorem words_intercalate_bars (texts : List String) :
    words (" | ".intercalate texts) = [bar].intercalate (texts.map words) := by
  induction texts with
  | nil => rw [String.intercalate_nil, words_empty, List.map_nil, List.intercalate_nil]
  | cons text rest ih =>
    cases rest with
    | nil => simp
    | cons next rest =>
      rw [String.intercalate_cons_cons, words_append_bar, ih, List.map_cons, List.map_cons,
        List.map_cons, List.intercalate_cons_cons]
      simp

theorem filter_intercalate_bars {keep : String → Bool} (hbar : keep bar = false)
    (lists : List (List String)) :
    ([bar].intercalate lists).filter keep = lists.flatten.filter keep := by
  induction lists with
  | nil => rfl
  | cons list rest ih =>
    cases rest with
    | nil => simp
    | cons next rest =>
      rw [List.intercalate_cons_cons, List.filter_append, List.filter_append, ih,
        List.flatten_cons, List.filter_append]
      simp [hbar]

theorem length_intercalate_bars {lists : List (List String)} (hne : lists ≠ []) :
    ([bar].intercalate lists).length + 1 = lists.flatten.length + lists.length := by
  induction lists with
  | nil => exact absurd rfl hne
  | cons list rest ih =>
    cases rest with
    | nil => simp
    | cons next rest =>
      have hrest := ih (List.cons_ne_nil next rest)
      rw [List.intercalate_cons_cons, List.flatten_cons, List.length_append, List.length_append,
        List.length_append, List.length_singleton, List.length_cons]
      omega

/-! ## Bars made blank -/

/-- A text with a space in place of each bar. -/
def blankBars (text : String) : String := text.map fun c => if c = '|' then ' ' else c

theorem blankBars_append (before after : String) :
    blankBars (before ++ after) = blankBars before ++ blankBars after := by
  apply String.toList_injective
  simp [blankBars, String.toList_map]

theorem blankBars_of_bar_not_mem {text : String} (h : '|' ∉ text.toList) :
    blankBars text = text := by
  apply String.toList_injective
  have hkeep : ∀ c ∈ text.toList, (if c = '|' then ' ' else c) = c := by
    intro c hc
    refine if_neg ?_
    rintro rfl
    exact h hc
  rw [blankBars, String.toList_map, List.map_congr_left hkeep, List.map_id']

theorem blankBars_intercalate {texts : List String} (h : ∀ text ∈ texts, '|' ∉ text.toList) :
    blankBars (" | ".intercalate texts) = "   ".intercalate texts := by
  have hbars : blankBars " | " = "   " := by decide +kernel
  induction texts with
  | nil => decide +kernel
  | cons text rest ih =>
    obtain ⟨htext, hrest⟩ := List.forall_mem_cons.mp h
    cases rest with
    | nil => simpa using blankBars_of_bar_not_mem htext
    | cons next rest =>
      rw [String.intercalate_cons_cons, String.intercalate_cons_cons, blankBars_append,
        blankBars_append, hbars, ih hrest, blankBars_of_bar_not_mem htext]

/-! ## Parts between bars -/

namespace Composition

theorem segments_append_bar (before after : String) :
    segments (before ++ bar ++ after) = segments before ++ segments after := by
  have hchars : (before ++ bar ++ after).toList = before.toList ++ '|' :: after.toList := by
    simp [bar]
  rw [segments, hchars, List.splitOn_append_cons_self, List.map_append]
  rfl

theorem segments_of_bar_not_mem {text : String} (h : '|' ∉ text.toList) :
    segments text = [text] := by
  rw [segments, List.splitOn_eq_singleton h, List.map_singleton, String.ofList_toList]

/-- The parts of a line have the words of the texts between which its bars stand. -/
theorem map_words_segments {lead : String} (hlead : IsGap lead) {texts : List String}
    (hne : texts ≠ []) (hbars : ∀ text ∈ texts, '|' ∉ text.toList) :
    (segments (lead ++ " | ".intercalate texts)).map words = texts.map words := by
  have hleadbar : '|' ∉ lead.toList := by
    intro hbar
    have hblank := isGap_iff.mp hlead '|' hbar
    revert hblank
    decide
  induction texts generalizing lead with
  | nil => exact absurd rfl hne
  | cons text rest ih =>
    obtain ⟨htext, hrest⟩ := List.forall_mem_cons.mp hbars
    cases rest with
    | nil =>
      rw [String.intercalate_singleton, segments_of_bar_not_mem (by simp [hleadbar, htext]),
        List.map_singleton, words_gap_append hlead, List.map_singleton]
    | cons next rest =>
      have hsplit : lead ++ " | ".intercalate (text :: next :: rest) =
          (lead ++ text ++ " ") ++ bar ++ (" " ++ " | ".intercalate (next :: rest)) := by
        rw [String.intercalate_cons_cons, ← String.append_assoc, ← String.append_assoc,
          append_bar_append]
      rw [hsplit, segments_append_bar, segments_of_bar_not_mem (by simp [hleadbar, htext]),
        List.map_append, ih isGap_space (List.cons_ne_nil next rest) hrest (by decide),
        List.map_singleton, words_append_gap isGap_space, words_gap_append hlead]
      rfl

end Composition

/-! ## Vibhags of a grid -/

namespace Grid

theorem getElem?_chunks {α : Type} (sizes : List Nat) (items : List α) (index : Nat) :
    (chunks sizes items)[index]? = sizes[index]?.map fun size =>
      (items.drop (Taal.matrasBefore sizes index)).take size := by
  induction sizes generalizing items index with
  | nil => rfl
  | cons size rest ih =>
    cases index with
    | zero => simp [chunks]
    | succ index =>
      rw [chunks, List.getElem?_cons_succ, List.getElem?_cons_succ, ih,
        Taal.matrasBefore_cons_succ]
      simp only [List.drop_drop]

theorem length_chunks {α : Type} (sizes : List Nat) (items : List α) :
    (chunks sizes items).length = sizes.length := by
  induction sizes generalizing items with
  | nil => rfl
  | cons size rest ih => rw [chunks, List.length_cons, ih, List.length_cons]

theorem flatten_chunks {α : Type} (sizes : List Nat) (items : List α) :
    (chunks sizes items).flatten = items.take sizes.sum := by
  induction sizes generalizing items with
  | nil => rfl
  | cons size rest ih => rw [chunks, List.flatten_cons, ih, List.sum_cons, List.take_add]

theorem chunks_map {α β : Type} (f : α → β) (sizes : List Nat) (items : List α) :
    chunks sizes (items.map f) = (chunks sizes items).map (List.map f) := by
  induction sizes generalizing items with
  | nil => rfl
  | cons size rest ih => rw [chunks, ← List.map_take, ← List.map_drop, ih, chunks, List.map_cons]

variable {t : Taal} {g : Grid}

theorem flatten_vibhagCells (hg : g.WellFormed t) : g.vibhagCells.flatten = g.cells := by
  obtain rfl := hg.taal_eq
  rw [vibhagCells, flatten_chunks, Taal.sum_vibhagStructure, ← hg.length_cells, List.take_length]

theorem length_vibhagCells (hg : g.WellFormed t) : g.vibhagCells.length = t.vibhagCount := by
  obtain rfl := hg.taal_eq
  exact length_chunks _ _

theorem vibhagCells_ne_nil (hg : g.WellFormed t) : g.vibhagCells ≠ [] := by
  intro hnil
  have hlength := length_vibhagCells hg
  rw [hnil] at hlength
  exact t.consistent.vibhags_ne_nil (List.length_eq_zero_iff.mp hlength.symm)

/-! ## Lines of grids -/

/-- The text of one vibhag in a line. -/
def vibhagText (contents : List CellContent) : String :=
  " ".intercalate (contents.map CellContent.tokens)

theorem words_vibhagText (contents : List CellContent) :
    words (vibhagText contents) = contents.flatMap CellContent.words := by
  rw [vibhagText, words_intercalate isGap_space (by decide), List.flatMap_map]
  exact List.flatMap_congr fun content _ => content.words_tokens

theorem bar_not_mem_vibhagText (contents : List CellContent) :
    '|' ∉ (vibhagText contents).toList := by
  refine not_mem_toList_intercalate (by decide) fun text htext => ?_
  obtain ⟨content, -, rfl⟩ := List.mem_map.mp htext
  rw [CellContent.tokens_eq]
  exact not_mem_toList_intercalate (by decide) CellContent.bar_not_mem_words

theorem bar_not_mem_of_mem_vibhagTexts {g : Grid} :
    ∀ text ∈ g.vibhagCells.map vibhagText, '|' ∉ text.toList := by
  intro text htext
  obtain ⟨contents, -, rfl⟩ := List.mem_map.mp htext
  exact bar_not_mem_vibhagText contents

theorem sequenceText_eq (g : Grid) :
    g.sequenceText = " | ".intercalate (g.vibhagCells.map vibhagText) := rfl

/-- The words of each vibhag stand between two bars. -/
theorem map_words_segments_sequenceText (hg : g.WellFormed t) :
    (Composition.segments g.sequenceText).map words =
      g.vibhagCells.map (List.flatMap CellContent.words) := by
  have hne : g.vibhagCells.map vibhagText ≠ [] := by
    simpa using vibhagCells_ne_nil hg
  have hsegments := Composition.map_words_segments isGap_empty hne
    bar_not_mem_of_mem_vibhagTexts
  rw [String.empty_append, ← sequenceText_eq, List.map_map] at hsegments
  rw [hsegments]
  exact List.map_congr_left fun contents _ => words_vibhagText contents

theorem words_sequenceText (g : Grid) :
    words g.sequenceText =
      [bar].intercalate (g.vibhagCells.map (List.flatMap CellContent.words)) := by
  rw [sequenceText_eq, words_intercalate_bars, List.map_map]
  congr 1
  exact List.map_congr_left fun contents _ => words_vibhagText contents

theorem flatten_words_vibhagCells (hg : g.WellFormed t) :
    (g.vibhagCells.map (List.flatMap CellContent.words)).flatten =
      g.cells.flatMap CellContent.words := by
  rw [← flatten_vibhagCells hg, List.flatMap_def, List.map_flatten, List.flatten_flatten,
    List.map_map]
  rfl

theorem filter_words_sequenceText (hg : g.WellFormed t) :
    (words g.sequenceText).filter (fun word => word ≠ CellContent.sustainSign && word ≠ bar) =
      (g.cells.flatMap CellContent.group).map Swara.token := by
  rw [words_sequenceText, filter_intercalate_bars (by simp), flatten_words_vibhagCells hg,
    List.filter_flatMap, List.flatMap_congr fun content _ => content.filter_words,
    List.map_flatMap]

theorem length_words_sequenceText (hg : g.WellFormed t) :
    (words g.sequenceText).length + 1 =
      (g.cells.flatMap CellContent.words).length + t.vibhagCount := by
  have hne : g.vibhagCells.map (List.flatMap CellContent.words) ≠ [] := by
    simpa using vibhagCells_ne_nil hg
  rw [words_sequenceText, length_intercalate_bars hne, flatten_words_vibhagCells hg,
    List.length_map, length_vibhagCells hg]

end Grid

/-! ## Filling a line in again -/

namespace CellContent

/-- The same content, with a held note in place of an empty cell. -/
def held : CellContent → CellContent
  | .empty => .sustain
  | content => content

theorem words_held (content : CellContent) : content.held.words = content.words := by
  cases content with
  | empty => rfl
  | sustain => rfl
  | swaras group => rfl

theorem tokens_held (content : CellContent) : content.held.tokens = content.tokens := by
  rw [tokens_eq, words_held, tokens_eq]

/-- A cell with one note at most is written as one word, which stands for it. -/
theorem map_ofWord_words {content : CellContent} (h : content.Proper)
    (hone : content.group.length ≤ 1) : content.words.map ofWord = [.ok content.held] := by
  cases content with
  | empty => rfl
  | sustain => rfl
  | swaras group =>
    obtain ⟨s, rest, rfl⟩ := List.exists_cons_of_ne_nil fun hnil => h (congrArg swaras hnil)
    obtain rfl : rest = [] := by
      have hlength : rest.length + 1 ≤ 1 := hone
      exact List.length_eq_zero_iff.mp (by omega)
    simp only [words, List.map_singleton, ofWord, if_neg (Token.token_ne_sustainSign s),
      Token.parse_token]
    rfl

end CellContent

theorem readAll_words {contents : List CellContent} (h : ∀ content ∈ contents, content.Proper)
    (hone : ∀ content ∈ contents, content.group.length ≤ 1) :
    readAll CellContent.ofWord (contents.flatMap CellContent.words) =
      .ok (contents.map CellContent.held) := by
  rw [readAll_eq_ok_iff, List.map_flatMap, List.flatMap_congr fun content hcontent =>
    CellContent.map_ofWord_words (h content hcontent) (hone content hcontent), List.map_map]
  exact List.flatMap_pure_eq_map _ contents

namespace Grid

variable {t : Taal} {g other : Grid}

/-- The same grid, with a held note in place of each empty cell. -/
def held (g : Grid) : Grid := { g with cells := g.cells.map CellContent.held }

theorem sequenceText_held (g : Grid) : g.held.sequenceText = g.sequenceText := by
  have hcells : g.held.vibhagCells = g.vibhagCells.map (List.map CellContent.held) :=
    chunks_map CellContent.held _ _
  rw [sequenceText_eq, sequenceText_eq, hcells, List.map_map]
  congr 1
  refine List.map_congr_left fun contents _ => ?_
  simp only [Function.comp_apply, vibhagText, List.map_map]
  congr 1
  exact List.map_congr_left fun content _ => content.tokens_held

theorem words_blankBars_sequenceText (hg : g.WellFormed t) :
    words (blankBars g.sequenceText) = g.cells.flatMap CellContent.words := by
  rw [sequenceText_eq, blankBars_intercalate bar_not_mem_of_mem_vibhagTexts,
    words_intercalate (by decide) (by decide), List.flatMap_map,
    List.flatMap_congr fun contents _ => words_vibhagText contents, List.flatMap_def,
    flatten_words_vibhagCells hg]

theorem assign_of_length_eq {contents : List CellContent}
    (h : contents.length = g.cells.length) : g.assign contents = { g with cells := contents } := by
  rw [assign, ← h, List.take_length, Nat.sub_self, List.replicate_zero, List.append_nil]

theorem fill_blankBars_sequenceText (hg : g.WellFormed t) (hother : other.WellFormed t)
    (hone : ∀ content ∈ g.cells, content.group.length ≤ 1) :
    other.fill (blankBars g.sequenceText) = .ok g.held := by
  have hread := readAll_words hg.proper hone
  have hlength : (g.cells.flatMap CellContent.words).length = g.cells.length := by
    have hwords := congrArg List.length (readAll_eq_ok_iff.mp hread)
    simpa using hwords
  have hcells : readCells other.cells.length (blankBars g.sequenceText) =
      .ok (g.cells.map CellContent.held) := by
    have hfits : ¬other.cells.length < (g.cells.flatMap CellContent.words).length := by
      rw [hlength, hother.length_cells, hg.length_cells]
      exact Nat.lt_irrefl _
    simp only [readCells, words_blankBars_sequenceText hg, if_neg hfits, hread]
    rfl
  have hsize : (g.cells.map CellContent.held).length = other.cells.length := by
    rw [List.length_map, hg.length_cells, hother.length_cells]
  have hassign : other.assign (g.cells.map CellContent.held) = g.held := by
    rw [assign_of_length_eq hsize, hother.taal_eq, held, hg.taal_eq]
  rw [fill, hcells, ← hassign]
  rfl

theorem fill_sequenceText (hg : g.WellFormed t) (hother : other.WellFormed t)
    (hcount : 2 ≤ t.vibhagCount) :
    other.fill g.sequenceText =
      .error (.position ⟨(words g.sequenceText).length, t.totalMatras⟩) := by
  have hlength := length_words_sequenceText hg
  have hle := CellContent.length_le_length_flatMap_words hg.proper
  rw [hg.length_cells] at hle
  have hfull : t.totalMatras < (words g.sequenceText).length := by omega
  simp only [fill, readCells, hother.length_cells, if_pos hfull]
  rfl

end Grid

/-- **Lines of tokens keep the music.** Whatever has been done to a grid of a taal: the parts of
its line between bars have the words of its vibhags, in order. Without the words that are no notes
the line is read as the swaras of the grid. If no cell has more than one swara, the line without
its bars can be filled into any grid of the taal, which makes it the grid that was written with
held notes in its empty cells, and these are written alike. With bars, if there are any, the line
has too many words to be filled in. -/
theorem sequenceText_keeps_music (t : Taal) (edits : List Grid.Edit) :
    let g := (Grid.new t).run edits
    ((Composition.segments g.sequenceText).length = t.vibhagCount ∧
      ∀ index size, t.vibhagStructure[index]? = some size →
        (Composition.segments g.sequenceText)[index]?.map words =
          some (((g.cells.drop (Taal.matrasBefore t.vibhagStructure index)).take size).flatMap
            CellContent.words)) ∧
    parseSequence (" ".intercalate ((words g.sequenceText).filter
      fun word => word ≠ CellContent.sustainSign && word ≠ bar)) =
        .ok (g.cells.flatMap CellContent.group) ∧
    ((∀ content ∈ g.cells, content.group.length ≤ 1) → ∀ others : List Grid.Edit,
      ((Grid.new t).run others).fill (blankBars g.sequenceText) = .ok g.held ∧
        g.held.sequenceText = g.sequenceText) ∧
    (2 ≤ t.vibhagCount → ∀ others : List Grid.Edit,
      ((Grid.new t).run others).fill g.sequenceText =
        .error (.position ⟨(words g.sequenceText).length, t.totalMatras⟩)) := by
  intro g
  have hg : g.WellFormed t := Grid.wellFormed_run (Grid.wellFormed_new t) edits
  have hnew : ∀ others, ((Grid.new t).run others).WellFormed t :=
    fun others => Grid.wellFormed_run (Grid.wellFormed_new t) others
  have hsegments := Grid.map_words_segments_sequenceText hg
  refine ⟨⟨?_, fun index size hsize => ?_⟩, ?_, fun hone others => ?_, fun hcount others => ?_⟩
  · have hlength := congrArg List.length hsegments
    rwa [List.length_map, List.length_map, Grid.length_vibhagCells hg] at hlength
  · rw [← List.getElem?_map, hsegments, List.getElem?_map, Grid.vibhagCells, hg.taal_eq,
      Grid.getElem?_chunks, hsize]
    rfl
  · rw [Grid.filter_words_sequenceText hg]
    exact parseSequence_canonicalText _
  · exact ⟨Grid.fill_blankBars_sequenceText hg (hnew others) hone, Grid.sequenceText_held g⟩
  · exact Grid.fill_sequenceText hg (hnew others) hcount

/-- A line of dadra with notes, held notes and empty cells, and a grid of other notes. -/
theorem sequenceText_keeps_music_dadra :
    let edits : List Grid.Edit := [.fill "SA - RE_k+1", .setText 6 "NI-3"]
    let others : List Grid.Edit := [.distribute "SA RE GA MA PA DHA NI SA+1"]
    let g := (Grid.new Taal.dadra).run edits
    let other := (Grid.new Taal.dadra).run others
    g.sequenceText = "SA - RE_k+1 | - - NI-3" ∧
    (Taal.dadra.vibhagStructure[1]? = some 3 ∧
      (Composition.segments g.sequenceText)[1]?.map words = some ["-", "-", "NI-3"]) ∧
    ((∀ content ∈ g.cells, content.group.length ≤ 1) ∧
      other.fill (blankBars g.sequenceText) = .ok g.held ∧
      g.held.sequenceText = g.sequenceText) ∧
    (2 ≤ Taal.dadra.vibhagCount ∧ other.fill g.sequenceText = .error (.position ⟨7, 6⟩)) := by
  intro edits others g other
  have hsize : Taal.dadra.vibhagStructure[1]? = some 3 := by decide +kernel
  have hone : ∀ content ∈ g.cells, content.group.length ≤ 1 := by decide +kernel
  have hcount : 2 ≤ Taal.dadra.vibhagCount := by decide +kernel
  obtain ⟨⟨-, hvibhags⟩, -, hfill, hfull⟩ := sequenceText_keeps_music Taal.dadra edits
  have hsecond := hvibhags 1 3 hsize
  have hwords : ((g.cells.drop (Taal.matrasBefore Taal.dadra.vibhagStructure 1)).take 3).flatMap
      CellContent.words = ["-", "-", "NI-3"] := by decide +kernel
  have hrefused := hfull hcount others
  have hlength : (words g.sequenceText).length = 7 := by decide +kernel
  have htotal : Taal.dadra.totalMatras = 6 := by decide +kernel
  rw [hwords] at hsecond
  rw [hlength, htotal] at hrefused
  exact ⟨by decide +kernel, ⟨hsize, hsecond⟩, ⟨hone, hfill hone others⟩, hcount, hrefused⟩

end Sargam
