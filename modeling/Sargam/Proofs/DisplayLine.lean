import Sargam.Proofs.Layout
import Sargam.Proofs.TokenLine

/-!
# The line that is shown

The line of a grid that is shown is not made from its line of tokens. It is made from the layout,
where a cell that draws as nothing gets a sustain sign, and the line of tokens is made from the
cells themselves. What keeps them together is that both are the same words, joined twice: the
words of a cell by spaces, the cells of a vibhag by spaces, the vibhags by bars. As no vibhag is
empty and no cell is without words, joining twice is joining once.

* `intercalate_flatten`, `intercalate_bars`: lists of words joined twice.
* `spaceParts`, `drawToken`: a line cut at its spaces, and what is shown for a part of it.
* `Grid.sequenceText_eq_intercalate_words`: the line of tokens is its words, joined by spaces.
* `Grid.toLine_eq_intercalate_words`: the line that is shown is the same words drawn.
* `toLine_draws_tokens`: the line that is shown is the line of tokens with its notes drawn.
-/

namespace Sargam

open Text

/-! ## Joining twice -/

theorem map_intercalate_bars {f : String → String} (hbar : f bar = bar)
    (lists : List (List String)) :
    ([bar].intercalate lists).map f = [bar].intercalate (lists.map (List.map f)) := by
  induction lists with
  | nil => rfl
  | cons list rest ih =>
    cases rest with
    | nil => simp
    | cons next rest =>
      rw [List.intercalate_cons_cons, List.map_append, List.map_append, ih, List.map_singleton,
        hbar, List.map_cons, List.map_cons, List.map_cons, List.intercalate_cons_cons]

theorem intercalate_bars_ne_nil {lists : List (List String)} (hne : lists ≠ [])
    (h : ∀ list ∈ lists, list ≠ []) : [bar].intercalate lists ≠ [] := by
  obtain ⟨list, rest, rfl⟩ := List.exists_cons_of_ne_nil hne
  have hlist := h list List.mem_cons_self
  cases rest with
  | nil => simpa using hlist
  | cons next rest => simp [hlist]

theorem intercalate_flatten (separator : String) {lists : List (List String)}
    (h : ∀ list ∈ lists, list ≠ []) :
    separator.intercalate (lists.map separator.intercalate) =
      separator.intercalate lists.flatten := by
  induction lists with
  | nil => rfl
  | cons list rest ih =>
    obtain ⟨hlist, hrest⟩ := List.forall_mem_cons.mp h
    by_cases hnil : rest = []
    · subst hnil
      simp
    · have hflat : rest.flatten ≠ [] := by
        obtain ⟨next, others, rfl⟩ := List.exists_cons_of_ne_nil hnil
        simp [hrest next List.mem_cons_self]
      rw [List.map_cons, String.intercalate_cons_of_ne_nil (by simpa using hnil), ih hrest,
        List.flatten_cons, String.intercalate_append_of_ne_nil hlist hflat]

/-- Lists of words joined by spaces and then by bars are the words joined by spaces, with a bar
as a word between any two lists. -/
theorem intercalate_bars {lists : List (List String)} (h : ∀ list ∈ lists, list ≠ []) :
    " | ".intercalate (lists.map " ".intercalate) = " ".intercalate ([bar].intercalate lists) := by
  induction lists with
  | nil => rfl
  | cons list rest ih =>
    obtain ⟨hlist, hrest⟩ := List.forall_mem_cons.mp h
    by_cases hnil : rest = []
    · subst hnil
      simp
    · -- There are words on both sides of the first bar, and so a space before and after it.
      have hjoined := intercalate_bars_ne_nil hnil hrest
      rw [List.map_cons, String.intercalate_cons_of_ne_nil (by simpa using hnil), ih hrest,
        append_bar_append, List.intercalate_cons_of_ne_nil hnil,
        String.intercalate_append_of_ne_nil (by simp) hjoined,
        String.intercalate_append_of_ne_nil hlist (List.cons_ne_nil bar []),
        String.intercalate_singleton]
      simp only [String.append_assoc]

/-! ## Parts between spaces -/

/-- The parts of a text between its spaces. -/
def spaceParts (text : String) : List String := (text.toList.splitOn ' ').map String.ofList

theorem spaceParts_intercalate {parts : List String} (hne : parts ≠ [])
    (h : ∀ part ∈ parts, ' ' ∉ part.toList) : spaceParts (" ".intercalate parts) = parts := by
  have hchars : ∀ cs ∈ parts.map String.toList, ' ' ∉ cs := by
    intro cs hcs
    obtain ⟨part, hpart, rfl⟩ := List.mem_map.mp hcs
    exact h part hpart
  have hspace : " ".toList = [' '] := rfl
  rw [spaceParts, String.toList_intercalate, hspace,
    List.splitOn_intercalate ' ' hchars (by simpa using hne), List.map_map]
  simp

theorem space_not_mem_of_isWord {word : String} (h : IsWord word) : ' ' ∉ word.toList := by
  intro hspace
  have hblank := h.2 ' ' hspace
  revert hblank
  decide

/-! ## Words drawn -/

/-- What is shown for a word of a line: signs as they are, and notes as music text. -/
def drawToken (o : RenderOptions) (word : String) : String :=
  if word = CellContent.sustainSign ∨ word = bar then word
  else
    match Token.parse word with
    | .ok s => s.render o
    | .error _ => word

theorem drawToken_sustainSign (o : RenderOptions) :
    drawToken o CellContent.sustainSign = CellContent.sustainSign := if_pos (.inl rfl)

theorem drawToken_bar (o : RenderOptions) : drawToken o bar = bar := if_pos (.inr rfl)

theorem drawToken_token (o : RenderOptions) (s : Swara) : drawToken o s.token = s.render o := by
  simp [drawToken, Token.token_ne_sustainSign, Token.token_ne_bar, Token.parse_token]

theorem displayText_cellLayout {t : Taal} {o : RenderOptions} {matra : Nat}
    {content : CellContent} (h : content.Proper) :
    (Grid.cellLayout t o matra content).displayText =
      " ".intercalate (content.words.map (drawToken o)) := by
  have hrendered : (Grid.cellLayout t o matra content).rendered = content.render o := rfl
  rw [Layout.Cell.displayText, hrendered]
  have hsign : " ".intercalate ([CellContent.sustainSign].map (drawToken o)) =
      CellContent.sustainSign := by
    rw [List.map_singleton, drawToken_sustainSign, String.intercalate_singleton]
  cases content with
  | empty => exact hsign.symm
  | sustain => exact hsign.symm
  | swaras group =>
    -- A proper group draws as something, so no sustain sign takes its place.
    have hne : (CellContent.swaras group).render o ≠ "" := by
      simp [CellContent.render_eq_empty_iff h]
    have hdrawn : (CellContent.swaras group).words.map (drawToken o) =
        group.map (Swara.render o) := by
      rw [CellContent.words, List.map_map]
      exact List.map_congr_left fun s _ => drawToken_token o s
    rw [if_neg (by simpa using hne), hdrawn, CellContent.render, renderSequence]

/-! ## Words of a line -/

namespace Grid

variable {t : Taal} {g : Grid} {o : RenderOptions}

theorem ne_nil_of_mem_vibhagCells (hg : g.WellFormed t) :
    ∀ contents ∈ g.vibhagCells, contents ≠ [] := by
  obtain rfl := hg.taal_eq
  intro contents hcontents
  obtain ⟨index, hindex⟩ := List.getElem?_of_mem hcontents
  rw [vibhagCells, getElem?_chunks] at hindex
  obtain ⟨size, hsize, rfl⟩ := Option.map_eq_some_iff.mp hindex
  have hpos := Taal.vibhag_pos g.taal hsize
  have hle := Taal.matrasBefore_add_le hsize
  rw [Taal.sum_vibhagStructure, ← hg.length_cells] at hle
  apply List.ne_nil_of_length_pos
  rw [List.length_take, List.length_drop]
  omega

theorem proper_of_mem_vibhagCells (hg : g.WellFormed t) {contents : List CellContent}
    (hcontents : contents ∈ g.vibhagCells) : ∀ content ∈ contents, content.Proper := by
  intro content hcontent
  apply hg.proper
  rw [← flatten_vibhagCells hg]
  exact List.mem_flatten_of_mem hcontents hcontent

theorem vibhagWords_ne_nil (hg : g.WellFormed t) :
    ∀ list ∈ g.vibhagCells.map (List.flatMap CellContent.words), list ≠ [] := by
  intro list hlist
  obtain ⟨contents, hcontents, rfl⟩ := List.mem_map.mp hlist
  have hproper := proper_of_mem_vibhagCells hg hcontents
  have hle := CellContent.length_le_length_flatMap_words hproper
  have hpos := List.length_pos_iff.mpr (ne_nil_of_mem_vibhagCells hg contents hcontents)
  exact List.ne_nil_of_length_pos (Nat.lt_of_lt_of_le hpos hle)

theorem intercalate_cellWords {f : String → String} {contents : List CellContent}
    (h : ∀ content ∈ contents, content.Proper) :
    " ".intercalate (contents.map fun content => " ".intercalate (content.words.map f)) =
      " ".intercalate ((contents.flatMap CellContent.words).map f) := by
  have hne : ∀ list ∈ contents.map fun content => content.words.map f, list ≠ [] := by
    intro list hlist
    obtain ⟨content, hcontent, rfl⟩ := List.mem_map.mp hlist
    simpa using CellContent.words_ne_nil (h content hcontent)
  have hjoined := intercalate_flatten " " hne
  rw [List.map_map] at hjoined
  rw [List.map_flatMap, List.flatMap_def, ← hjoined]
  rfl

theorem vibhagText_eq {contents : List CellContent} (h : ∀ content ∈ contents, content.Proper) :
    vibhagText contents = " ".intercalate (contents.flatMap CellContent.words) := by
  have hjoined := intercalate_cellWords (f := id) h
  simp only [List.map_id] at hjoined
  rw [← hjoined, vibhagText]
  congr 1
  exact List.map_congr_left fun content _ => content.tokens_eq

/-- There is one space between any two words of a line of tokens, and no other. -/
theorem sequenceText_eq_intercalate_words (hg : g.WellFormed t) :
    g.sequenceText = " ".intercalate (words g.sequenceText) := by
  have hvibhags : g.vibhagCells.map vibhagText =
      (g.vibhagCells.map (List.flatMap CellContent.words)).map " ".intercalate := by
    rw [List.map_map]
    exact List.map_congr_left fun contents hcontents =>
      vibhagText_eq (proper_of_mem_vibhagCells hg hcontents)
  rw [words_sequenceText, ← intercalate_bars (vibhagWords_ne_nil hg), ← hvibhags,
    sequenceText_eq]

theorem spaceParts_sequenceText (hg : g.WellFormed t) :
    spaceParts g.sequenceText = words g.sequenceText := by
  have hne : words g.sequenceText ≠ [] := by
    rw [words_sequenceText]
    exact intercalate_bars_ne_nil (by simpa using vibhagCells_ne_nil hg) (vibhagWords_ne_nil hg)
  have hspaces : ∀ word ∈ words g.sequenceText, ' ' ∉ word.toList :=
    fun word hword => space_not_mem_of_isWord (isWord_of_mem_words hword)
  have hparts := spaceParts_intercalate hne hspaces
  rwa [← sequenceText_eq_intercalate_words hg] at hparts

/-- A word of a line that is no sign is the token of a note of the grid. -/
theorem exists_token_of_mem_words (hg : g.WellFormed t) {word : String}
    (hword : word ∈ words g.sequenceText) (hsign : word ≠ CellContent.sustainSign)
    (hbar : word ≠ bar) : ∃ s ∈ g.cells.flatMap CellContent.group, s.token = word := by
  have hnote : word ∈ (words g.sequenceText).filter fun word =>
      word ≠ CellContent.sustainSign && word ≠ bar :=
    List.mem_filter.mpr ⟨hword, by simp [hsign, hbar]⟩
  rw [filter_words_sequenceText hg] at hnote
  exact List.mem_map.mp hnote

/-! ## The line of the layout -/

theorem map_displayText_cellLayouts {matra : Nat} {cells : List CellContent}
    (h : ∀ content ∈ cells, content.Proper) :
    (cellLayouts t o matra cells).map Layout.Cell.displayText =
      cells.map fun content => " ".intercalate (content.words.map (drawToken o)) := by
  induction cells generalizing matra with
  | nil => rfl
  | cons content rest ih =>
    obtain ⟨hcontent, hrest⟩ := List.forall_mem_cons.mp h
    rw [cellLayouts, List.map_cons, displayText_cellLayout hcontent, ih hrest, List.map_cons]

theorem map_displayText_vibhagLayouts {number matra : Nat} {sizes : List Nat}
    {cells : List CellContent} (h : ∀ content ∈ cells, content.Proper) :
    ((vibhagLayouts t o number matra sizes cells).map fun v =>
        " ".intercalate (v.cells.map Layout.Cell.displayText)) =
      (chunks sizes cells).map fun contents =>
        " ".intercalate ((contents.flatMap CellContent.words).map (drawToken o)) := by
  induction sizes generalizing number matra cells with
  | nil => rfl
  | cons size rest ih =>
    have hfirst : ∀ content ∈ cells.take size, content.Proper :=
      fun content hcontent => h content (List.mem_of_mem_take hcontent)
    have hothers : ∀ content ∈ cells.drop size, content.Proper :=
      fun content hcontent => h content (List.mem_of_mem_drop hcontent)
    rw [vibhagLayouts, chunks, List.map_cons, List.map_cons, ih hothers,
      map_displayText_cellLayouts hfirst, intercalate_cellWords hfirst]

theorem toLine_eq_intercalate_words (hg : g.WellFormed t) :
    (g.layout o).toLine = " ".intercalate ((words g.sequenceText).map (drawToken o)) := by
  obtain rfl := hg.taal_eq
  have hdrawn : ∀ list ∈ (g.vibhagCells.map (List.flatMap CellContent.words)).map
      (List.map (drawToken o)), list ≠ [] := by
    intro list hlist
    obtain ⟨words, hwords, rfl⟩ := List.mem_map.mp hlist
    simpa using vibhagWords_ne_nil hg words hwords
  calc (g.layout o).toLine
      = " | ".intercalate (g.vibhagCells.map fun contents =>
          " ".intercalate ((contents.flatMap CellContent.words).map (drawToken o))) :=
        congrArg _ (map_displayText_vibhagLayouts hg.proper)
    _ = " | ".intercalate (((g.vibhagCells.map (List.flatMap CellContent.words)).map
          (List.map (drawToken o))).map " ".intercalate) := by
        rw [List.map_map, List.map_map]
        rfl
    _ = " ".intercalate ((words g.sequenceText).map (drawToken o)) := by
        rw [intercalate_bars hdrawn, words_sequenceText, map_intercalate_bars (drawToken_bar o)]

end Grid

/-- **The line that is shown is the line of tokens with its notes drawn.** Whatever has been done
to a grid of a taal: cut at its single spaces, its line of tokens consists of sustain signs, bars
and tokens that are read as notes. With each of these notes drawn, and the parts joined again by
single spaces, it is the line that is shown. -/
theorem toLine_draws_tokens (t : Taal) (edits : List Grid.Edit) (o : RenderOptions) :
    let g := (Grid.new t).run edits
    (∀ word ∈ spaceParts g.sequenceText, word ≠ CellContent.sustainSign → word ≠ bar →
      ∃ s, Token.parse word = .ok s) ∧
    (g.layout o).toLine = " ".intercalate ((spaceParts g.sequenceText).map (drawToken o)) := by
  intro g
  have hg : g.WellFormed t := Grid.wellFormed_run (Grid.wellFormed_new t) edits
  rw [Grid.spaceParts_sequenceText hg]
  refine ⟨fun word hword hsign hbar => ?_, Grid.toLine_eq_intercalate_words hg⟩
  obtain ⟨s, -, rfl⟩ := Grid.exists_token_of_mem_words hg hword hsign hbar
  exact ⟨s, Token.parse_token s⟩

/-- A line with a cell of two notes, empty cells and a sustained one, whose last note has marks
above its name. -/
theorem toLine_draws_tokens_dadra :
    let g := (Grid.new Taal.dadra).run [.fill "SA RE_k -", .setText 4 "GA MA_t+1"]
    (("MA_t+1" ∈ spaceParts g.sequenceText ∧ "MA_t+1" ≠ CellContent.sustainSign ∧
      "MA_t+1" ≠ bar) ∧ ∃ s, Token.parse "MA_t+1" = .ok s) ∧
    (g.layout {}).toLine = " ".intercalate ((spaceParts g.sequenceText).map (drawToken {})) ∧
    g.sequenceText = "SA RE_k - | GA MA_t+1 - -" ∧
    (g.layout {}).toLine = "SA RE\u0332 - | GA M\u030dA\u0307 - -" := by
  intro g
  have hpart : "MA_t+1" ∈ spaceParts g.sequenceText ∧ "MA_t+1" ≠ CellContent.sustainSign ∧
      "MA_t+1" ≠ bar := by decide +kernel
  have htexts : g.sequenceText = "SA RE_k - | GA MA_t+1 - -" ∧
      (g.layout {}).toLine = "SA RE\u0332 - | GA M\u030dA\u0307 - -" := by decide +kernel
  obtain ⟨hread, hline⟩ :=
    toLine_draws_tokens Taal.dadra [.fill "SA RE_k -", .setText 4 "GA MA_t+1"] {}
  exact ⟨⟨hpart, hread "MA_t+1" hpart.1 hpart.2.1 hpart.2.2⟩, hline, htexts⟩

end Sargam
