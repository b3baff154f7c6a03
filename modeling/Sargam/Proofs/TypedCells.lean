import Sargam.Proofs.NotePerMatra
import Sargam.Proofs.TokenLine

/-!
# Cells as they are typed

A cell is typed as a text, and what becomes of it is decided by the words of the text. Whether it
is held is asked of the text without the blanks at its ends, and the notes are read word by word;
these agree since a text of one word is that word once the blanks are off. So a minus sign alone
holds the cell, and among other words it is a word that is no note. A cell is written as words too,
and they are read as the cell again, with a held note for an empty one; typed into the cells of
another grid in any order, they make it the grid that was written.

* `CellContent.ofWords`, `CellContent.parse_eq_ofWords`: a typed cell from its words.
* `CellContent.parse_tokens`: a cell that is typed as it is written.
* `Grid.copyCells`, `Grid.copyCells_spec`: the cells of a grid typed into another one.
* `typed_cell_decided_by_words`: what is typed into a cell, and what is read back.
-/

namespace Sargam

open Text

theorem Token.not_all_notes_of_mem {list : List String} (h : CellContent.sustainSign ∈ list) :
    ¬∀ token ∈ list, ∃ s, Token.parse token = .ok s := by
  intro hall
  obtain ⟨s, hs⟩ := hall _ h
  cases Token.parse_sustainSign.symm.trans hs

namespace CellContent

variable {text : String}

/-! ## Words of a typed cell -/

/-- The content that the words typed into a cell stand for. -/
def ofWords (list : List String) : Except (List Rejection) CellContent :=
  if list = [sustainSign] then .ok .sustain else (readAll Token.parse list).map ofSwaras

theorem trim_eq_sustainSign_iff : trim text = sustainSign ↔ Text.words text = [sustainSign] := by
  constructor
  · intro h
    rw [← words_trim, h, words_of_isWord isWord_sustainSign]
  · exact trim_of_words_eq_singleton

theorem parse_eq_ofWords (text : String) : parse text = ofWords (Text.words text) := by
  simp only [parse, ofWords, trim_eq_sustainSign_iff, parseSequence, words_trim]

/-! ## Outcomes -/

theorem ofWords_eq_ok_iff {list : List String} {content : CellContent} :
    ofWords list = .ok content ↔ (list = [sustainSign] ∧ content = .sustain) ∨
      ∃ swaras : List Swara, list.map Token.parse = swaras.map .ok ∧ ofSwaras swaras = content := by
  unfold ofWords
  by_cases hsign : list = [sustainSign]
  · subst hsign
    rw [if_pos rfl]
    constructor
    · intro h
      cases h
      exact .inl ⟨rfl, rfl⟩
    · rintro (⟨-, rfl⟩ | ⟨swaras, hread, -⟩)
      · rfl
      · -- The sign is no note, so there is one way only to read it.
        obtain ⟨s, rest, -, hs, -⟩ := List.map_eq_cons_iff.mp hread.symm
        cases hs.trans Token.parse_sustainSign
  · rw [if_neg hsign, Except.map_eq_ok_iff]
    simp only [hsign, false_and, false_or, readAll_eq_ok_iff]

theorem parse_eq_empty_iff : parse text = .ok .empty ↔ Text.words text = [] := by
  rw [parse_eq_ofWords, ofWords_eq_ok_iff]
  constructor
  · rintro (⟨-, h⟩ | ⟨swaras, hread, h⟩)
    · cases h
    · rw [ofSwaras_eq_empty_iff.mp h] at hread
      exact List.map_eq_nil_iff.mp hread
  · intro h
    exact .inr ⟨[], by rw [h]; rfl, rfl⟩

theorem parse_eq_sustain_iff : parse text = .ok .sustain ↔ Text.words text = [sustainSign] := by
  rw [parse_eq_ofWords, ofWords_eq_ok_iff]
  constructor
  · rintro (⟨h, -⟩ | ⟨swaras, -, h⟩)
    · exact h
    · exact absurd h (ofSwaras_ne_sustain swaras)
  · exact fun h => .inl ⟨h, rfl⟩

theorem parse_eq_swaras_iff {swaras : List Swara} : parse text = .ok (.swaras swaras) ↔
    Text.words text ≠ [] ∧ (Text.words text).map Token.parse = swaras.map .ok := by
  have hempty : (Text.words text).map Token.parse = swaras.map .ok →
      (Text.words text = [] ↔ swaras = []) := by
    intro hread
    rw [← List.map_eq_nil_iff, hread, List.map_eq_nil_iff]
  rw [parse_eq_ofWords, ofWords_eq_ok_iff]
  constructor
  · rintro (⟨-, h⟩ | ⟨others, hread, h⟩)
    · cases h
    · obtain ⟨rfl, hne⟩ := ofSwaras_eq_swaras_iff.mp h
      exact ⟨mt (hempty hread).mp hne, hread⟩
  · rintro ⟨hne, hread⟩
    exact .inr ⟨swaras, hread, ofSwaras_eq_swaras_iff.mpr ⟨rfl, mt (hempty hread).mpr hne⟩⟩

/-- A text that is neither the sustain sign nor notes alone is refused with a report on each word
that is no note. -/
theorem exists_parse_eq_error (hsign : Text.words text ≠ [sustainSign])
    (hnotes : ¬∀ token ∈ Text.words text, ∃ s, Token.parse token = .ok s) :
    ∃ refused, parse text = .error refused ∧ refused ≠ [] ∧
      refused.Pairwise (fun a b => a.position < b.position) ∧
      ∀ r, r ∈ refused ↔ ∃ index, (Text.words text)[index]? = some r.token ∧
        r.position = index + 1 ∧ Token.parse r.token = .error r.fault := by
  obtain ⟨refused, hrefused, hreport⟩ := exists_report hnotes
  refine ⟨refused, ?_, hreport⟩
  rw [parse_eq_ofWords, ofWords, if_neg hsign, hrefused]
  rfl

theorem proper_held {content : CellContent} (h : content.Proper) : content.held.Proper := by
  cases content with
  | empty => exact nofun
  | sustain => exact nofun
  | swaras group => exact h

/-- A cell that is typed as it is written is read again, with a held note if it is empty. -/
theorem parse_tokens {content : CellContent} (h : content.Proper) :
    parse content.tokens = .ok content.held := by
  rw [parse_eq_ofWords, words_tokens, ofWords_eq_ok_iff]
  cases content with
  | empty => exact .inl ⟨rfl, rfl⟩
  | sustain => exact .inl ⟨rfl, rfl⟩
  | swaras group =>
    -- The cell of a proper group is the group again.
    refine .inr ⟨group, ?_, normalize_of_proper h⟩
    rw [words, List.map_map]
    exact List.map_congr_left fun s _ => Token.parse_token s

end CellContent

/-! ## Copying a grid -/

namespace Grid

/-- Types each cell of a grid, as it is written, into the cell with the same position, one position
after the other. -/
def copyCells (source : Grid) : List Nat → Editing InputFault Grid Unit
  | [] => pure ()
  | position :: rest => do
    let content ← MonadExcept.ofExcept ((source.cell position).mapError .position)
    perform (.setText position content.tokens)
    copyCells source rest

variable {t : Taal} {source g : Grid}

theorem perform_setText_tokens {position : Nat} {content : CellContent}
    (hposition : g.HasPosition position) (h : content.Proper) :
    perform (.setText position content.tokens) g =
      .ok () { g with cells := g.cells.set (position - 1) content.held } := by
  have hheld := CellContent.normalize_of_proper (CellContent.proper_held h)
  rw [perform_eq_ok_iff, apply, setText, if_pos hposition, CellContent.parse_tokens h]
  simp only [setCell, if_pos hposition, hheld]
  rfl

theorem copyCells_cons {position : Nat} (rest : List Nat) {content : CellContent}
    (hcell : source.cell position = .ok content) (hposition : g.HasPosition position)
    (h : content.Proper) : copyCells source (position :: rest) g =
      copyCells source rest { g with cells := g.cells.set (position - 1) content.held } := by
  rw [copyCells, hcell]
  exact Editing.bind_ok (perform_setText_tokens hposition h)

/-- Copying succeeds and gives each cell with a listed position what its source holds, with a held
note if that is empty; the others stay. -/
theorem copyCells_spec (hsource : source.WellFormed t) {positions : List Nat}
    (hpositions : ∀ position ∈ positions, source.HasPosition position)
    (hlength : g.cells.length = source.cells.length) :
    ∃ copied, copyCells source positions g = .ok () copied ∧ copied.taal = g.taal ∧
      copied.cells.length = g.cells.length ∧ ∀ index, copied.cells[index]? =
        if index + 1 ∈ positions then source.held.cells[index]? else g.cells[index]? := by
  -- What is typed into a cell stays there, unless the same is typed again.
  induction positions generalizing g with
  | nil => exact ⟨g, rfl, rfl, rfl, fun index => by simp⟩
  | cons position rest ih =>
    obtain ⟨hposition, hrest⟩ := List.forall_mem_cons.mp hpositions
    obtain ⟨typed, rfl⟩ := Nat.exists_eq_add_one_of_ne_zero (Nat.ne_of_gt hposition.1)
    have hindex : typed < source.cells.length := hposition.2
    have hproper := hsource.proper _ (List.getElem_mem hindex)
    have hhere : g.HasPosition (typed + 1) := ⟨hposition.1, hlength ▸ hposition.2⟩
    have hfirst : copyCells source ((typed + 1) :: rest) g = copyCells source rest
        { g with cells := g.cells.set typed source.cells[typed].held } :=
      copyCells_cons rest (dif_pos hposition) hhere hproper
    obtain ⟨copied, hcopied, htaal, hcells, hget⟩ := ih
      (g := { g with cells := g.cells.set typed source.cells[typed].held }) hrest
      (List.length_set.trans hlength)
    refine ⟨copied, hfirst.trans hcopied, htaal, hcells.trans List.length_set, fun index => ?_⟩
    rw [hget]
    by_cases hlater : index + 1 ∈ rest
    · rw [if_pos hlater, if_pos (List.mem_cons_of_mem _ hlater)]
    · rw [if_neg hlater]
      by_cases hsame : index = typed
      · subst hsame
        rw [if_pos List.mem_cons_self, held, List.getElem?_map, List.getElem?_eq_getElem hindex,
          List.getElem?_set_self (hlength ▸ hindex)]
        rfl
      · have hother : index + 1 ∉ (typed + 1) :: rest :=
          fun hmem => (List.mem_cons.mp hmem).elim (fun h => hsame (Nat.succ.inj h)) hlater
        rw [if_neg hother, List.getElem?_set_ne (Ne.symm hsame)]

/-- Copied in any order, a grid makes of another one what it is itself, with held notes in its
empty cells. -/
theorem copyCells_eq_ok_held (hsource : source.WellFormed t) (hg : g.WellFormed t)
    {order : List Nat} (horder : ∀ m, m ∈ order ↔ 1 ≤ m ∧ m ≤ t.totalMatras) :
    copyCells source order g = .ok () source.held := by
  have hpositions : ∀ m ∈ order, source.HasPosition m := by
    intro m hm
    rw [HasPosition, hsource.length_cells]
    exact (horder m).mp hm
  obtain ⟨copied, hcopied, hsame, hcells, hget⟩ :=
    copyCells_spec hsource hpositions (hg.length_cells.trans hsource.length_cells.symm)
  have hall : copied.cells = source.held.cells := by
    apply List.ext_getElem?
    intro index
    rw [hget]
    by_cases hmem : index + 1 ∈ order
    · rw [if_pos hmem]
    · have hbeyond : t.totalMatras ≤ index := by
        rw [horder] at hmem
        omega
      have hheld : source.held.cells.length ≤ index := by
        rw [held, List.length_map, hsource.length_cells]
        exact hbeyond
      rw [if_neg hmem, List.getElem?_eq_none (hg.length_cells ▸ hbeyond),
        List.getElem?_eq_none hheld]
  have hheld : copied = source.held := calc
    copied = ⟨copied.taal, copied.cells⟩ := rfl
    _ = ⟨source.taal, source.held.cells⟩ := by rw [hsame, hg.taal_eq, hsource.taal_eq, hall]
    _ = source.held := rfl
  rw [hcopied, hheld]

end Grid

/-- **A typed cell is decided by its words.** A text without words empties a cell, the sustain sign
alone holds it, and words that are all notes make it the group of these notes. Every other text is
refused. The report is not empty, its places rise, and it holds the rejection of a word exactly
when the word is refused as a note, with the place that the word has in the text; a sustain sign
among other words is such a word. Texts of the same words are read alike. Whatever has been done to
two grids of a taal: the cells of the one, typed as they are written into the other in any order,
make that the grid that was written, with held notes in its empty cells. -/
theorem typed_cell_decided_by_words :
    (∀ text : String,
      (CellContent.parse text = .ok .empty ↔ words text = []) ∧
      (CellContent.parse text = .ok .sustain ↔ words text = ["-"]) ∧
      (∀ swaras, CellContent.parse text = .ok (.swaras swaras) ↔
        words text ≠ [] ∧ (words text).map Token.parse = swaras.map .ok) ∧
      (words text ≠ ["-"] → (¬∀ token ∈ words text, ∃ s, Token.parse token = .ok s) →
        ∃ refused, CellContent.parse text = .error refused ∧ refused ≠ [] ∧
          refused.Pairwise (fun a b => a.position < b.position) ∧
          ∀ r, r ∈ refused ↔ ∃ index, (words text)[index]? = some r.token ∧
            r.position = index + 1 ∧ Token.parse r.token = .error r.fault) ∧
      (2 ≤ (words text).length → ∀ index, (words text)[index]? = some "-" →
        ∃ refused, CellContent.parse text = .error refused ∧
          ⟨index + 1, "-", .malformed (.octaveSuffix "-")⟩ ∈ refused)) ∧
    (∀ text other : String, words text = words other →
      CellContent.parse text = CellContent.parse other) ∧
    ∀ (t : Taal) (edits others : List Grid.Edit) (order : List Nat),
      (∀ m, m ∈ order ↔ 1 ≤ m ∧ m ≤ t.totalMatras) →
        let g := (Grid.new t).run edits
        Grid.copyCells g order ((Grid.new t).run others) = .ok () g.held := by
  refine ⟨fun text => ⟨CellContent.parse_eq_empty_iff, CellContent.parse_eq_sustain_iff,
    fun swaras => CellContent.parse_eq_swaras_iff, CellContent.exists_parse_eq_error,
    fun hmany index hat => ?_⟩, fun text other hwords => ?_,
    fun t edits others order horder => ?_⟩
  · have hsign : words text ≠ ["-"] := by
      intro h
      rw [h] at hmany
      exact absurd hmany (by decide)
    obtain ⟨refused, hrefused, -, -, hreport⟩ := CellContent.exists_parse_eq_error hsign
      (Token.not_all_notes_of_mem (List.mem_of_getElem? hat))
    exact ⟨refused, hrefused, (hreport _).mpr ⟨index, hat, rfl, Token.parse_sustainSign⟩⟩
  · rw [CellContent.parse_eq_ofWords, CellContent.parse_eq_ofWords, hwords]
  · have hreached : ∀ done, ((Grid.new t).run done).WellFormed t :=
      fun done => Grid.wellFormed_run (Grid.wellFormed_new t) done
    exact Grid.copyCells_eq_ok_held (hreached edits) (hreached others) horder

/-- A refused text, two texts of one sign, and a grid of dadra with an empty cell, a held note and a
group, typed from the last matra to the first into a grid of other notes. -/
theorem typed_cell_decided_by_words_dadra :
    let text := "SA -\tXX"
    let edits : List Grid.Edit := [.fill "SA - RE_k+1", .setText 6 "NI-3 PA"]
    let others : List Grid.Edit := [.distribute "SA RE GA MA PA DHA NI SA+1"]
    let g := (Grid.new Taal.dadra).run edits
    let other := (Grid.new Taal.dadra).run others
    (∃ refused, CellContent.parse text = .error refused ∧ refused ≠ []) ∧
    (∃ refused, CellContent.parse text = .error refused ∧
      ⟨2, "-", .malformed (.octaveSuffix "-")⟩ ∈ refused) ∧
    CellContent.parse "\u2003-\n" = CellContent.parse "-" ∧
    Grid.copyCells g [6, 5, 4, 3, 2, 1] other = .ok () g.held := by
  intro text edits others g other
  have hsign : words text ≠ ["-"] := by decide +kernel
  have hnotes : ¬∀ token ∈ words text, ∃ s, Token.parse token = .ok s :=
    Token.not_all_notes_of_mem (by decide +kernel)
  have hwords : words "\u2003-\n" = words "-" := by decide +kernel
  have htotal : Taal.dadra.totalMatras = 6 := by decide +kernel
  have horder : ∀ m, m ∈ [6, 5, 4, 3, 2, 1] ↔ 1 ≤ m ∧ m ≤ Taal.dadra.totalMatras := by
    intro m
    rw [htotal]
    simp only [List.mem_cons, List.not_mem_nil, or_false]
    omega
  obtain ⟨hparse, hsame, hcopy⟩ := typed_cell_decided_by_words
  obtain ⟨-, -, -, hreport, hmarked⟩ := hparse text
  obtain ⟨refused, hrefused, hne, -⟩ := hreport hsign hnotes
  exact ⟨⟨refused, hrefused, hne⟩, hmarked (by decide +kernel) 1 (by decide +kernel),
    hsame _ _ hwords, hcopy Taal.dadra edits others _ horder⟩

end Sargam
