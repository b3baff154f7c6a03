import Mathlib.Algebra.GroupWithZero.Nat
import Sargam.Proofs.Editing
import Sargam.Proofs.Outcome
import Sargam.Taal.Library

/-!
# Well-formed grids and compositions

Whatever is done to a composition, it keeps at least one line, and each of its lines is a grid
of its own taal, with one cell for each matra and no cell that holds an empty group of swaras.

* `Grid.WellFormed`, `Composition.WellFormed`: what every reachable grid and composition is like.
* `Grid.wellFormed_apply`, `Composition.wellFormed_apply`: one edit keeps that.
* `Grid.wellFormed_run`, `Composition.wellFormed_run`: any number of edits keeps that, failed
  ones included.
* `reachable_composition_wellFormed`: what follows for a composition of an accepted taal.
-/

namespace Sargam

/-! ## Contents -/

namespace CellContent

theorem group_ofSwaras (group : List Swara) : (ofSwaras group).group = group := by
  cases group <;> rfl

theorem ofSwaras_eq_empty_iff {group : List Swara} : ofSwaras group = .empty ↔ group = [] := by
  cases group <;> simp [ofSwaras]

theorem ofSwaras_ne_sustain (group : List Swara) : ofSwaras group ≠ .sustain := by
  cases group <;> simp [ofSwaras]

theorem ofSwaras_eq_swaras_iff {group swaras : List Swara} :
    ofSwaras group = .swaras swaras ↔ group = swaras ∧ swaras ≠ [] := by
  cases group with
  | nil => simp [ofSwaras, eq_comm]
  | cons s rest =>
    constructor
    · intro h
      cases h
      exact ⟨rfl, List.cons_ne_nil s rest⟩
    · rintro ⟨rfl, -⟩
      rfl

/-- A content that is not an empty group: an empty cell is written as `empty` alone. -/
def Proper (content : CellContent) : Prop := content ≠ .swaras []

theorem proper_empty : Proper .empty := by simp [Proper]

theorem proper_ofSwaras (group : List Swara) : Proper (ofSwaras group) := by
  cases group with
  | nil => exact proper_empty
  | cons s rest => simp [Proper, ofSwaras]

theorem proper_normalize (content : CellContent) : Proper content.normalize := by
  cases content with
  | empty => exact proper_empty
  | sustain => simp [Proper, normalize]
  | swaras group => exact proper_ofSwaras group

theorem proper_ofWord {word : String} {content : CellContent} (h : ofWord word = .ok content) :
    Proper content := by
  unfold ofWord at h
  split at h
  · cases h
    simp [Proper]
  · cases hparse : Token.parse word with
    | error fault =>
      rw [hparse] at h
      cases h
    | ok s =>
      rw [hparse] at h
      cases h
      simp [Proper]

end CellContent

/-! ## Grids -/

namespace Grid

/-- A grid of a taal, with a cell for each matra, none of which holds an empty group. -/
structure WellFormed (t : Taal) (g : Grid) : Prop where
  taal_eq : g.taal = t
  length_cells : g.cells.length = t.totalMatras
  proper : ∀ content ∈ g.cells, content.Proper

variable {t : Taal}

theorem wellFormed_new (t : Taal) : (Grid.new t).WellFormed t where
  taal_eq := rfl
  length_cells := List.length_replicate
  proper content hcontent := by
    rw [List.eq_of_mem_replicate hcontent]
    exact CellContent.proper_empty

theorem wellFormed_set {g : Grid} (hg : g.WellFormed t) (index : Nat) {content : CellContent}
    (hcontent : content.Proper) :
    ({ g with cells := g.cells.set index content } : Grid).WellFormed t where
  taal_eq := hg.taal_eq
  length_cells := List.length_set.trans hg.length_cells
  proper other hother := by
    rcases List.mem_or_eq_of_mem_set hother with hmem | rfl
    · exact hg.proper other hmem
    · exact hcontent

theorem length_cells_assign (g : Grid) (contents : List CellContent) :
    (g.assign contents).cells.length = g.cells.length := by
  simp only [assign, List.length_append, List.length_take, List.length_replicate]
  omega

theorem wellFormed_assign {g : Grid} (hg : g.WellFormed t) {contents : List CellContent}
    (hcontents : ∀ content ∈ contents, content.Proper) : (g.assign contents).WellFormed t where
  taal_eq := hg.taal_eq
  length_cells := (length_cells_assign g contents).trans hg.length_cells
  proper content hcontent := by
    rcases List.mem_append.mp hcontent with hmem | hmem
    · exact hcontents content (List.mem_of_mem_take hmem)
    · rw [List.eq_of_mem_replicate hmem]
      exact CellContent.proper_empty

theorem wellFormed_clear {g : Grid} (hg : g.WellFormed t) : g.clear.WellFormed t where
  taal_eq := hg.taal_eq
  length_cells := (List.length_map _).trans hg.length_cells
  proper content hcontent := by
    obtain ⟨-, -, rfl⟩ := List.mem_map.mp hcontent
    exact CellContent.proper_empty

theorem wellFormed_setCell {g edited : Grid} (hg : g.WellFormed t) {position : Nat}
    {content : CellContent} (h : g.setCell position content = .ok edited) :
    edited.WellFormed t := by
  unfold setCell at h
  split at h
  · cases h
    exact wellFormed_set hg _ (CellContent.proper_normalize content)
  · cases h

/-- The words of a text stand for proper contents. -/
theorem proper_of_readCells {total : Nat} {text : String} {contents : List CellContent}
    (h : readCells total text = .ok contents) : ∀ content ∈ contents, content.Proper := by
  intro content hcontent
  simp only [readCells] at h
  split at h
  · cases h
  · have hread := readAll_eq_ok_iff.mp (Except.mapError_eq_ok_iff.mp h)
    have hmem : Except.ok content ∈ (Text.words text).map CellContent.ofWord :=
      hread ▸ List.mem_map_of_mem hcontent
    obtain ⟨word, -, hword⟩ := List.mem_map.mp hmem
    exact CellContent.proper_ofWord hword

/-- What an edit makes of a well-formed grid is well formed. -/
theorem wellFormed_apply {g edited : Grid} {edit : Edit} (hg : g.WellFormed t)
    (h : g.apply edit = .ok edited) : edited.WellFormed t := by
  cases edit with
  | setCell position content => exact wellFormed_setCell hg (Except.mapError_eq_ok_iff.mp h)
  | setText position text =>
    simp only [apply, setText] at h
    split at h
    · split at h
      · cases h
      · exact wellFormed_setCell hg (Except.mapError_eq_ok_iff.mp h)
    · cases h
  | fill text =>
    obtain ⟨contents, hread, rfl⟩ := Except.map_eq_ok_iff.mp h
    exact wellFormed_assign hg (proper_of_readCells hread)
  | distribute text =>
    obtain ⟨swaras, -, rfl⟩ := Except.map_eq_ok_iff.mp (Except.mapError_eq_ok_iff.mp h)
    refine wellFormed_assign hg fun content hcontent => ?_
    obtain ⟨group, -, rfl⟩ := List.mem_map.mp hcontent
    exact CellContent.proper_ofSwaras group
  | clear =>
    cases h
    exact wellFormed_clear hg

/-- Whatever edits leave behind of a well-formed grid is well formed. -/
theorem wellFormed_run {g : Grid} (hg : g.WellFormed t) (edits : List Edit) :
    (g.run edits).WellFormed t :=
  Editing.leftAfter_of_allOrNothing perform_eq (fun _ _ _ => wellFormed_apply) hg edits

end Grid

/-! ## Compositions -/

namespace Composition

/-- A composition of a taal with a line at least, each of them a well-formed grid. -/
structure WellFormed (t : Taal) (c : Composition) : Prop where
  taal_eq : c.taal = t
  lines_pos : 0 < c.lines.length
  line : ∀ g ∈ c.lines, g.WellFormed t

variable {t : Taal}

theorem wellFormed_new (t : Taal) (lineCount : Nat) :
    (Composition.new t lineCount).WellFormed t where
  taal_eq := rfl
  lines_pos := by
    simp only [Composition.new, List.length_replicate]
    omega
  line g hg := by
    rw [List.eq_of_mem_replicate hg]
    exact Grid.wellFormed_new t

theorem mem_of_line? {c : Composition} {line : Nat} {g : Grid} (h : c.line? line = some g) :
    g ∈ c.lines := by
  cases line with
  | zero => cases h
  | succ index => exact List.mem_of_getElem? h

theorem wellFormed_setLine {c : Composition} (hc : c.WellFormed t) (line : Nat) {g : Grid}
    (hg : g.WellFormed t) : (c.setLine line g).WellFormed t := by
  cases line with
  | zero => exact hc
  | succ index =>
    refine ⟨hc.taal_eq, Nat.lt_of_lt_of_eq hc.lines_pos List.length_set.symm,
      fun other hother => ?_⟩
    rcases List.mem_or_eq_of_mem_set hother with hmem | rfl
    · exact hc.line other hmem
    · exact hg

/-- The rows of contents that are read for lines are read each from its own text. -/
theorem readLines_eq_ok_iff {total line : Nat} {texts : List String}
    {rows : List (List CellContent)} :
    readLines total line texts = .ok rows ↔
      texts.map (Grid.readCells total) = rows.map .ok := by
  induction texts generalizing line rows with
  | nil => simp [readLines, eq_comm]
  | cons text rest ih =>
    rw [readLines, List.map_cons]
    cases hread : Grid.readCells total text with
    | error fault => cases rows <;> simp
    | ok contents =>
      dsimp only
      rw [Except.map_eq_ok_iff]
      constructor
      · rintro ⟨others, hothers, rfl⟩
        rw [ih.mp hothers, List.map_cons]
      · intro h
        obtain ⟨row, others, rfl, hrow, hothers⟩ := List.map_eq_cons_iff.mp h.symm
        cases hrow
        exact ⟨others, ih.mpr hothers.symm, rfl⟩

/-- Lines that are given new contents stay well formed, and so are those that are added. -/
theorem wellFormed_assignLines {rows : List (List CellContent)} {lines : List Grid}
    (hrows : ∀ row ∈ rows, ∀ content ∈ row, content.Proper)
    (hlines : ∀ g ∈ lines, g.WellFormed t) :
    ∀ g ∈ assignLines t rows lines, g.WellFormed t := by
  induction rows generalizing lines with
  | nil => exact hlines
  | cons row rest ih =>
    have hrow := hrows row List.mem_cons_self
    have hrest := fun r hr => hrows r (List.mem_cons_of_mem row hr)
    intro g hg
    cases lines with
    | nil =>
      rcases List.mem_cons.mp hg with rfl | hg
      · exact Grid.wellFormed_assign (Grid.wellFormed_new t) hrow
      · exact ih hrest hlines g hg
    | cons first lines =>
      rcases List.mem_cons.mp hg with rfl | hg
      · exact Grid.wellFormed_assign (hlines first List.mem_cons_self) hrow
      · exact ih hrest (fun other hother => hlines other (List.mem_cons_of_mem _ hother)) g hg

theorem length_assignLines (t : Taal) (rows : List (List CellContent)) (lines : List Grid) :
    (assignLines t rows lines).length = max lines.length rows.length := by
  induction rows generalizing lines with
  | nil => exact (Nat.max_eq_left (Nat.zero_le _)).symm
  | cons row rest ih =>
    cases lines with
    | nil => simp [assignLines, ih]
    | cons g lines => simp [assignLines, ih]

/-- What an edit makes of a well-formed composition is well formed. -/
theorem wellFormed_apply {c edited : Composition} {edit : Edit} (hc : c.WellFormed t)
    (h : c.apply edit = .ok edited) : edited.WellFormed t := by
  obtain rfl := hc.taal_eq
  cases edit with
  | addLine =>
    cases h
    refine ⟨rfl, by simp [addLine], fun g hg => ?_⟩
    rcases List.mem_append.mp hg with hmem | hmem
    · exact hc.line g hmem
    · rw [List.mem_singleton.mp hmem]
      exact Grid.wellFormed_new c.taal
  | removeLine =>
    simp only [apply, removeLine?] at h
    by_cases hlength : c.lines.length ≤ 1
    · rw [if_pos hlength] at h
      cases h
    · rw [if_neg hlength] at h
      cases h
      refine ⟨rfl, ?_, fun g hg => hc.line g (List.dropLast_subset _ hg)⟩
      simp only [List.length_dropLast]
      omega
  | fillLines text =>
    obtain ⟨rows, hrows, rfl⟩ := Except.map_eq_ok_iff.mp (Except.mapError_eq_ok_iff.mp h)
    have hlength := length_assignLines c.taal rows c.lines
    refine ⟨rfl, Nat.lt_of_lt_of_le hc.lines_pos (hlength ▸ Nat.le_max_left _ _),
      wellFormed_assignLines (fun row hrow => ?_) hc.line⟩
    have hmem : Except.ok row ∈ (segments text).map (Grid.readCells c.taal.totalMatras) :=
      readLines_eq_ok_iff.mp hrows ▸ List.mem_map_of_mem hrow
    obtain ⟨part, -, hread⟩ := List.mem_map.mp hmem
    exact Grid.proper_of_readCells hread
  | clear =>
    cases h
    refine ⟨rfl, Nat.lt_of_lt_of_eq hc.lines_pos (List.length_map _).symm, fun g hg => ?_⟩
    obtain ⟨other, hother, rfl⟩ := List.mem_map.mp hg
    exact Grid.wellFormed_clear (hc.line other hother)
  | onLine line edit =>
    simp only [apply] at h
    cases hline : c.line? line with
    | none =>
      rw [hline] at h
      cases h
    | some g =>
      rw [hline] at h
      obtain ⟨changed, hchanged, rfl⟩ := Except.map_eq_ok_iff.mp h
      exact wellFormed_setLine hc line (Grid.wellFormed_apply (hc.line g (mem_of_line? hline))
        (Except.mapError_eq_ok_iff.mp hchanged))

/-- Whatever edits leave behind of a well-formed composition is well formed. -/
theorem wellFormed_run {c : Composition} (hc : c.WellFormed t) (edits : List Edit) :
    (c.run edits).WellFormed t :=
  Editing.leftAfter_of_allOrNothing perform_eq (fun _ _ _ => wellFormed_apply) hc edits

end Composition

/-! ## Reachable compositions -/

theorem Taal.matraCount_eq_sum (vibhags : List Nat) : matraCount vibhags = vibhags.sum := by
  induction vibhags with
  | nil => rfl
  | cons size rest ih => exact congrArg (size + ·) ih

/-- **Reachable compositions are well formed.** Whatever is done to a new composition of an
accepted taal (outlines are accepted in the same way), in whatever order and whether it succeeds or
not: there is a line, and each line is a grid of the composition's taal with as many cells as the
vibhags have matras together. No cell holds an empty group, and every swara in a cell is lawful. -/
theorem reachable_composition_wellFormed {d : Taal.Definition} {t : Taal}
    (h : Taal.ofDefinition d = .ok t) (lineCount : Nat) (edits : List Composition.Edit) :
    let c := (Composition.new t lineCount).run edits
    0 < c.lines.length ∧ c.taal.toDefinition = d ∧ d.totalMatras = d.vibhagStructure.sum ∧
      ∀ g ∈ c.lines, g.taal = c.taal ∧ g.cells.length = d.totalMatras ∧
        ∀ content ∈ g.cells, content ≠ .swaras [] ∧
          ∀ s ∈ content.group,
            s.modifier ∈ s.base.legalModifiers ∧ -3 ≤ s.octave ∧ s.octave ≤ 3 := by
  intro c
  obtain ⟨hconsistent, rfl⟩ := Taal.ofDefinition_eq_ok_iff.mp h
  have hc : c.WellFormed t :=
    Composition.wellFormed_run (Composition.wellFormed_new t lineCount) edits
  have hsum : t.totalMatras = t.vibhagStructure.sum :=
    hconsistent.vibhags_sum.symm.trans (Taal.matraCount_eq_sum _)
  refine ⟨hc.lines_pos, congrArg Taal.toDefinition hc.taal_eq, hsum, fun g hg => ?_⟩
  have hgrid := hc.line g hg
  refine ⟨hgrid.taal_eq.trans hc.taal_eq.symm, hgrid.length_cells, fun content hcontent => ?_⟩
  exact ⟨hgrid.proper content hcontent, fun s _ => ⟨s.modifier_legal, s.octave_ge, s.octave_le⟩⟩

/-- Lines added, filled, spread over and taken away, an empty group set into a cell, and edits
that fail for want of a line, of a position or of a note. -/
theorem reachable_composition_dadra :
    let edits : List Composition.Edit := [.addLine, .onLine 1 (.setCell 3 (.swaras [])),
      .fillLines "SA RE | - GA_k | MA_t+1", .onLine 9 .clear, .removeLine,
      .onLine 2 (.distribute "SA RE GA MA PA DHA NI SA+1"), .onLine 1 (.setText 7 "SA"),
      .fillLines "NI | XX | | SA"]
    let c := (Composition.new Taal.dadra 0).run edits
    Taal.ofDefinition Taal.dadra.toDefinition = .ok Taal.dadra ∧
      0 < c.lines.length ∧ c.taal.toDefinition = Taal.dadra.toDefinition ∧
      Taal.dadra.totalMatras = Taal.dadra.vibhagStructure.sum ∧
      ∀ g ∈ c.lines, g.taal = c.taal ∧ g.cells.length = Taal.dadra.totalMatras ∧
        ∀ content ∈ g.cells, content ≠ .swaras [] ∧
          ∀ s ∈ content.group,
            s.modifier ∈ s.base.legalModifiers ∧ -3 ≤ s.octave ∧ s.octave ≤ 3 := by
  intro edits
  have haccepted := Taal.ofDefinition_toDefinition Taal.dadra
  exact ⟨haccepted, reachable_composition_wellFormed haccepted 0 edits⟩

end Sargam
