import Sargam.Proofs.Spacing
import Sargam.Proofs.WellFormed
import Sargam.Session

/-!
# Filling several lines

Several lines are filled from one text, whose parts stand between bars. All parts are read before
a line is added or touched, and for that they are read for an empty line of the taal. What comes
of it is the same as adding the lines that are missing and filling line after line, each with its
own part. If a part cannot fill a line, the first such part is reported with its place, with the
fault that filling any line of the taal with it has, and nothing is changed.

* `Composition.segments`: its parts hold no bars and are joined by bars to the text again.
* `Composition.Filled`, `Composition.FirstRefused`: what comes of filling, and what is reported.
* `Composition.run_fillsFrom`, `Composition.run_addLines_fillsFrom`: filling line after line assigns
  the same lines as filling them together.
* `Composition.filled_of_readLines`, `Composition.firstRefused_of_readLines`: the texts as they
  have been read, or the first of them that could not be.
* `fillLines_fills_each`: filling several lines of a reachable composition is filling each of them.
-/

namespace Sargam

/-! ## Parts between bars -/

namespace Composition

theorem length_segments_pos (text : String) : 0 < (segments text).length := by
  rw [segments, List.length_map]
  exact List.length_pos_iff.mpr (List.splitOn_ne_nil '|' text.toList)

theorem intercalate_segments (text : String) : "|".intercalate (segments text) = text := by
  have hpieces : (segments text).map String.toList = text.toList.splitOn '|' := by
    simp [segments, Function.comp_def]
  apply String.toList_inj.mp
  rw [String.toList_intercalate, hpieces]
  exact List.intercalate_splitOn '|'

theorem bar_not_mem_of_mem_segments {text part : String} (h : part ∈ segments text) :
    '|' ∉ part.toList := by
  obtain ⟨piece, hpiece, rfl⟩ := List.mem_map.mp h
  rw [List.splitOn_eq_splitOnP] at hpiece
  rw [String.toList_ofList]
  intro hbar
  have hcut := Text.eq_false_of_mem_splitOnP hpiece '|' hbar
  revert hcut
  decide

end Composition

/-! ## Filling one line -/

namespace Grid

variable {t : Taal} {g : Grid}

theorem fill_eq (hg : g.WellFormed t) (text : String) :
    g.fill text = (readCells t.totalMatras text).map g.assign := by
  rw [fill, hg.length_cells]

theorem fill_eq_error_iff (hg : g.WellFormed t) {text : String} {fault : InputFault} :
    g.fill text = .error fault ↔ readCells t.totalMatras text = .error fault := by
  rw [fill_eq hg, Except.map_eq_error_iff]

theorem exists_fill_iff (hg : g.WellFormed t) {text : String} :
    (∃ filled, g.fill text = .ok filled) ↔
      ∃ contents, readCells t.totalMatras text = .ok contents := by
  simp only [fill_eq hg, Except.map_eq_ok_iff]
  constructor
  · rintro ⟨filled, contents, hcontents, -⟩
    exact ⟨contents, hcontents⟩
  · rintro ⟨contents, hcontents⟩
    exact ⟨g.assign contents, contents, hcontents, rfl⟩

end Grid

/-! ## Filling line after line -/

namespace Composition

variable {t : Taal}

/-- The edits that fill the lines from a number on, each with a text of its own. -/
def fillsFrom (line : Nat) : List String → List Edit
  | [] => []
  | text :: rest => .onLine line (.fill text) :: fillsFrom (line + 1) rest

/-- A composition whose first lines have been filled, each with its own text. Lines that were
missing have been added and the others are as they were. -/
structure Filled (c : Composition) (texts : List String) (filled : Composition) : Prop where
  taal_eq : filled.taal = c.taal
  length_lines : filled.lines.length = max c.lines.length texts.length
  filled_line : ∀ index text, texts[index]? = some text →
    ∃ g, ((c.line? (index + 1)).getD (Grid.new c.taal)).fill text = .ok g ∧
      filled.line? (index + 1) = some g
  other_line : ∀ line, texts.length < line → filled.line? line = c.line? line
  one_by_one : filled =
    c.run (List.replicate (texts.length - c.lines.length) .addLine ++ fillsFrom 1 texts)

/-- The first of some texts that cannot fill a line, with its place, from 1, and with the fault
that it has on every line of the taal. -/
def FirstRefused (t : Taal) (texts : List String) (e : LineFault) : Prop :=
  ∃ before text after, texts = before ++ text :: after ∧ e.line = before.length + 1 ∧
    (∀ earlier ∈ before, ∃ g, (Grid.new t).fill earlier = .ok g) ∧
    ∀ edits : List Grid.Edit, ((Grid.new t).run edits).fill text = .error e.fault

theorem perform_fill_line {before after : List Grid} {g : Grid} (hg : g.WellFormed t)
    {text : String} {row : List CellContent} (hrow : Grid.readCells t.totalMatras text = .ok row) :
    perform (.onLine (before.length + 1) (.fill text)) ⟨t, before ++ g :: after⟩ =
      .ok () ⟨t, before ++ [g.assign row] ++ after⟩ := by
  have hline : (⟨t, before ++ g :: after⟩ : Composition).line? (before.length + 1) = some g := by
    simp [line?]
  have hset : (⟨t, before ++ g :: after⟩ : Composition).setLine (before.length + 1) (g.assign row) =
      ⟨t, before ++ [g.assign row] ++ after⟩ := by
    simp [setLine]
  rw [perform_eq, Editing.allOrNothing_eq_ok_iff, ← hset, apply, hline]
  simp only [Grid.apply, Grid.fill_eq hg, hrow]
  rfl

theorem run_fillsFrom {texts : List String} {rows : List (List CellContent)}
    {before after : List Grid} (hrows : texts.map (Grid.readCells t.totalMatras) = rows.map .ok)
    (hafter : ∀ g ∈ after, g.WellFormed t) (hroom : rows.length ≤ after.length) :
    run ⟨t, before ++ after⟩ (fillsFrom (before.length + 1) texts) =
      ⟨t, before ++ assignLines t rows after⟩ := by
  -- The lines before the number are kept apart, so that a filled line can join them.
  induction texts generalizing rows before after with
  | nil =>
    obtain rfl : rows = [] := by simpa using hrows.symm
    rfl
  | cons text texts ih =>
    obtain ⟨row, rows, rfl, hrow, hothers⟩ := List.map_eq_cons_iff.mp hrows.symm
    obtain ⟨g, after, rfl⟩ :=
      List.exists_cons_of_length_pos (Nat.lt_of_lt_of_le (Nat.succ_pos _) hroom)
    obtain ⟨hg, hafter⟩ := List.forall_mem_cons.mp hafter
    have hfirst : (perform (.onLine (before.length + 1) (.fill text))).left
        ⟨t, before ++ g :: after⟩ = ⟨t, before ++ [g.assign row] ++ after⟩ :=
      Editing.left_of_ok (perform_fill_line hg hrow.symm)
    have hrest : run ⟨t, before ++ [g.assign row] ++ after⟩
        (fillsFrom ((before ++ [g.assign row]).length + 1) texts) =
          ⟨t, before ++ [g.assign row] ++ assignLines t rows after⟩ :=
      ih hothers.symm hafter (Nat.le_of_succ_le_succ hroom)
    rw [List.length_append, List.length_singleton] at hrest
    rw [run, fillsFrom, Editing.leftAfter, hfirst, ← run, hrest, assignLines, List.append_assoc]
    rfl

theorem run_addLines (count : Nat) (c : Composition) :
    c.run (List.replicate count .addLine) =
      { c with lines := c.lines ++ List.replicate count (Grid.new c.taal) } := by
  induction count generalizing c with
  | zero => simp [run, Editing.leftAfter]
  | succ count ih =>
    have hadd : c.run (List.replicate (count + 1) .addLine) =
        c.addLine.run (List.replicate count .addLine) := rfl
    rw [hadd, ih, addLine, List.append_assoc, List.replicate_succ]
    rfl

/-! ## Lines that are assigned together -/

theorem getElem?_assignLines {rows : List (List CellContent)} {row : List CellContent}
    {index : Nat} (h : rows[index]? = some row) (lines : List Grid) :
    (assignLines t rows lines)[index]? =
      some ((lines[index]?.getD (Grid.new t)).assign row) := by
  induction rows generalizing index lines with
  | nil => cases h
  | cons first rest ih =>
    cases index with
    | zero =>
      cases h
      cases lines with
      | nil => rfl
      | cons g lines => rfl
    | succ index =>
      cases lines with
      | nil => exact ih h []
      | cons g lines => exact ih h lines

theorem getElem?_assignLines_of_le {rows : List (List CellContent)} {lines : List Grid}
    {index : Nat} (h : rows.length ≤ index) :
    (assignLines t rows lines)[index]? = lines[index]? := by
  induction rows generalizing index lines with
  | nil => rfl
  | cons first rest ih =>
    cases index with
    | zero => exact absurd h (Nat.not_succ_le_zero _)
    | succ index =>
      have hrest := Nat.le_of_succ_le_succ h
      cases lines with
      | nil => exact ih hrest
      | cons g lines => exact ih hrest

/-- The report on texts for lines is about the first of them that cannot be read. -/
theorem exists_of_readLines_eq_error {total line : Nat} {texts : List String} {e : LineFault}
    (h : readLines total line texts = .error e) :
    ∃ before text after, texts = before ++ text :: after ∧ e.line = before.length + line ∧
      (∀ earlier ∈ before, ∃ row, Grid.readCells total earlier = .ok row) ∧
      Grid.readCells total text = .error e.fault := by
  induction texts generalizing line with
  | nil => cases h
  | cons text rest ih =>
    rw [readLines] at h
    cases hread : Grid.readCells total text with
    | error fault =>
      rw [hread] at h
      cases h
      exact ⟨[], text, rest, rfl, (Nat.zero_add line).symm, by simp, hread⟩
    | ok row =>
      rw [hread] at h
      obtain ⟨before, refused, after, rfl, hline, hearlier, hrefused⟩ :=
        ih (Except.map_eq_error_iff.mp h)
      refine ⟨text :: before, refused, after, rfl, ?_, ?_, hrefused⟩
      · rw [hline, List.length_cons]
        omega
      · exact List.forall_mem_cons.mpr ⟨⟨row, hread⟩, hearlier⟩

theorem firstRefused_of_readLines {texts : List String} {e : LineFault}
    (h : readLines t.totalMatras 1 texts = .error e) : FirstRefused t texts e := by
  obtain ⟨before, text, after, rfl, hline, hearlier, hrefused⟩ := exists_of_readLines_eq_error h
  refine ⟨before, text, after, rfl, hline, fun earlier hmem => ?_, fun edits => ?_⟩
  · exact (Grid.exists_fill_iff (Grid.wellFormed_new t)).mpr (hearlier earlier hmem)
  · -- What can fill a line depends on the number of its cells only.
    have hg := Grid.wellFormed_run (Grid.wellFormed_new t) edits
    exact (Grid.fill_eq_error_iff hg).mpr hrefused

theorem exists_readLines_iff {texts : List String} :
    (∃ rows, readLines t.totalMatras 1 texts = .ok rows) ↔
      ∀ text ∈ texts, ∃ g, (Grid.new t).fill text = .ok g := by
  cases h : readLines t.totalMatras 1 texts with
  | error e =>
    obtain ⟨before, refused, after, rfl, -, -, hfault⟩ := firstRefused_of_readLines h
    refine iff_of_false nofun fun haccepted => ?_
    obtain ⟨g, hg⟩ := haccepted refused (List.mem_append_right _ List.mem_cons_self)
    cases hg.symm.trans (hfault [])
  | ok rows =>
    refine iff_of_true ⟨rows, rfl⟩ fun text htext => ?_
    have hmem : Grid.readCells t.totalMatras text ∈ rows.map Except.ok :=
      readLines_eq_ok_iff.mp h ▸ List.mem_map_of_mem htext
    obtain ⟨row, -, hrow⟩ := List.mem_map.mp hmem
    exact (Grid.exists_fill_iff (Grid.wellFormed_new t)).mpr ⟨row, hrow.symm⟩

/-- To add the lines that are missing and then to fill line after line assigns all lines their
contents. -/
theorem run_addLines_fillsFrom {c : Composition} (hc : c.WellFormed t) {texts : List String}
    {rows : List (List CellContent)}
    (hrows : texts.map (Grid.readCells t.totalMatras) = rows.map .ok) :
    c.run (List.replicate (rows.length - c.lines.length) .addLine ++ fillsFrom 1 texts) =
      { c with lines := assignLines t rows c.lines } := by
  obtain rfl := hc.taal_eq
  have hgrown := (wellFormed_run hc (List.replicate (rows.length - c.lines.length) .addLine)).line
  rw [run_addLines] at hgrown
  have hroom : rows.length ≤ (c.lines ++ List.replicate (rows.length - c.lines.length)
      (Grid.new c.taal)).length := by
    rw [List.length_append, List.length_replicate]
    omega
  have hfills : run ⟨c.taal, [] ++ (c.lines ++ List.replicate (rows.length - c.lines.length)
      (Grid.new c.taal))⟩ (fillsFrom 1 texts) = ⟨c.taal, [] ++ assignLines c.taal rows _⟩ :=
    run_fillsFrom hrows hgrown hroom
  rw [List.nil_append, List.nil_append, assignLines_grown] at hfills
  rw [run, Editing.leftAfter_append, ← run, ← run, run_addLines, hfills]

theorem filled_of_readLines {c : Composition} (hc : c.WellFormed c.taal) {texts : List String}
    {rows : List (List CellContent)} (h : readLines c.taal.totalMatras 1 texts = .ok rows) :
    Filled c texts { c with lines := assignLines c.taal rows c.lines } := by
  have hrows := readLines_eq_ok_iff.mp h
  have hlength : texts.length = rows.length := by
    rw [← List.length_map (Grid.readCells c.taal.totalMatras), hrows, List.length_map]
  refine ⟨rfl, ?_, fun index text htext => ?_, fun line hline => ?_, ?_⟩
  · rw [length_assignLines, hlength]
  · obtain ⟨row, hrow, hread⟩ : ∃ row, rows[index]? = some row ∧
        Grid.readCells c.taal.totalMatras text = .ok row := by
      have hat := congrArg (·[index]?) hrows
      simp only [List.getElem?_map, htext, Option.map_some] at hat
      obtain ⟨row, hrow, hread⟩ := Option.map_eq_some_iff.mp hat.symm
      exact ⟨row, hrow, hread.symm⟩
    have hg : ((c.line? (index + 1)).getD (Grid.new c.taal)).WellFormed c.taal := by
      cases hline : c.line? (index + 1) with
      | none => exact Grid.wellFormed_new c.taal
      | some g => exact hc.line g (mem_of_line? hline)
    refine ⟨_, ?_, getElem?_assignLines hrow c.lines⟩
    rw [Grid.fill_eq hg, hread]
    rfl
  · obtain ⟨index, rfl⟩ := Nat.exists_eq_add_of_lt hline
    exact getElem?_assignLines_of_le (by omega)
  · rw [hlength]
    exact (run_addLines_fillsFrom hc hrows).symm

theorem perform_fillLines_of_ok {c : Composition} {text : String}
    {rows : List (List CellContent)}
    (h : readLines c.taal.totalMatras 1 (segments text) = .ok rows) :
    perform (.fillLines text) c =
      .ok () { c with lines := assignLines c.taal rows c.lines } := by
  rw [perform_eq, Editing.allOrNothing_eq_ok_iff, apply, fillLines, h]
  rfl

theorem perform_fillLines_of_error {c : Composition} {text : String} {e : LineFault}
    (h : readLines c.taal.totalMatras 1 (segments text) = .error e) :
    perform (.fillLines text) c = .error (.lines e) c := by
  rw [perform_eq, Editing.allOrNothing, apply, fillLines, h]
  rfl

end Composition

open Sargam.Composition in
/-- **Filling several lines is filling each of them.** A text has a part at least; its parts hold
no bars and are the text when they are joined by bars. If each of them can fill an empty line of
the taal, then filling the lines of a reachable composition succeeds with the number of parts as
the answer, and every part has filled its own line. Otherwise the first part that cannot is
reported, and the composition is left as it is. -/
theorem fillLines_fills_each (t : Taal) (lineCount : Nat) (edits : List Composition.Edit)
    (text : String) :
    let c := (Composition.new t lineCount).run edits
    let s : Session := ⟨some c⟩
    let parts := segments text
    (0 < parts.length ∧ "|".intercalate parts = text ∧ ∀ part ∈ parts, '|' ∉ part.toList) ∧
      ((∀ part ∈ parts, ∃ g, (Grid.new t).fill part = .ok g) →
        ∃ filled, Filled c parts filled ∧ perform (.fillLines text) c = .ok () filled ∧
          (s.step (.fillLines text)).1 = ⟨some filled⟩ ∧
          (s.step (.fillLines text)).2.result = .ok (.count parts.length)) ∧
      ((¬∀ part ∈ parts, ∃ g, (Grid.new t).fill part = .ok g) →
        ∃ e, FirstRefused t parts e ∧ perform (.fillLines text) c = .error (.lines e) c ∧
          (s.step (.fillLines text)).1 = s ∧
          (s.step (.fillLines text)).2.result = .error (.line e)) := by
  intro c s parts
  have hc : c.WellFormed t := wellFormed_run (wellFormed_new t lineCount) edits
  rw [← exists_readLines_iff, ← hc.taal_eq]
  refine ⟨⟨length_segments_pos text, intercalate_segments text,
    fun _ => bar_not_mem_of_mem_segments⟩, fun haccepted => ?_, fun hnot => ?_⟩
  · obtain ⟨rows, hrows⟩ := haccepted
    have hperform := perform_fillLines_of_ok hrows
    refine ⟨_, filled_of_readLines (hc.taal_eq.symm ▸ hc) hrows, hperform, ?_, ?_⟩
    · simp only [s, Session.step, Session.edit, hperform]
    · simp only [s, Session.step, Session.edit, hperform]
      rfl
  · cases hrows : readLines c.taal.totalMatras 1 parts with
    | ok rows => exact absurd ⟨rows, hrows⟩ hnot
    | error e =>
      have hperform := perform_fillLines_of_error hrows
      refine ⟨e, firstRefused_of_readLines hrows, hperform, ?_, ?_⟩
      · simp only [s, Session.step, Session.edit, hperform]
      · simp only [s, Session.step, Session.edit, hperform]
        rfl

open Sargam.Composition in
/-- A text with an empty part for a composition of one line, and a text whose second part holds an
unlawful note and whose third part an unknown one. -/
theorem fillLines_fills_each_dadra :
    let c := (Composition.new Taal.dadra 1).run [.onLine 1 (.fill "PA MA GA")]
    let filled := (Composition.new Taal.dadra 3).run
      [.onLine 1 (.setText 1 "SA"), .onLine 1 (.setText 2 "RE"), .onLine 3 (.distribute "NI+1")]
    let text := "SA RE || NI+1"
    let bad := "NI | PA_k | XX"
    let e : LineFault := ⟨2, .tokens [⟨1, "PA_k", .unlawful (.illegalModifier .pa .komal)⟩]⟩
    ((∀ part ∈ segments text, ∃ g, (Grid.new Taal.dadra).fill part = .ok g) ∧
      Filled c (segments text) filled ∧ perform (.fillLines text) c = .ok () filled ∧
      (Session.step ⟨some c⟩ (.fillLines text)).2.result = .ok (.count 3)) ∧
    ((¬∀ part ∈ segments bad, ∃ g, (Grid.new Taal.dadra).fill part = .ok g) ∧
      FirstRefused Taal.dadra (segments bad) e ∧
      perform (.fillLines bad) c = .error (.lines e) c) := by
  intro c filled text bad e
  have haccepted : ∀ part ∈ segments text, ∃ g, (Grid.new Taal.dadra).fill part = .ok g := by
    have hok : ∀ part ∈ segments text, ((Grid.new Taal.dadra).fill part).isOk = true := by
      decide +kernel
    intro part hpart
    have hpartOk := hok part hpart
    cases hfill : (Grid.new Taal.dadra).fill part with
    | error fault =>
      rw [hfill] at hpartOk
      cases hpartOk
    | ok g => exact ⟨g, rfl⟩
  have hnot : ¬∀ part ∈ segments bad, ∃ g, (Grid.new Taal.dadra).fill part = .ok g := by
    have hfails : ((Grid.new Taal.dadra).fill " PA_k ").isOk = false := by decide +kernel
    intro h
    obtain ⟨g, hg⟩ := h " PA_k " (by decide +kernel)
    rw [hg] at hfails
    cases hfails
  have hfilled : perform (.fillLines text) c = .ok () filled := by decide +kernel
  have hrefused : perform (.fillLines bad) c = .error (.lines e) c := by decide +kernel
  have hlength : (segments text).length = 3 := by decide +kernel
  obtain ⟨made, hmade, hperform, -, hresult⟩ :=
    (fillLines_fills_each Taal.dadra 1 [.onLine 1 (.fill "PA MA GA")] text).2.1 haccepted
  obtain ⟨first, hfirst, hperform', -⟩ :=
    (fillLines_fills_each Taal.dadra 1 [.onLine 1 (.fill "PA MA GA")] bad).2.2 hnot
  rw [hlength] at hresult
  have hmade_eq : made = filled := (EStateM.Result.ok.inj (hperform.symm.trans hfilled)).2
  have hfirst_eq : first = e :=
    Refusal.lines.inj (EStateM.Result.error.inj (hperform'.symm.trans hrefused)).1
  rw [hmade_eq] at hmade
  rw [hfirst_eq] at hfirst
  exact ⟨⟨haccepted, hmade, hfilled, hresult⟩, hnot, hfirst, hrefused⟩

end Sargam
