import Sargam.Proofs.TableColumns
import Sargam.Proofs.Unmarked

/-!
# Marks of music text

Drawing adds marks to the names of notes and nothing else. Which marks a note gets is said by its
modifier and its octave, letter for letter; in a sequence the notes keep their marks and bring no
others, as long as the separator has none of its own. So every mark can be counted from the notes
alone, and the width of the text is that of the names and the separators.

* `Swara.marks`: the marks of a drawn note.
* `marks_renderSequence`: the marks of drawn notes are those of each note in order.
* `Swara.count_upperDot`, `Swara.count_lowerDot`, `Swara.count_komalMark`, `Swara.count_mark`: how
  often a mark is among those of a note.
* `renderSequence_adds_marks`: the text without its marks, its width, and the number of each mark.
-/

namespace Sargam

open Text

variable {o : RenderOptions}

/-! ## Marks of one note -/

namespace Swara

/-- The marks of a drawn note: those of its modifier, then its dots. -/
def marks (o : RenderOptions) (s : Swara) : List Char :=
  nameMarks o s.base.name.length s.modifier ++ octaveDots s.octave

/-- A mark that is no dot is among the marks of a note as often as its modifier says. -/
theorem count_marks_of_ne {mark : Char} (hupper : mark ≠ upperDot) (hlower : mark ≠ lowerDot)
    (s : Swara) :
    (s.marks o).count mark = (nameMarks o s.base.name.length s.modifier).count mark := by
  have hdots : mark ∉ octaveDots s.octave := by
    intro hmem
    have hdot := List.eq_of_mem_replicate hmem
    split at hdot
    · exact hupper hdot
    · exact hlower hdot
  rw [marks, List.count_append, List.count_eq_zero.mpr hdots, Nat.add_zero]

theorem count_upperDot (s : Swara) : (s.marks o).count upperDot = s.octave.toNat := by
  have hname := (dot_not_mem_nameMarks (o := o) s.base.name.length s.modifier).1
  have hne : lowerDot ≠ upperDot := by decide
  rw [marks, List.count_append, List.count_eq_zero.mpr hname, Nat.zero_add, octaveDots]
  split
  · rw [List.count_replicate_self]
    omega
  · rw [List.count_replicate, if_neg (by simpa using hne)]
    omega

theorem count_lowerDot (s : Swara) : (s.marks o).count lowerDot = (-s.octave).toNat := by
  have hname := (dot_not_mem_nameMarks (o := o) s.base.name.length s.modifier).2
  have hne : upperDot ≠ lowerDot := by decide
  rw [marks, List.count_append, List.count_eq_zero.mpr hname, Nat.zero_add, octaveDots]
  split
  · rw [List.count_replicate, if_neg (by simpa using hne)]
    omega
  · rw [List.count_replicate_self]
    omega

theorem mark_ne (glyph : TivraGlyph) :
    glyph.mark ≠ upperDot ∧ glyph.mark ≠ lowerDot ∧ glyph.mark ≠ komalMark := by
  cases glyph <;> decide

theorem count_komalMark (s : Swara) : (s.marks o).count komalMark =
    if s.isKomal then underlined s.base.name.length o.komalStyle else 0 := by
  have hmark := (mark_ne o.tivraGlyph).2.2
  rw [count_marks_of_ne (by decide) (by decide), isKomal]
  cases s.modifier with
  | shuddha => rfl
  | tivra => simp [nameMarks, hmark]
  | komal => simp [nameMarks]

theorem mark_inj {a b : TivraGlyph} (h : a.mark = b.mark) : a = b := by
  revert h
  cases a <;> cases b <;> decide

/-- The mark of tivra is that of the glyph that was chosen, and no other. -/
theorem count_mark (glyph : TivraGlyph) (s : Swara) : (s.marks o).count glyph.mark =
    if s.isTivra ∧ glyph = o.tivraGlyph then 1 else 0 := by
  obtain ⟨hupper, hlower, hkomal⟩ := mark_ne glyph
  rw [count_marks_of_ne hupper hlower, isTivra]
  cases s.modifier with
  | shuddha => rfl
  | komal => simp [nameMarks, List.count_replicate, hkomal.symm]
  | tivra =>
    by_cases hglyph : glyph = o.tivraGlyph
    · simp [nameMarks, hglyph]
    · have hother : o.tivraGlyph.mark ≠ glyph.mark := fun h => hglyph (mark_inj h).symm
      simp [nameMarks, hglyph, hother]

theorem eq_of_mem_marks {s : Swara} {c : Char} (h : c ∈ s.marks o) :
    c = upperDot ∨ c = lowerDot ∨ c = komalMark ∨ c = o.tivraGlyph.mark := by
  rcases List.mem_append.mp h with hname | hdot
  · cases hmodifier : s.modifier with
    | shuddha =>
      rw [hmodifier] at hname
      cases hname
    | tivra =>
      rw [hmodifier] at hname
      exact .inr (.inr (.inr (List.mem_singleton.mp hname)))
    | komal =>
      rw [hmodifier] at hname
      exact .inr (.inr (.inl (List.eq_of_mem_replicate hname)))
  · have hdot := List.eq_of_mem_replicate hdot
    split at hdot
    · exact .inl hdot
    · exact .inr (.inl hdot)

end Swara

/-! ## Marks of several notes -/

theorem intercalate_nil_eq_flatten {α : Type} (parts : List (List α)) :
    ([] : List α).intercalate parts = parts.flatten := by
  induction parts with
  | nil => rfl
  | cons part rest ih =>
    by_cases hnil : rest = []
    · subst hnil
      simp
    · rw [List.intercalate_cons_of_ne_nil hnil, ih, List.flatten_cons, List.append_nil]

variable {separator : String}

theorem marks_renderSequence (h : ∀ c ∈ separator.toList, isCombiningMark c = false)
    (swaras : List Swara) :
    (renderSequence o separator swaras).toList.filter isCombiningMark =
      swaras.flatMap (Swara.marks o) := by
  have hseparator : separator.toList.filter isCombiningMark = [] :=
    List.filter_eq_nil_iff.mpr fun c hc => by simp [h c hc]
  have hnotes : (((swaras.map (Swara.render o)).map String.toList).map
      (List.filter isCombiningMark)) = swaras.map (Swara.marks o) := by
    rw [List.map_map, List.map_map]
    refine List.map_congr_left fun s _ => ?_
    rw [Function.comp_apply, Function.comp_apply, Swara.render, String.toList_ofList,
      Swara.marks_renderChars, Swara.marks]
  rw [renderSequence, String.toList_intercalate, filter_intercalate, hseparator, hnotes,
    intercalate_nil_eq_flatten, List.flatMap_def]

theorem count_renderSequence (h : ∀ c ∈ separator.toList, isCombiningMark c = false)
    (swaras : List Swara) {mark : Char} (hmark : isCombiningMark mark = true) :
    (renderSequence o separator swaras).toList.count mark =
      (swaras.map fun s => (s.marks o).count mark).sum := by
  rw [← List.count_filter hmark, marks_renderSequence h, List.count_flatMap]
  rfl

theorem sum_map_ite (keep : Swara → Bool) (size : Swara → Nat) (swaras : List Swara) :
    (swaras.map fun s => if keep s then size s else 0).sum =
      ((swaras.filter keep).map size).sum := by
  induction swaras with
  | nil => rfl
  | cons s rest ih =>
    rw [List.map_cons, List.sum_cons, ih]
    by_cases hkeep : keep s = true
    · rw [if_pos hkeep, List.filter_cons_of_pos hkeep, List.map_cons, List.sum_cons]
    · rw [if_neg hkeep, List.filter_cons_of_neg hkeep, Nat.zero_add]

theorem sum_map_one (keep : Swara → Bool) (swaras : List Swara) :
    (swaras.map fun s => if keep s then 1 else 0).sum = swaras.countP keep := by
  rw [sum_map_ite, List.map_const', List.sum_replicate_nat, Nat.mul_one,
    List.countP_eq_length_filter]

/-! ## Width -/

theorem visibleCount_of_visible {cs : List Char} (h : ∀ c ∈ cs, isCombiningMark c = false) :
    visibleCount cs = cs.length :=
  List.countP_eq_length.mpr fun c hc => by simp [isVisible, h c hc]

theorem visibleLength_render (s : Swara) : visibleLength (s.render o) = s.base.name.length := by
  rw [visibleLength, ← visibleCount_filter, Swara.render, String.toList_ofList,
    Swara.letters_renderChars, ← String.length_toList]
  exact visibleCount_of_visible fun c hc =>
    Swara.isCombiningMark_eq_false (Swara.isVisible_of_mem_name c hc)

theorem visibleLength_renderSequence (h : ∀ c ∈ separator.toList, isCombiningMark c = false)
    (swaras : List Swara) :
    visibleLength (renderSequence o separator swaras) =
      (swaras.map fun s => s.base.name.length).sum + (swaras.length - 1) * separator.length := by
  have hnotes : ((swaras.map (Swara.render o)).map String.toList).map visibleCount =
      swaras.map fun s => s.base.name.length := by
    rw [List.map_map, List.map_map]
    exact List.map_congr_left fun s _ => visibleLength_render s
  rw [visibleLength, renderSequence, String.toList_intercalate, visibleCount_intercalate, hnotes,
    visibleCount_of_visible h, String.length_toList, List.length_map, List.length_map,
    Nat.mul_comm]

/-- **Drawing adds its marks and no width.** A separator without marks is given. Without its marks
the drawing of swaras is their names with the separators between them, and it is as wide as that.
There is an upper dot for each octave above the middle one, a lower dot for each octave below it,
a line for each flat note or for each letter of a flat note, as was chosen, and the chosen mark
for each sharp note. There are no other marks. -/
theorem renderSequence_adds_marks (o : RenderOptions) (separator : String)
    (h : ∀ c ∈ separator.toList, isCombiningMark c = false) (swaras : List Swara) :
    let text := renderSequence o separator swaras
    unmark text = separator.intercalate (swaras.map fun s => s.base.name) ∧
    visibleLength text =
      (swaras.map fun s => s.base.name.length).sum + (swaras.length - 1) * separator.length ∧
    text.toList.count '\u0307' = (swaras.map fun s => s.octave.toNat).sum ∧
    text.toList.count '\u0323' = (swaras.map fun s => (-s.octave).toNat).sum ∧
    text.toList.count '\u0332' = (match o.komalStyle with
      | .finalLetter => swaras.countP Swara.isKomal
      | .everyLetter => ((swaras.filter Swara.isKomal).map fun s => s.base.name.length).sum) ∧
    (∀ glyph : TivraGlyph, text.toList.count glyph.mark =
      if glyph = o.tivraGlyph then swaras.countP Swara.isTivra else 0) ∧
    ∀ c ∈ text.toList, isCombiningMark c = true →
      c = '\u0307' ∨ c = '\u0323' ∨ c = '\u0332' ∨ c = o.tivraGlyph.mark := by
  intro text
  refine ⟨?_, visibleLength_renderSequence h swaras, ?_, ?_, ?_, fun glyph => ?_,
    fun c hc hmark => ?_⟩
  · have hseparator : unmark separator = separator := by
      have hall : separator.toList.filter isVisible = separator.toList :=
        List.filter_eq_self.mpr fun c hc => by simp [isVisible, h c hc]
      rw [unmark, hall, String.ofList_toList]
    rw [unmark_renderSequence, hseparator]
  · rw [count_renderSequence h swaras (by decide)]
    exact congrArg List.sum (List.map_congr_left fun s _ => s.count_upperDot)
  · rw [count_renderSequence h swaras (by decide)]
    exact congrArg List.sum (List.map_congr_left fun s _ => s.count_lowerDot)
  · rw [count_renderSequence h swaras (by decide),
      List.map_congr_left fun s _ => s.count_komalMark]
    cases o.komalStyle with
    | finalLetter => exact sum_map_one Swara.isKomal swaras
    | everyLetter => exact sum_map_ite Swara.isKomal _ swaras
  · rw [count_renderSequence h swaras (Swara.isCombiningMark_mark glyph),
      List.map_congr_left fun s _ => s.count_mark glyph]
    by_cases hglyph : glyph = o.tivraGlyph
    · simp only [hglyph, and_true, if_true]
      exact sum_map_one Swara.isTivra swaras
    · simp [hglyph]
  · have hmem : c ∈ swaras.flatMap (Swara.marks o) := by
      rw [← marks_renderSequence h, List.mem_filter]
      exact ⟨hc, hmark⟩
    obtain ⟨s, -, hmarks⟩ := List.mem_flatMap.mp hmem
    exact Swara.eq_of_mem_marks hmarks

/-- A flat RE below the middle octave, a sharp MA, and GA two octaves above the middle one. -/
theorem renderSequence_adds_marks_three :
    let o : RenderOptions := { tivraGlyph := .circumflex, komalStyle := .everyLetter }
    let swaras : List Swara := [⟨.re, .komal, -1, by decide, by decide, by decide⟩,
      ⟨.ma, .tivra, 0, by decide, by decide, by decide⟩,
      ⟨.ga, .shuddha, 2, by decide, by decide, by decide⟩]
    let text := renderSequence o " | " swaras
    unmark text = "RE | MA | GA" ∧ visibleLength text = 12 ∧ text.toList.count '\u0307' = 2 ∧
      text.toList.count '\u0323' = 1 ∧ text.toList.count '\u0332' = 2 ∧
      text.toList.count TivraGlyph.circumflex.mark = 1 ∧
      text.toList.count TivraGlyph.verticalLine.mark = 0 := by
  intro o swaras text
  have hseparator : ∀ c ∈ " | ".toList, isCombiningMark c = false := by
    simp [isCombiningMark]
  obtain ⟨hunmark, hwidth, hupper, hlower, hline, hglyph, -⟩ :=
    renderSequence_adds_marks o " | " hseparator swaras
  exact ⟨hunmark, hwidth, hupper, hlower, hline, hglyph .circumflex, hglyph .verticalLine⟩

end Sargam
