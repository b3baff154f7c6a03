import Sargam.Composition.Editing

/-!
# Remarks

Reading music and filling lines leaves remarks for whoever traces it: which words were refused, how
many swaras were read, how many cells were filled. They are told beside the result, to a log of
their own, and nothing is decided by them. A word that a running line refuses is reported but not
remarked on.

* `Remark`: a remark for the log.
* `readingRemarks`, `CellContent.remarks`: those on reading a sequence, and on what is typed into a
  cell.
* `Grid.remarks`, `Composition.remarks`: those on an edit, from the value that it is made of.
* `filter_warns_readingRemarks`: the remarks that warn are those on refused words.
-/

namespace Sargam

/-- How much a remark matters. -/
inductive Remark.Level where
  | debug | warn
  deriving DecidableEq, Repr

/-- A remark for the log. -/
structure Remark where
  level : Remark.Level
  message : String
  deriving DecidableEq, Repr

/-- The remark on a refused word. -/
def Rejection.remark (r : Rejection) : Remark := ⟨.warn, "rejected " ++ r.message⟩

/-- The remarks on reading a sequence: one for each word that is refused, or else how many swaras
there are. -/
def readingRemarks (text : String) : List Remark :=
  match parseSequence text with
  | .error refused => refused.map Rejection.remark
  | .ok swaras => [⟨.debug, s!"parsed {swaras.length} swara(s)"⟩]

/-- The remarks on reading what is typed into a cell. A sustain sign is no sequence. -/
def CellContent.remarks (text : String) : List Remark :=
  let typed := Text.trim text
  if typed = sustainSign then [] else readingRemarks typed

namespace Grid

/-- The remark on filling the cells of a grid. -/
def fillingRemark (g : Grid) (contents : Nat) : Remark :=
  ⟨.debug, s!"filled {contents} of {g.cells.length} matras"⟩

/-- The remarks on an edit of a grid. -/
def remarks (g : Grid) : Edit → List Remark
  | .setText position text => if g.HasPosition position then CellContent.remarks text else []
  | .fill text =>
    match readCells g.cells.length text with
    | .error _ => []
    | .ok contents => [g.fillingRemark contents.length]
  | .distribute text =>
    readingRemarks text ++
      match parseSequence text with
      | .error _ => []
      | .ok swaras => [g.fillingRemark (Sargam.distribute swaras g.cells.length).length]
  | .setCell .. | .clear => []

end Grid

namespace Composition

/-- The remarks on an edit of a composition. -/
def remarks (c : Composition) : Edit → List Remark
  | .fillLines text =>
    match readLines c.taal.totalMatras 1 (segments text) with
    | .error _ => []
    | .ok rows =>
      let lines := c.lines ++ List.replicate (rows.length - c.lines.length) (Grid.new c.taal)
      (lines.zip rows).map fun (g, contents) => g.fillingRemark contents.length
  | .onLine line edit =>
    match c.line? line with
    | none => []
    | some g => g.remarks edit
  | .addLine | .removeLine | .clear => []

end Composition

/-! ## Remarks that warn -/

/-- Whether a remark warns. -/
def Remark.warns (r : Remark) : Bool := r.level = .warn

/-- The remarks on a sequence that warn are those on refused words. -/
theorem filter_warns_readingRemarks (text : String) :
    (readingRemarks text).filter Remark.warns =
      match parseSequence text with
      | .error refused => refused.map Rejection.remark
      | .ok _ => [] := by
  unfold readingRemarks
  cases parseSequence text with
  | error refused =>
    refine List.filter_eq_self.mpr fun remark h => ?_
    obtain ⟨rejection, -, rfl⟩ := List.mem_map.mp h
    rfl
  | ok swaras => rfl

theorem filter_warns_readingRemarks_of_ok {text : String} {swaras : List Swara}
    (h : parseSequence text = .ok swaras) : (readingRemarks text).filter Remark.warns = [] := by
  rw [filter_warns_readingRemarks, h]

theorem CellContent.filter_warns_remarks {text : String} {content : CellContent}
    (h : CellContent.parse text = .ok content) :
    (CellContent.remarks text).filter Remark.warns = [] := by
  simp only [parse, remarks] at h ⊢
  by_cases hsustain : Text.trim text = sustainSign
  · rw [if_pos hsustain]
    rfl
  · rw [if_neg hsustain] at h ⊢
    cases hread : parseSequence (Text.trim text) with
    | error refused =>
      rw [hread] at h
      cases h
    | ok swaras => exact filter_warns_readingRemarks_of_ok hread

/-- An edit that can be made is remarked on without a warning. -/
theorem Grid.filter_warns_remarks {g edited : Grid} {edit : Edit}
    (h : g.apply edit = .ok edited) : (g.remarks edit).filter Remark.warns = [] := by
  cases edit with
  | setCell position content => rfl
  | setText position text =>
    simp only [apply, setText, remarks] at h ⊢
    by_cases hposition : g.HasPosition position
    · rw [if_pos hposition] at h ⊢
      cases hread : CellContent.parse text with
      | error refused =>
        rw [hread] at h
        cases h
      | ok content => exact CellContent.filter_warns_remarks hread
    · rw [if_neg hposition]
      rfl
  | fill text =>
    simp only [remarks]
    cases readCells g.cells.length text <;> rfl
  | distribute text =>
    simp only [apply, Grid.distribute, remarks] at h ⊢
    cases hread : parseSequence text with
    | error refused =>
      rw [hread] at h
      cases h
    | ok swaras =>
      rw [List.filter_append, filter_warns_readingRemarks_of_ok hread]
      rfl
  | clear => rfl

theorem Composition.filter_warns_remarks {c edited : Composition} {edit : Edit}
    (h : c.apply edit = .ok edited) : (c.remarks edit).filter Remark.warns = [] := by
  cases edit with
  | addLine | removeLine | clear => rfl
  | fillLines text =>
    simp only [remarks]
    cases readLines c.taal.totalMatras 1 (segments text) with
    | error fault => rfl
    | ok rows =>
      refine List.filter_eq_nil_iff.mpr fun remark hremark => ?_
      obtain ⟨⟨g, contents⟩, -, rfl⟩ := List.mem_map.mp hremark
      exact Bool.false_ne_true
  | onLine line change =>
    simp only [apply, remarks] at h ⊢
    cases hline : c.line? line with
    | none => rfl
    | some g =>
      rw [hline] at h
      cases hchange : g.apply change with
      | error fault =>
        simp only [hchange] at h
        cases h
      | ok changed => exact Grid.filter_warns_remarks hchange

end Sargam
