import Sargam.Composition.Editing

/-!
# Editing in place is all or nothing

Edits are made on the cells and lines themselves, and nothing is taken back when one of them
fails. They all look at what they are given before they change anything, so what they do in
place is what `Grid.apply` and `Composition.apply` say of whole values.

* `Grid.replace_run`: emptying a grid and filling it cell by cell is `Grid.assign`.
* `Grid.perform_eq`: an edit of a grid turns it into the result of `Grid.apply`, or fails and
  leaves it as it is.
* `Composition.replaceFrom_run`: filling line after line is `Composition.assignLines`, once
  there are lines enough.
* `Composition.perform_eq`: the same for the edits of a composition.
-/

namespace Sargam

/-! ## Running changes -/

namespace Editing

variable {ε σ α β : Type}

theorem bind_ok {change : Editing ε σ α} {next : α → Editing ε σ β} {s changed : σ} {a : α}
    (h : change s = .ok a changed) : (change >>= next) s = next a changed := by
  show EStateM.bind change next s = next a changed
  simp only [EStateM.bind, h]

theorem bind_error {change : Editing ε σ α} {next : α → Editing ε σ β} {s left : σ} {fault : ε}
    (h : change s = .error fault left) : (change >>= next) s = .error fault left := by
  show EStateM.bind change next s = .error fault left
  simp only [EStateM.bind, h]

theorem bind_eq_ok_iff {change : Editing ε σ α} {next : α → Editing ε σ β} {s changed : σ} {b : β} :
    (change >>= next) s = .ok b changed ↔
      ∃ a between, change s = .ok a between ∧ next a between = .ok b changed := by
  constructor
  · intro hbind
    cases h : change s with
    | ok a between => exact ⟨a, between, rfl, (bind_ok h).symm.trans hbind⟩
    | error fault left =>
      rw [bind_error h] at hbind
      cases hbind
  · rintro ⟨a, between, hchange, hnext⟩
    exact (bind_ok hchange).trans hnext

theorem allOrNothing_eq_ok_iff {result : σ → Except ε σ} {s changed : σ} :
    allOrNothing result s = .ok () changed ↔ result s = .ok changed := by
  unfold allOrNothing
  cases result s with
  | ok made => simp
  | error fault => simp

theorem allOrNothing_eq_error_iff {result : σ → Except ε σ} {s : σ} {fault : ε} :
    allOrNothing result s = .error fault s ↔ result s = .error fault := by
  unfold allOrNothing
  cases result s with
  | ok made => simp
  | error other => simp

theorem get_bind (next : σ → Editing ε σ β) (s : σ) : (get >>= next) s = next s s := rfl

theorem left_of_ok {change : Editing ε σ Unit} {s changed : σ} (h : change s = .ok () changed) :
    change.left s = changed := by
  rw [left, h]

theorem leftAfter_append {ι : Type} (perform : ι → Editing ε σ Unit) (s : σ)
    (edits more : List ι) :
    leftAfter perform s (edits ++ more) = leftAfter perform (leftAfter perform s edits) more := by
  induction edits generalizing s with
  | nil => rfl
  | cons edit rest ih => exact ih ((perform edit).left s)

end Editing

/-! ## Grids -/

namespace Grid

theorem checkPosition_of_hasPosition {g : Grid} {position : Nat} (h : g.HasPosition position) :
    checkPosition position g = .ok () g := by
  simp only [checkPosition, Editing.get_bind, h]
  rfl

theorem checkPosition_of_not_hasPosition {g : Grid} {position : Nat}
    (h : ¬ g.HasPosition position) :
    checkPosition position g = .error (.position ⟨position, g.cells.length⟩) g := by
  simp only [checkPosition, Editing.get_bind, h]
  rfl

theorem placeCell_eq (position : Nat) (content : CellContent) :
    placeCell position content =
      Editing.allOrNothing fun g => (g.setCell position content).mapError .position := by
  funext g
  by_cases h : g.HasPosition position
  · rw [placeCell, Editing.bind_ok (checkPosition_of_hasPosition h)]
    simp only [Editing.allOrNothing, setCell, h, if_true]
    rfl
  · rw [placeCell, Editing.bind_error (checkPosition_of_not_hasPosition h)]
    simp only [Editing.allOrNothing, setCell, h, if_false]
    rfl

theorem placeText_eq (position : Nat) (text : String) :
    placeText position text = Editing.allOrNothing fun g => g.setText position text := by
  funext g
  by_cases h : g.HasPosition position
  · rw [placeText, Editing.bind_ok (checkPosition_of_hasPosition h)]
    simp only [Editing.allOrNothing, setText, h, if_true]
    cases CellContent.parse text with
    | error rejections => rfl
    | ok content => exact congrFun (placeCell_eq position content) g
  · rw [placeText, Editing.bind_error (checkPosition_of_not_hasPosition h)]
    simp only [Editing.allOrNothing, setText, h, if_false]

/-- Filling from a position on replaces the cells there, as far as there are cells. -/
theorem putFrom_run (t : Taal) (index : Nat) (contents cells : List CellContent) :
    putFrom (index + 1) contents ⟨t, cells⟩ =
      .ok () ⟨t, cells.take index ++ (contents.take (cells.length - index)
        ++ cells.drop (index + contents.length))⟩ := by
  induction contents generalizing index cells with
  | nil =>
    simp only [List.take_nil, List.length_nil, Nat.add_zero, List.nil_append,
      List.take_append_drop]
    rfl
  | cons content rest ih =>
    have hput : putFrom (index + 1) (content :: rest) ⟨t, cells⟩ =
        putFrom (index + 1 + 1) rest ⟨t, cells.set index content⟩ := rfl
    have hdrop : (cells.set index content).drop (index + 1 + rest.length) =
        cells.drop (index + (rest.length + 1)) := by
      rw [List.drop_set_of_lt (by omega)]
      congr 1
      omega
    rw [hput, ih, hdrop, List.length_set, List.length_cons]
    by_cases hindex : index < cells.length
    · have htake : (cells.set index content).take (index + 1) =
          cells.take index ++ [content] := by
        rw [List.take_add_one, List.take_set_of_le (Nat.le_refl _)]
        simp [hindex]
      have hroom : cells.length - index = cells.length - (index + 1) + 1 := by omega
      rw [htake, hroom, List.take_succ_cons, List.append_assoc]
      rfl
    · -- Beyond the last cell nothing is put anywhere.
      have hbefore : cells.take index = cells := List.take_of_length_le (by omega)
      have hbefore' : cells.take (index + 1) = cells := List.take_of_length_le (by omega)
      have hroom : cells.length - index = 0 := by omega
      have hroom' : cells.length - (index + 1) = 0 := by omega
      rw [List.set_eq_of_length_le (by omega), hbefore, hbefore', hroom, hroom', List.take_zero,
        List.take_zero]

/-- Emptying a grid and filling it cell by cell is the assignment of new contents. -/
theorem replace_run (contents : List CellContent) (g : Grid) :
    replace contents g = .ok () (g.assign contents) := by
  have hput := putFrom_run g.taal 0 contents (g.cells.map fun _ => .empty)
  have hempty : (g.cells.map fun _ => CellContent.empty).drop (0 + contents.length) =
      List.replicate (g.cells.length - contents.length) .empty := by
    rw [List.map_const', List.drop_replicate, Nat.zero_add]
  rw [hempty, List.take_zero, List.nil_append, List.length_map, Nat.sub_zero] at hput
  exact hput

/-- An edit made in place turns a grid into the result of the edit, or fails and leaves the grid
as it is. -/
theorem perform_eq (edit : Edit) : perform edit = Editing.allOrNothing (apply · edit) := by
  funext g
  cases edit with
  | setCell position content => exact congrFun (placeCell_eq position content) g
  | setText position text => exact congrFun (placeText_eq position text) g
  | fill text =>
    simp only [perform, Editing.get_bind, Editing.allOrNothing, apply, fill]
    cases readCells g.cells.length text with
    | error fault => rfl
    | ok contents => exact replace_run contents g
  | distribute text =>
    simp only [perform, Editing.allOrNothing, apply, distribute]
    cases parseSequence text with
    | error rejections => rfl
    | ok swaras => exact replace_run _ g
  | clear => rfl

end Grid

/-! ## Compositions -/

namespace Composition

theorem addLines_run (count : Nat) (c : Composition) :
    addLines count c =
      .ok () { c with lines := c.lines ++ List.replicate count (Grid.new c.taal) } := by
  induction count generalizing c with
  | zero => simp [addLines, pure, EStateM.pure]
  | succ count ih =>
    have hadd : addLines (count + 1) c = addLines count c.addLine := rfl
    rw [hadd, ih, addLine, List.append_assoc, List.replicate_succ]
    rfl

/-- Replacing line after line from a number on. The lines before that number are kept apart, and
there has to be a line for each row of contents. -/
theorem replaceFrom_run (t : Taal) (rows : List (List CellContent)) (before after : List Grid)
    (h : rows.length ≤ after.length) :
    replaceFrom (before.length + 1) rows ⟨t, before ++ after⟩ =
      .ok () ⟨t, before ++ assignLines t rows after⟩ := by
  induction rows generalizing before after with
  | nil => rfl
  | cons contents rest ih =>
    cases after with
    | nil => simp at h
    | cons g after =>
      have hline : atLine (before.length + 1) (Grid.replace contents) ⟨t, before ++ g :: after⟩ =
          .ok () ⟨t, (before ++ [g.assign contents]) ++ after⟩ := by
        simp [atLine, line?, setLine, Grid.replace_run]
      have hrest := ih (before ++ [g.assign contents]) after (by simpa using h)
      rw [List.length_append, List.length_singleton] at hrest
      rw [replaceFrom, Editing.bind_ok hline, hrest, assignLines, List.append_assoc]
      rfl

/-- Lines that are missing are added empty, whether before or while contents are assigned. -/
theorem assignLines_grown (t : Taal) (rows : List (List CellContent)) (lines : List Grid) :
    assignLines t rows (lines ++ List.replicate (rows.length - lines.length) (Grid.new t)) =
      assignLines t rows lines := by
  induction rows generalizing lines with
  | nil => simp [assignLines]
  | cons contents rest ih =>
    cases lines with
    | nil =>
      have hrest := ih []
      simp only [List.nil_append, List.length_nil, Nat.sub_zero] at hrest
      simp [assignLines, List.replicate_succ, hrest]
    | cons g lines => simp [assignLines, ih]

/-- A line with the grid that it has already is no change. -/
theorem setLine_of_line? {c : Composition} {line : Nat} {g : Grid} (h : c.line? line = some g) :
    c.setLine line g = c := by
  cases line with
  | zero => rfl
  | succ index =>
    obtain ⟨hindex, hg⟩ := List.getElem?_eq_some_iff.mp h
    simp only [setLine, ← hg, List.set_getElem_self]

theorem atLine_eq (line : Nat) (edit : Grid.Edit) :
    atLine line (Grid.perform edit) = Editing.allOrNothing (apply · (.onLine line edit)) := by
  funext c
  simp only [atLine, Editing.allOrNothing, apply, Grid.perform_eq]
  cases hline : c.line? line with
  | none => rfl
  | some g =>
    dsimp only
    cases g.apply edit with
    | error fault =>
      show EStateM.Result.error _ (c.setLine line g) = .error _ c
      rw [setLine_of_line? hline]
    | ok edited => rfl

/-- An edit made in place turns a composition into the result of the edit, or fails and leaves
the composition as it is. -/
theorem perform_eq (edit : Edit) : perform edit = Editing.allOrNothing (apply · edit) := by
  funext c
  cases edit with
  | addLine => rfl
  | removeLine =>
    simp only [perform, Editing.get_bind, Editing.allOrNothing, apply, removeLine?]
    by_cases h : c.lines.length ≤ 1
    · simp only [h, if_true]
      rfl
    · simp only [h, if_false]
      rfl
  | fillLines text =>
    simp only [perform, Editing.get_bind, Editing.allOrNothing, apply, fillLines]
    cases readLines c.taal.totalMatras 1 (segments text) with
    | error fault => rfl
    | ok rows =>
      have hgrow := addLines_run (rows.length - c.lines.length) c
      have hroom : rows.length ≤
          (c.lines ++ List.replicate (rows.length - c.lines.length) (Grid.new c.taal)).length := by
        simp only [List.length_append, List.length_replicate]
        omega
      have hfill := replaceFrom_run c.taal rows [] _ hroom
      simp only [List.length_nil, Nat.zero_add, List.nil_append, assignLines_grown] at hfill
      exact (Editing.bind_ok hgrow).trans hfill
  | clear => rfl
  | onLine line edit => exact congrFun (atLine_eq line edit) c

end Composition

end Sargam
