import Sargam.Proofs.Editing
import Sargam.Proofs.Outcome
import Sargam.Taal.Library

/-!
# Edits that have nothing to do with each other

Two edits made one after the other are made on different things: the second one finds what the
first has left behind, also if the first has failed half way. They may change places all the
same where neither touches what the other looks at. No edit of a grid changes how many cells
the grid has, and none of a line how many lines there are, so an edit of one line looks at that
line alone, and an edit of one cell, besides its own arguments, at the number of cells alone.

* `Editing.Independent`: two changes that leave the same behind and report the same in either
  order.
* `Grid.perform_eq_placing`: an edit of one cell places a content that is fixed before the grid
  is seen, or refuses to.
* `Composition.independent_onLine`, `Composition.independent_sameLine`: edits of two lines, and
  edits of one line that are independent on its grid.
* `independent_edits_commute`: edits of different lines, or of different cells of a line, are
  independent and touch nothing else; of two edits of one cell the later one decides.
-/

namespace Sargam

/-! ## Changes in either order -/

namespace Editing

variable {ε σ : Type}

/-- What a change reports: that it has been made, or why it has failed. -/
def report (change : Editing ε σ Unit) (s : σ) : Except ε Unit :=
  match change s with
  | .ok _ _ => .ok ()
  | .error fault _ => .error fault

/-- Two changes of `s` that may be made in either order: what they leave behind is the same, and
each of them reports what it reports without the other. -/
structure Independent (first second : Editing ε σ Unit) (s : σ) : Prop where
  left_comm : second.left (first.left s) = first.left (second.left s)
  report_first : first.report (second.left s) = first.report s
  report_second : second.report (first.left s) = second.report s

theorem left_allOrNothing_eq (result : σ → Except ε σ) (s : σ) :
    (allOrNothing result).left s = (result s).toOption.getD s := by
  unfold left allOrNothing
  cases result s <;> rfl

theorem report_allOrNothing (result : σ → Except ε σ) (s : σ) :
    (allOrNothing result).report s = (result s).map fun _ => () := by
  unfold report allOrNothing
  cases result s <;> rfl

theorem eq_ok_left_of_report {change : Editing ε σ Unit} {s : σ} (h : change.report s = .ok ()) :
    change s = .ok () (change.left s) := by
  unfold report at h
  unfold left
  cases hchange : change s with
  | ok _ _ => rfl
  | error fault _ =>
    rw [hchange] at h
    cases h

theorem report_of_ok {change : Editing ε σ Unit} {s changed : σ}
    (h : change s = .ok () changed) : change.report s = .ok () := by
  rw [report, h]

end Editing

open Editing (Independent)

/-! ## The cells of a grid -/

namespace Grid

/-- The position of the cell that an edit is for, if it is for one cell only. -/
def Edit.position? : Edit → Option Nat
  | .setCell position _ => some position
  | .setText position _ => some position
  | .fill _ | .distribute _ | .clear => none

/-- Puts a content, unless there is a fault with it, into the cell with a position. -/
def placing (position : Nat) (content : Except InputFault CellContent) :
    Editing InputFault Grid Unit :=
  Editing.allOrNothing fun g =>
    if g.HasPosition position then
      content.map fun content => { g with cells := g.cells.set (position - 1) content }
    else .error (.position ⟨position, g.cells.length⟩)

/-- An edit of one cell has its content, or the fault with it, before it sees the grid. -/
theorem perform_eq_placing {edit : Edit} {position : Nat} (h : edit.position? = some position) :
    ∃ content, perform edit = placing position content := by
  cases edit with
  | setCell p content =>
    cases h
    refine ⟨.ok content.normalize, (perform_eq _).trans (congrArg _ (funext fun g => ?_))⟩
    simp only [apply, setCell]
    by_cases hp : g.HasPosition position <;> simp only [hp, if_true, if_false] <;> rfl
  | setText p text =>
    cases h
    refine ⟨((CellContent.parse text).mapError .tokens).map CellContent.normalize,
      (perform_eq _).trans (congrArg _ (funext fun g => ?_))⟩
    simp only [apply, setText, setCell]
    by_cases hp : g.HasPosition position
    · simp only [hp, if_true]
      cases CellContent.parse text <;> rfl
    · simp only [hp, if_false]
  | fill text => cases h
  | distribute text => cases h
  | clear => cases h

variable {g : Grid} {p q : Nat} {content other : Except InputFault CellContent}

theorem left_placing_of_not_hasPosition (hp : ¬ g.HasPosition p) :
    (placing p content).left g = g := by
  rw [placing, Editing.left_allOrNothing_eq, if_neg hp]
  rfl

theorem left_placing_error {fault : InputFault} : (placing p (.error fault)).left g = g := by
  rw [placing, Editing.left_allOrNothing_eq]
  by_cases hp : g.HasPosition p
  · rw [if_pos hp]
    rfl
  · rw [if_neg hp]
    rfl

theorem left_placing_ok {made : CellContent} (hp : g.HasPosition p) :
    (placing p (.ok made)).left g = { g with cells := g.cells.set (p - 1) made } := by
  rw [placing, Editing.left_allOrNothing_eq, if_pos hp]
  rfl

/-- Placing leaves the grid as it is, or sets the cell with the position. -/
theorem left_placing_cases (g : Grid) (p : Nat) (content : Except InputFault CellContent) :
    (placing p content).left g = g ∨
      g.HasPosition p ∧ ∃ made,
        (placing p content).left g = { g with cells := g.cells.set (p - 1) made } := by
  by_cases hp : g.HasPosition p
  · cases content with
    | error fault => exact .inl left_placing_error
    | ok made => exact .inr ⟨hp, made, left_placing_ok hp⟩
  · exact .inl (left_placing_of_not_hasPosition hp)

theorem taal_left_placing : ((placing p content).left g).taal = g.taal := by
  rcases left_placing_cases g p content with hsame | ⟨-, made, hset⟩
  · rw [hsame]
  · rw [hset]

theorem length_left_placing : ((placing p content).left g).cells.length = g.cells.length := by
  rcases left_placing_cases g p content with hsame | ⟨-, made, hset⟩
  · rw [hsame]
  · rw [hset]
    exact List.length_set

theorem hasPosition_left_placing :
    ((placing p content).left g).HasPosition q ↔ g.HasPosition q := by
  simp only [HasPosition, length_left_placing]

/-- What placing reports depends on the number of cells alone. -/
theorem report_placing (g : Grid) (p : Nat) (content : Except InputFault CellContent) :
    (placing p content).report g =
      if 1 ≤ p ∧ p ≤ g.cells.length then content.map fun _ => ()
      else .error (.position ⟨p, g.cells.length⟩) := by
  rw [placing, Editing.report_allOrNothing]
  by_cases hp : 1 ≤ p ∧ p ≤ g.cells.length
  · rw [if_pos hp, if_pos (show g.HasPosition p from hp)]
    cases content <;> rfl
  · rw [if_neg hp, if_neg (show ¬ g.HasPosition p from hp)]
    rfl

theorem report_placing_left_placing :
    (placing q other).report ((placing p content).left g) = (placing q other).report g := by
  rw [report_placing, report_placing, length_left_placing]

/-- Different positions are those of different cells. -/
theorem HasPosition.sub_one_ne (hp : g.HasPosition p) (hq : g.HasPosition q) (h : p ≠ q) :
    p - 1 ≠ q - 1 := by
  have := hp.1
  have := hq.1
  omega

theorem independent_placing (h : p ≠ q) :
    Independent (placing p content) (placing q other) g := by
  refine ⟨?_, report_placing_left_placing, report_placing_left_placing⟩
  by_cases hp : g.HasPosition p
  · by_cases hq : g.HasPosition q
    · cases content with
      | error fault => rw [left_placing_error, left_placing_error]
      | ok made =>
        cases other with
        | error fault => rw [left_placing_error, left_placing_error]
        | ok later =>
          rw [left_placing_ok (hasPosition_left_placing.mpr hq), left_placing_ok hp,
            left_placing_ok (hasPosition_left_placing.mpr hp), left_placing_ok hq]
          exact congrArg (Grid.mk g.taal) (List.set_comm _ _ (hp.sub_one_ne hq h))
    · rw [left_placing_of_not_hasPosition (mt hasPosition_left_placing.mp hq),
        left_placing_of_not_hasPosition hq]
  · rw [left_placing_of_not_hasPosition hp,
      left_placing_of_not_hasPosition (mt hasPosition_left_placing.mp hp)]

theorem cell_left_placing (h : q ≠ p) : ((placing p content).left g).cell q = g.cell q := by
  rcases left_placing_cases g p content with hsame | ⟨hp, made, hset⟩
  · rw [hsame]
  · rw [hset]
    by_cases hq : g.HasPosition q
    · have hq' : (Grid.mk g.taal (g.cells.set (p - 1) made)).HasPosition q := by
        rwa [HasPosition, List.length_set]
      rw [cell, dif_pos hq', cell, dif_pos hq]
      exact congrArg Except.ok (List.getElem_set_ne (hp.sub_one_ne hq h.symm) _)
    · have hq' : ¬ (Grid.mk g.taal (g.cells.set (p - 1) made)).HasPosition q := by
        rwa [HasPosition, List.length_set]
      rw [cell, dif_neg hq', cell, dif_neg hq, List.length_set]

/-- What was placed before does not matter to a cell into which another content is put. -/
theorem left_placing_left_placing (h : (placing p other).report g = .ok ()) :
    (placing p other).left ((placing p content).left g) = (placing p other).left g := by
  rw [report_placing] at h
  split at h
  case isFalse => cases h
  case isTrue hp =>
    cases other with
    | error fault => cases h
    | ok later =>
      rw [left_placing_ok (hasPosition_left_placing.mpr hp), left_placing_ok hp]
      rcases left_placing_cases g p content with hsame | ⟨-, made, hset⟩
      · rw [hsame]
      · rw [hset]
        exact congrArg (Grid.mk g.taal) (List.set_set _)

end Grid

/-! ## The lines of a composition -/

namespace Composition

variable {c : Composition} {line other : Nat} {edit change : Grid.Edit} {g h : Grid}

theorem taal_setLine : (c.setLine line g).taal = c.taal := by
  cases line <;> rfl

theorem length_setLine : (c.setLine line g).lines.length = c.lines.length := by
  cases line with
  | zero => rfl
  | succ index => exact List.length_set

theorem line?_setLine_of_ne (hne : other ≠ line) :
    (c.setLine line g).line? other = c.line? other := by
  cases line with
  | zero => rfl
  | succ index =>
    cases other with
    | zero => rfl
    | succ place => exact List.getElem?_set_ne (by omega)

theorem line?_setLine (hline : c.line? line = some g) : (c.setLine line h).line? line = some h := by
  cases line with
  | zero => cases hline
  | succ index => exact List.getElem?_set_self (List.getElem?_eq_some_iff.mp hline).1

theorem setLine_comm (hne : line ≠ other) :
    (c.setLine line g).setLine other h = (c.setLine other h).setLine line g := by
  cases line with
  | zero => rfl
  | succ index =>
    cases other with
    | zero => rfl
    | succ place => exact congrArg (Composition.mk c.taal) (List.set_comm _ _ (by omega))

theorem setLine_setLine : (c.setLine line g).setLine line h = c.setLine line h := by
  cases line with
  | zero => rfl
  | succ index => exact congrArg (Composition.mk c.taal) (List.set_set _)

theorem left_onLine_of_none (hline : c.line? line = none) :
    (perform (.onLine line edit)).left c = c := by
  simp only [perform, Editing.left, atLine, hline]

/-- An edit of a line leaves there what it leaves of the grid. -/
theorem left_onLine_of_some (hline : c.line? line = some g) :
    (perform (.onLine line edit)).left c = c.setLine line ((Grid.perform edit).left g) := by
  simp only [perform, Editing.left, atLine, hline]
  cases Grid.perform edit g with
  | ok _ edited => rfl
  | error fault left => rfl

theorem report_onLine_of_none (hline : c.line? line = none) :
    (perform (.onLine line edit)).report c = .error (.noLine line) := by
  simp only [perform, Editing.report, atLine, hline]

theorem report_onLine_of_some (hline : c.line? line = some g) :
    (perform (.onLine line edit)).report c = ((Grid.perform edit).report g).mapError .cell := by
  simp only [perform, Editing.report, atLine, hline]
  cases Grid.perform edit g with
  | ok _ edited => rfl
  | error fault left => rfl

/-- What an edit of a line reports depends on the grid of that line alone. -/
theorem report_onLine_congr {d : Composition} (hline : d.line? line = c.line? line) :
    (perform (.onLine line edit)).report d = (perform (.onLine line edit)).report c := by
  cases hc : c.line? line with
  | none => rw [report_onLine_of_none hc, report_onLine_of_none (hline.trans hc)]
  | some g => rw [report_onLine_of_some hc, report_onLine_of_some (hline.trans hc)]

theorem taal_left_onLine : ((perform (.onLine line edit)).left c).taal = c.taal := by
  cases hline : c.line? line with
  | none => rw [left_onLine_of_none hline]
  | some g => rw [left_onLine_of_some hline, taal_setLine]

theorem length_left_onLine :
    ((perform (.onLine line edit)).left c).lines.length = c.lines.length := by
  cases hline : c.line? line with
  | none => rw [left_onLine_of_none hline]
  | some g => rw [left_onLine_of_some hline, length_setLine]

theorem line?_left_onLine_of_ne (hne : other ≠ line) :
    ((perform (.onLine line edit)).left c).line? other = c.line? other := by
  cases hline : c.line? line with
  | none => rw [left_onLine_of_none hline]
  | some g => rw [left_onLine_of_some hline, line?_setLine_of_ne hne]

theorem line?_left_onLine (hline : c.line? line = some g) :
    ((perform (.onLine line edit)).left c).line? line = some ((Grid.perform edit).left g) := by
  rw [left_onLine_of_some hline, line?_setLine hline]

/-- Edits of different lines are independent. -/
theorem independent_onLine (hne : line ≠ other) :
    Independent (perform (.onLine line edit)) (perform (.onLine other change)) c := by
  refine ⟨?_, ?_, ?_⟩
  · cases hline : c.line? line with
    | none =>
      rw [left_onLine_of_none hline,
        left_onLine_of_none ((line?_left_onLine_of_ne hne).trans hline)]
    | some g =>
      have hline' : ((perform (.onLine other change)).left c).line? line = some g :=
        (line?_left_onLine_of_ne hne).trans hline
      cases hother : c.line? other with
      | none =>
        rw [left_onLine_of_none ((line?_left_onLine_of_ne hne.symm).trans hother),
          left_onLine_of_none hother]
      | some h =>
        rw [left_onLine_of_some ((line?_left_onLine_of_ne hne.symm).trans hother),
          left_onLine_of_some hline, left_onLine_of_some hline', left_onLine_of_some hother]
        exact setLine_comm hne
  · exact report_onLine_congr (line?_left_onLine_of_ne hne)
  · exact report_onLine_congr (line?_left_onLine_of_ne hne.symm)

/-- Edits of a line are independent if they are so on its grid. -/
theorem independent_sameLine
    (hgrid : ∀ g, c.line? line = some g →
      Independent (Grid.perform edit) (Grid.perform change) g) :
    Independent (perform (.onLine line edit)) (perform (.onLine line change)) c := by
  cases hline : c.line? line with
  | none =>
    refine ⟨?_, ?_, ?_⟩ <;> simp only [left_onLine_of_none hline]
  | some g =>
    obtain ⟨hleft, hfirst, hsecond⟩ := hgrid g hline
    refine ⟨?_, ?_, ?_⟩
    · rw [left_onLine_of_some (line?_left_onLine hline),
        left_onLine_of_some (line?_left_onLine hline), left_onLine_of_some hline,
        left_onLine_of_some hline, setLine_setLine, setLine_setLine, hleft]
    · rw [report_onLine_of_some (line?_left_onLine hline), report_onLine_of_some hline, hfirst]
    · rw [report_onLine_of_some (line?_left_onLine hline), report_onLine_of_some hline, hsecond]

/-- An edit of a cell that is made after an edit of the same cell is made as it would have been
without it. -/
theorem perform_after_sameCell {first later : Grid.Edit} {p : Nat} {final : Composition}
    (hfirst : first.position? = some p) (hlater : later.position? = some p)
    (h : perform (.onLine line later) ((perform (.onLine line first)).left c) = .ok () final) :
    perform (.onLine line later) c = .ok () final := by
  obtain ⟨content, hcontent⟩ := Grid.perform_eq_placing hfirst
  obtain ⟨other, hother⟩ := Grid.perform_eq_placing hlater
  cases hline : c.line? line with
  | none => rwa [left_onLine_of_none hline] at h
  | some g =>
    have hmade := Editing.report_of_ok h
    rw [report_onLine_of_some (line?_left_onLine hline), Except.mapError_eq_ok_iff, hcontent,
      hother, Grid.report_placing_left_placing] at hmade
    have hreport : (perform (.onLine line later)).report c = .ok () := by
      rw [report_onLine_of_some hline, hother, Except.mapError_eq_ok_iff]
      exact hmade
    have hleft : (perform (.onLine line later)).left c = final := by
      rw [← Editing.left_of_ok h, left_onLine_of_some (line?_left_onLine hline),
        left_onLine_of_some hline, left_onLine_of_some hline, setLine_setLine, hcontent, hother,
        Grid.left_placing_left_placing hmade]
    rw [Editing.eq_ok_left_of_report hreport, hleft]

end Composition

/-! ## Independent edits -/

/-- **Independent edits commute and touch nothing else.** Edits of different lines may change
places, and each leaves the number of lines and every other line as it is. So may edits of
different cells of a line, and each leaves every other cell of the line as it is. Of two edits
of one cell the later one, if it is made, decides alone. -/
theorem independent_edits_commute (c : Composition) :
    (∀ (line other : Nat) (edit change : Grid.Edit), line ≠ other →
      Independent (Composition.perform (.onLine line edit))
        (Composition.perform (.onLine other change)) c) ∧
    (∀ (line : Nat) (edit : Grid.Edit),
      let left := (Composition.perform (.onLine line edit)).left c
      left.taal = c.taal ∧ left.lines.length = c.lines.length ∧
        ∀ other, other ≠ line → left.line? other = c.line? other) ∧
    (∀ (line p q : Nat) (edit change : Grid.Edit), edit.position? = some p →
      change.position? = some q → p ≠ q →
        Independent (Composition.perform (.onLine line edit))
          (Composition.perform (.onLine line change)) c) ∧
    (∀ (line p : Nat) (edit : Grid.Edit) (g : Grid), edit.position? = some p →
      c.line? line = some g → ∃ left,
        ((Composition.perform (.onLine line edit)).left c).line? line = some left ∧
        left.taal = g.taal ∧ left.cells.length = g.cells.length ∧
        ∀ other, other ≠ p → left.cell other = g.cell other) ∧
    (∀ (line p : Nat) (first later : Grid.Edit) (final : Composition),
      first.position? = some p → later.position? = some p →
      Composition.perform (.onLine line later)
        ((Composition.perform (.onLine line first)).left c) = .ok () final →
      Composition.perform (.onLine line later) c = .ok () final) := by
  refine ⟨?lines, ?frame, ?cells, ?cellFrame, ?sameCell⟩
  case lines => exact fun line other edit change hne => Composition.independent_onLine hne
  case frame =>
    exact fun line edit => ⟨Composition.taal_left_onLine, Composition.length_left_onLine,
      fun other hne => Composition.line?_left_onLine_of_ne hne⟩
  case cells =>
    intro line p q edit change hedit hchange hne
    obtain ⟨content, hcontent⟩ := Grid.perform_eq_placing hedit
    obtain ⟨other, hother⟩ := Grid.perform_eq_placing hchange
    refine Composition.independent_sameLine fun g _ => ?_
    rw [hcontent, hother]
    exact Grid.independent_placing hne
  case cellFrame =>
    intro line p edit g hedit hline
    obtain ⟨content, hcontent⟩ := Grid.perform_eq_placing hedit
    refine ⟨_, Composition.line?_left_onLine hline, ?_⟩
    rw [hcontent]
    exact ⟨Grid.taal_left_placing, Grid.length_left_placing,
      fun other hne => Grid.cell_left_placing hne⟩
  case sameCell =>
    exact fun line p first later final hfirst hlater h =>
      Composition.perform_after_sameCell hfirst hlater h

/-- Two lines of dadra: a line that cannot be filled and a note typed into the last cell of the
other line; two cells of one line, one of which does not exist; a cell that is edited twice. -/
theorem independent_edits_dadra :
    let c := (Composition.new Taal.dadra 2).run [.fillLines "SA RE GA | MA"]
    let g := (Grid.new Taal.dadra).run [.fill "SA RE GA"]
    let final := (Composition.new Taal.dadra 2).run [.fillLines "SA - GA | MA"]
    let first := Composition.perform (.onLine 1 (.setText 2 "NI+1"))
    let later := Composition.perform (.onLine 1 (.setCell 2 .sustain))
    (Composition.perform (.onLine 1 (.fill "SA XX")) c =
        .error (.cell (.tokens [⟨2, "XX", .unknownNote "XX"⟩])) c ∧
      Independent (Composition.perform (.onLine 1 (.fill "SA XX")))
        (Composition.perform (.onLine 2 (.setText 6 "PA"))) c) ∧
    (Composition.perform (.onLine 1 (.setText 7 "SA")) c =
        .error (.cell (.position ⟨7, 6⟩)) c ∧
      Independent first (Composition.perform (.onLine 1 (.setText 7 "SA"))) c) ∧
    (c.line? 1 = some g ∧
      ∃ left, (first.left c).line? 1 = some left ∧ left.cell 3 = g.cell 3) ∧
    (first.left c ≠ c ∧ later (first.left c) = .ok () final ∧ later c = .ok () final) := by
  intro c g final first later
  obtain ⟨hlines, -, hcells, hcellFrame, hsameCell⟩ := independent_edits_commute c
  have hline : c.line? 1 = some g := by decide +kernel
  have hmade : later (first.left c) = .ok () final := by decide +kernel
  refine ⟨⟨by decide +kernel, hlines 1 2 _ _ (by decide)⟩,
    ⟨by decide +kernel, hcells 1 2 7 _ _ rfl rfl (by decide)⟩, ⟨hline, ?_⟩,
    by decide +kernel, hmade, hsameCell 1 2 _ _ final rfl rfl hmade⟩
  obtain ⟨left, hleft, -, -, hcell⟩ := hcellFrame 1 2 (.setText 2 "NI+1") g rfl hline
  exact ⟨left, hleft, hcell 3 (by decide)⟩

end Sargam
