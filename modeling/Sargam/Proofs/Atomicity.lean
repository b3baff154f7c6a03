import Mathlib.Control.Monad.Basic
import Sargam.Proofs.Editing
import Sargam.Proofs.SessionStep

/-!
# Failures change nothing

Grids, compositions and sessions are edited in place, yet whoever sees an edit or a call fail
finds everything as it was, the number of lines included.

* `Session.edit_of_thrown`: a thrown edit leaves the session as it is, provided that the reply
  to an edit that was made throws nothing itself.
* `Composition.perform_onLine_of_outside`, `Composition.perform_removeLine_of_onlyLine`: edits of a
  line that there is not, and of the only line there is, fail.
* `failure_changes_nothing`: every edit of a grid, every edit of a composition and every call of a
  session that fails leaves everything as it was, whatever has been done before.
-/

namespace Sargam

/-! ## Edits that cannot be made -/

namespace Composition

variable {c : Composition}

theorem line?_of_outside {line : Nat} (h : line = 0 ∨ c.lines.length < line) :
    c.line? line = none := by
  cases line with
  | zero => rfl
  | succ index =>
    have hlength : c.lines.length ≤ index := by omega
    exact List.getElem?_eq_none hlength

/-- An edit of a line that there is not fails and changes nothing. -/
theorem perform_onLine_of_outside {line : Nat} (h : line = 0 ∨ c.lines.length < line)
    (edit : Grid.Edit) : perform (.onLine line edit) c = .error (.noLine line) c := by
  simp only [perform, atLine, line?_of_outside h]

/-- The only line cannot be removed. -/
theorem perform_removeLine_of_onlyLine (h : c.lines.length ≤ 1) :
    perform .removeLine c = .error .onlyLine c := by
  simp only [perform_eq, Editing.allOrNothing, apply, removeLine?, if_pos h]

end Composition

/-! ## Sessions -/

namespace Session

/-- A thrown edit leaves the session as it is. -/
theorem edit_of_thrown {s : Session} {edit : Composition.Edit} {reply : Composition → Reply}
    {thrown : Thrown} (hreply : ∀ c, Answers (reply c))
    (h : (s.edit edit reply).2.result = .error thrown) : (s.edit edit reply).1 = s := by
  obtain ⟨composition⟩ := s
  cases composition with
  | none => rfl
  | some c =>
    simp only [Session.edit, Composition.perform_eq, Editing.allOrNothing] at h ⊢
    cases hedit : c.apply edit with
    | error refusal => rfl
    | ok edited =>
      rw [hedit] at h
      exact absurd h (hreply edited thrown)

/-- A call for a new composition that throws leaves the session as it is. -/
theorem newComposition_of_thrown {s : Session} {name : String} {lines : Nat} {thrown : Thrown}
    (h : (s.newComposition name lines).2.result = .error thrown) :
    (s.newComposition name lines).1 = s := by
  unfold newComposition at h ⊢
  cases hfind : Taal.find? name with
  | none => rfl
  | some t =>
    rw [hfind] at h
    exact absurd h (answers_answer _ thrown)

/-- A call that throws leaves the session as it is. -/
theorem step_of_thrown {s : Session} {call : Call} {thrown : Thrown}
    (h : (s.step call).2.result = .error thrown) : (s.step call).1 = s := by
  rcases step_cases s call with ⟨name, lines, rfl⟩ |
    ⟨edit, reply, -, -, hreply, hsession, hresult⟩ | ⟨-, -, hsame⟩
  · simp only [step] at h ⊢
    exact newComposition_of_thrown h
  · rw [hresult] at h
    rw [hsession]
    exact edit_of_thrown hreply h
  · exact hsame

end Session

/-! ## Failures at every level -/

/-- **Failures change nothing.** An edit of a grid or of a composition that fails, at whatever
point, leaves exactly what there was before it, and so does a call of a session that throws. An
edit of a line outside the composition fails in this way, and so does removing the only line. -/
theorem failure_changes_nothing :
    (∀ (g : Grid) (edit : Grid.Edit) (fault : InputFault) (left : Grid),
      Grid.perform edit g = .error fault left → left = g) ∧
    (∀ (c : Composition) (edit : Composition.Edit) (refusal : Composition.Refusal)
      (left : Composition), Composition.perform edit c = .error refusal left → left = c) ∧
    (∀ (s : Session) (call : Call) (thrown : Thrown),
      (s.step call).2.result = .error thrown → (s.step call).1 = s) ∧
    (∀ (c : Composition) (line : Nat) (edit : Grid.Edit), line = 0 ∨ c.lines.length < line →
      Composition.perform (.onLine line edit) c = .error (.noLine line) c) ∧
    (∀ c : Composition, c.lines.length ≤ 1 →
      Composition.perform .removeLine c = .error .onlyLine c) := by
  refine ⟨fun g edit fault left h => ?_, fun c edit refusal left h => ?_,
    fun s call thrown h => Session.step_of_thrown h,
    fun c line edit h => Composition.perform_onLine_of_outside h edit,
    fun c h => Composition.perform_removeLine_of_onlyLine h⟩
  · rw [Grid.perform_eq] at h
    exact Editing.eq_of_allOrNothing_eq_error h
  · rw [Composition.perform_eq] at h
    exact Editing.eq_of_allOrNothing_eq_error h

/-- Failures with something to lose: a bad token after a good one on a filled line, a bad third
line where two lines would have to be added first, an unknown taal in a session that holds a
composition, a line after the last, and the only line. What is left of the first two is compared
with the same notes typed into the cells. -/
theorem failures_in_dadra :
    let typed : List Grid.Edit := [.setText 1 "SA", .setText 2 "RE", .setText 3 "GA"]
    let g := (Grid.new Taal.dadra).run [.fill "SA RE GA"]
    let c := (Composition.new Taal.dadra 1).run [.fillLines "SA RE GA"]
    let s := (Session.empty.run [.newComposition "dadra" 1, .fillLine 1 "SA RE GA"]).1
    (Grid.perform (.fill "SA PA_k") g =
        .error (.tokens [⟨2, "PA_k", .unlawful (.illegalModifier .pa .komal)⟩])
          ((Grid.new Taal.dadra).run typed) ∧
      (Grid.new Taal.dadra).run typed = g) ∧
    (Composition.perform (.fillLines "NI | - | XX") c =
        .error (.lines ⟨3, .tokens [⟨1, "XX", .unknownNote "XX"⟩]⟩)
          ((Composition.new Taal.dadra 1).run (typed.map (.onLine 1))) ∧
      (Composition.new Taal.dadra 1).run (typed.map (.onLine 1)) = c) ∧
    ((s.step (.newComposition "tintal" 2)).2.result =
        .error (.message "Unknown taal: tintal") ∧
      (s.step (.newComposition "tintal" 2)).1 = s) ∧
    (c.lines.length < 2 ∧
      Composition.perform (.onLine 2 (.fill "NI")) c = .error (.noLine 2) c) ∧
    (c.lines.length ≤ 1 ∧ Composition.perform .removeLine c = .error .onlyLine c) := by
  intro typed g c s
  have hgrid : Grid.perform (.fill "SA PA_k") g =
      .error (.tokens [⟨2, "PA_k", .unlawful (.illegalModifier .pa .komal)⟩])
        ((Grid.new Taal.dadra).run typed) := by decide +kernel
  have hlines : Composition.perform (.fillLines "NI | - | XX") c =
      .error (.lines ⟨3, .tokens [⟨1, "XX", .unknownNote "XX"⟩]⟩)
        ((Composition.new Taal.dadra 1).run (typed.map (.onLine 1))) := by decide +kernel
  have hcall : (s.step (.newComposition "tintal" 2)).2.result =
      .error (.message "Unknown taal: tintal") := by decide +kernel
  have hone : c.lines.length ≤ 1 := by decide +kernel
  have htwo : c.lines.length < 2 := Nat.lt_succ_of_le hone
  exact ⟨⟨hgrid, failure_changes_nothing.1 _ _ _ _ hgrid⟩,
    ⟨hlines, failure_changes_nothing.2.1 _ _ _ _ hlines⟩,
    ⟨hcall, failure_changes_nothing.2.2.1 _ _ _ hcall⟩,
    ⟨htwo, failure_changes_nothing.2.2.2.1 c 2 (.fill "NI") (.inr htwo)⟩,
    hone, failure_changes_nothing.2.2.2.2 c hone⟩

end Sargam
