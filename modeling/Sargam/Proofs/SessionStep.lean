import Sargam.Session

/-!
# What a call does

There are many calls of a session and few kinds of them. A call starts a composition, or makes an
edit of the one that is held, or leaves the session as it is. All that is said of calls in general
is said of these kinds.

* `Call.started?`, `Call.edit?`: the composition that a call starts, and the edit that it makes.
* `Session.Answers`: replies that throw nothing.
* `Session.step_cases`: every call is of one of these kinds, and thrown edits are refused edits.
-/

namespace Sargam

/-! ## Calls -/

namespace Call

/-- The composition that a call starts, if it is a call for a new one and the taal is known. -/
def started? : Call → Option Composition
  | .newComposition name lines => (Taal.find? name).map (Composition.new · lines)
  | _ => none

/-- The edit that a call makes of the composition that is held. -/
def edit? : Call → Option Composition.Edit
  | .addLine => some .addLine
  | .removeLine => some .removeLine
  | .setMatra line matra text => some (.onLine line (.setText matra text))
  | .fillLine line text => some (.onLine line (.fill text))
  | .fillLines text => some (.fillLines text)
  | .distributeLine line text => some (.onLine line (.distribute text))
  | .clearComposition => some .clear
  | _ => none

theorem started?_eq_some_iff {call : Call} {c : Composition} :
    call.started? = some c ↔ ∃ name lines t, call = .newComposition name lines ∧
      Taal.find? name = some t ∧ Composition.new t lines = c := by
  constructor
  · intro h
    unfold started? at h
    split at h
    · rename_i name lines
      obtain ⟨t, hfind, hnew⟩ := Option.map_eq_some_iff.mp h
      exact ⟨name, lines, t, rfl, hfind, hnew⟩
    · cases h
  · rintro ⟨name, lines, t, rfl, hfind, rfl⟩
    rw [started?, hfind, Option.map_some]

end Call

/-! ## Steps -/

namespace Session

/-- A reply that throws nothing. -/
def Answers (reply : Reply) : Prop := ∀ thrown, reply.result ≠ .error thrown

theorem answers_answer (a : Answer) : Answers (Reply.answer a) := by
  intro thrown h
  cases h

theorem answers_after {reply : Reply} (h : Answers reply) (level : Level) (message : String) :
    Answers (reply.after level message) := h

/-- What a call does. If it makes an edit, then it throws nothing unless the edit is refused. -/
theorem step_cases (s : Session) (call : Call) :
    (∃ name lines, call = .newComposition name lines) ∨
    (∃ edit reply, call.started? = none ∧ call.edit? = some edit ∧ (∀ c, Answers (reply c)) ∧
      (s.step call).1 = (s.edit edit reply).1 ∧
      (s.step call).2.result = (s.edit edit reply).2.result) ∨
    (call.started? = none ∧ call.edit? = none ∧ (s.step call).1 = s) := by
  cases call with
  | newComposition name lines => exact .inl ⟨name, lines, rfl⟩
  | addLine => exact .inr (.inl ⟨_, _, rfl, rfl, fun _ => answers_answer _, rfl, rfl⟩)
  | removeLine => exact .inr (.inl ⟨_, _, rfl, rfl, fun _ => answers_answer _, rfl, rfl⟩)
  | setMatra line matra text =>
    exact .inr (.inl ⟨_, _, rfl, rfl, fun _ => answers_answer _, rfl, rfl⟩)
  | fillLine line text =>
    exact .inr (.inl ⟨_, _, rfl, rfl, fun _ => answers_answer _, rfl, rfl⟩)
  | fillLines text =>
    exact .inr (.inl ⟨_, _, rfl, rfl, fun _ => answers_after (answers_answer _) _ _, rfl, rfl⟩)
  | distributeLine line text =>
    exact .inr (.inl ⟨_, _, rfl, rfl, fun _ => answers_answer _, rfl, rfl⟩)
  | clearComposition => exact .inr (.inl ⟨_, _, rfl, rfl, fun _ => answers_answer _, rfl, rfl⟩)
  | parseNotation text options separator => exact .inr (.inr ⟨rfl, rfl, rfl⟩)
  | renderNotation text options separator => exact .inr (.inr ⟨rfl, rfl, rfl⟩)
  | availableTaals => exact .inr (.inr ⟨rfl, rfl, rfl⟩)
  | listTaals => exact .inr (.inr ⟨rfl, rfl, rfl⟩)
  | getGridLayout options => exact .inr (.inr ⟨rfl, rfl, rfl⟩)
  | exportText heading => exact .inr (.inr ⟨rfl, rfl, rfl⟩)
  | exportHtml config => exact .inr (.inr ⟨rfl, rfl, rfl⟩)
  | exportLayoutJson => exact .inr (.inr ⟨rfl, rfl, rfl⟩)
  | exportSvg line config => exact .inr (.inr ⟨rfl, rfl, rfl⟩)

end Session

end Sargam
