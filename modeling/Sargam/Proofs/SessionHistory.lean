import Sargam.Proofs.SessionStep
import Sargam.Proofs.WellFormed

/-!
# Histories of a session

What a session holds depends on few of the calls that it has answered: on the last one that
started a composition, and on the edits since. All that was done before that call is forgotten, so
the same calls after it are answered in the same way whatever the session held before.

* `Session.composition_step`: what a session holds after one call.
* `Session.composition_run`: what it holds after calls that start no composition.
* `Session.run_append`: calls in a row are answered as they are in two parts.
* `Session.run_newComposition`: a new composition makes the session forget what it held.
* `Session.Shows`: layouts and exports are those of a composition.
* `session_follows_composition`: what any history of calls leaves behind and answers.
-/

namespace Sargam

/-! ## One call -/

namespace Session

theorem map_run_nil (held : Option Composition) : held.map (·.run []) = held := by
  cases held with
  | none => rfl
  | some c => rfl

theorem composition_edit (s : Session) (e : Composition.Edit) (reply : Composition → Reply) :
    (s.edit e reply).1.composition = s.composition.map (·.run [e]) := by
  obtain ⟨composition⟩ := s
  cases composition with
  | none => rfl
  | some c =>
    have hrun : c.run [e] = (Composition.perform e).left c := rfl
    simp only [Session.edit, Option.map_some, hrun, Editing.left]
    cases Composition.perform e c with
    | ok a edited => rfl
    | error refusal left => rfl

theorem composition_newComposition (s : Session) (name : String) (lines : Nat) :
    (s.newComposition name lines).1.composition =
      ((Taal.find? name).map (Composition.new · lines)).or s.composition := by
  unfold newComposition
  cases Taal.find? name with
  | none => rfl
  | some t => rfl

/-- What a session holds after a call: the composition that the call starts, or else the one that
was held before, after the edit that the call asks for. -/
theorem composition_step (s : Session) (call : Call) :
    (s.step call).1.composition =
      call.started?.or (s.composition.map (·.run call.edit?.toList)) := by
  rcases step_cases s call with ⟨name, lines, rfl⟩ |
    ⟨edit, reply, hstarted, hedit, -, hsession, -⟩ | ⟨hstarted, hedit, hsame⟩
  · simp only [step, composition_newComposition]
    exact congrArg _ (map_run_nil s.composition).symm
  · rw [hsession, composition_edit, hstarted, hedit]
    rfl
  · rw [hsame, hstarted, hedit]
    exact (map_run_nil s.composition).symm

/-- A call that neither starts a composition nor asks for an edit leaves the session as it is. -/
theorem step_eq_self {call : Call} (hstarted : call.started? = none) (hedit : call.edit? = none)
    (s : Session) : (s.step call).1 = s := by
  have hstep := composition_step s call
  rw [hstarted, hedit, Option.none_or, Option.toList_none, map_run_nil] at hstep
  exact congrArg Session.mk hstep

/-! ## Calls in a row -/

theorem run_cons (s : Session) (call : Call) (rest : List Call) :
    s.run (call :: rest) =
      (((s.step call).1.run rest).1, (s.step call).2 :: ((s.step call).1.run rest).2) := rfl

theorem run_append (s : Session) (calls more : List Call) :
    s.run (calls ++ more) =
      (((s.run calls).1.run more).1, (s.run calls).2 ++ ((s.run calls).1.run more).2) := by
  induction calls generalizing s with
  | nil => rfl
  | cons call rest ih =>
    rw [List.cons_append, run_cons, ih, run_cons]
    rfl

theorem length_run (s : Session) (calls : List Call) : (s.run calls).2.length = calls.length := by
  induction calls generalizing s with
  | nil => rfl
  | cons call rest ih => rw [run_cons, List.length_cons, List.length_cons, ih]

/-- What a session holds after calls that start no composition: what it has held, after all edits
that the calls ask for. -/
theorem composition_run {calls : List Call} (h : ∀ call ∈ calls, call.started? = none)
    (s : Session) : (s.run calls).1.composition =
      s.composition.map (·.run (calls.filterMap Call.edit?)) := by
  induction calls generalizing s with
  | nil => exact (map_run_nil s.composition).symm
  | cons call rest ih =>
    obtain ⟨hcall, hrest⟩ := List.forall_mem_cons.mp h
    have hedits : (call :: rest).filterMap Call.edit? =
        call.edit?.toList ++ rest.filterMap Call.edit? := by
      rw [List.filterMap_cons]
      cases call.edit? with
      | none => rfl
      | some edit => rfl
    rw [run_cons, ih hrest, composition_step, hcall, Option.none_or, Option.map_map, hedits]
    congr 1
    funext c
    exact (Editing.leftAfter_append _ c _ _).symm

theorem run_newComposition {name : String} {t : Taal} (h : Taal.find? name = some t)
    (lines : Nat) (later : List Call) (s other : Session) :
    s.run (.newComposition name lines :: later) =
      other.run (.newComposition name lines :: later) := by
  have hstep : s.step (.newComposition name lines) = other.step (.newComposition name lines) := by
    simp only [step, newComposition, h]
  rw [run_cons, run_cons, hstep]

theorem exists_wellFormed_of_run {s : Session} (calls : List Call)
    (hs : ∀ c, s.composition = some c → ∃ t, c.WellFormed t) :
    ∀ c, (s.run calls).1.composition = some c → ∃ t, c.WellFormed t := by
  -- No taal is fixed, since a later call may start a composition in another one.
  induction calls generalizing s with
  | nil => exact hs
  | cons call rest ih =>
    rw [run_cons]
    refine ih fun c hc => ?_
    rw [composition_step, Option.or_eq_some_iff] at hc
    rcases hc with hstarted | ⟨-, hedited⟩
    · obtain ⟨name, lines, t, -, -, rfl⟩ := Call.started?_eq_some_iff.mp hstarted
      exact ⟨t, Composition.wellFormed_new t lines⟩
    · obtain ⟨held, hheld, rfl⟩ := Option.map_eq_some_iff.mp hedited
      obtain ⟨t, ht⟩ := hs held hheld
      exact ⟨t, Composition.wellFormed_run ht _⟩

/-! ## Layouts and exports -/

/-- What is shown and exported of a session is a composition: its layouts with the options that
were sent, and its layouts with the usual options for every export. -/
structure Shows (s : Session) (c : Composition) : Prop where
  layouts : ∀ options,
    (s.step (.getGridLayout (.ok options))).2.result = .ok (.layouts (c.layouts options))
  text : ∀ heading,
    (s.step (.exportText heading)).2.result = .ok (.text (Export.table (c.layouts {}) heading))
  html : ∀ config, ∃ html, Export.html config (c.layouts {}) = .ok html ∧
    (s.step (.exportHtml (.ok config))).2.result = .ok (.text html)
  json : (s.step .exportLayoutJson).2.result = .ok (.text (Layout.jsonText (c.layouts {})))
  svg : ∀ line g config, c.line? line = some g →
    (s.step (.exportSvg line (.ok config))).2.result =
      .ok (.text (Export.svg config (g.layout {})))
  svg_of_no_line : ∀ line config, c.line? line = none →
    (s.step (.exportSvg line (.ok config))).2 = Reply.noLine line

theorem exists_html_eq_ok (config : ExportConfig) {layouts : List Layout} (h : layouts ≠ []) :
    ∃ html, Export.html config layouts = .ok html := by
  cases layouts with
  | nil => exact absurd rfl h
  | cons first rest => exact ⟨_, rfl⟩

theorem shows_of_composition {s : Session} {c : Composition} {t : Taal}
    (hs : s.composition = some c) (hc : c.WellFormed t) : s.Shows c := by
  have hview : ∀ reply, s.view reply = reply c := fun reply => by rw [view, hs]
  have hlayouts : c.layouts {} ≠ [] :=
    fun hnil => List.ne_nil_of_length_pos hc.lines_pos (List.map_eq_nil_iff.mp hnil)
  refine ⟨fun options => ?_, fun heading => ?_, fun config => ?_, ?_, fun line g config hg => ?_,
    fun line config hnone => ?_⟩
  · simp only [step, Reply.withOptions, Reply.withSettings, hview]
    rfl
  · simp only [step, hview]
    rfl
  · obtain ⟨html, hhtml⟩ := exists_html_eq_ok config hlayouts
    refine ⟨html, hhtml, ?_⟩
    simp only [step, Reply.withConfig, Reply.withSettings, hview, htmlReply, hhtml]
    rfl
  · simp only [step, hview]
    rfl
  · simp only [step, Reply.withConfig, Reply.withSettings, hview, svgReply, hg]
    rfl
  · simp only [step, Reply.withConfig, Reply.withSettings, hview, svgReply, hnone]

theorem exists_answer_newComposition_iff (s : Session) (name : String) (lines : Nat) :
    (∃ answer, (s.step (.newComposition name lines)).2.result = .ok answer) ↔
      ∃ t, Taal.find? name = some t := by
  simp only [step, newComposition]
  cases Taal.find? name with
  | none =>
    refine iff_of_false ?_ nofun
    rintro ⟨answer, h⟩
    cases h
  | some t => exact iff_of_true ⟨_, rfl⟩ ⟨t, rfl⟩

end Session

/-! ## Histories -/

/-- **A session follows its composition.** Nothing is held until a composition is started, which
is answered exactly when its taal is known. From then on the session holds that composition after
all later edits, refused ones included, until another one is started; other calls leave it as it
is. What is shown and exported is what the session holds. Every call has a reply, and the replies
from the start of a composition on are the same after any two histories. -/
theorem session_follows_composition :
    (∀ calls : List Call, (∀ call ∈ calls, call.started? = none) →
      (Session.empty.run calls).1 = Session.empty) ∧
    (∀ (before later : List Call) (name : String) (lines : Nat) (t : Taal),
      Taal.find? name = some t → (∀ call ∈ later, call.started? = none) →
      (Session.empty.run (before ++ .newComposition name lines :: later)).1.composition =
        some ((Composition.new t lines).run (later.filterMap Call.edit?))) ∧
    (∀ (s : Session) (name : String) (lines : Nat),
      (∃ answer, (s.step (.newComposition name lines)).2.result = .ok answer) ↔
        ∃ t, Taal.find? name = some t) ∧
    (∀ (s : Session) (call : Call), call.started? = none → call.edit? = none →
      (s.step call).1 = s) ∧
    (∀ (calls : List Call) (c : Composition),
      (Session.empty.run calls).1.composition = some c →
      (Session.empty.run calls).1.Shows c) ∧
    (∀ calls : List Call, (Session.empty.run calls).2.length = calls.length) ∧
    (∀ (before other later : List Call) (name : String) (lines : Nat) (t : Taal),
      Taal.find? name = some t →
      (Session.empty.run (before ++ .newComposition name lines :: later)).2.drop before.length =
        (Session.empty.run (other ++ .newComposition name lines :: later)).2.drop
          other.length) := by
  have hempty : ∀ c, Session.empty.composition = some c → ∃ t, c.WellFormed t := by
    intro c h
    cases h
  refine ⟨fun calls h => ?_, fun before later name lines t hfind h => ?_,
    Session.exists_answer_newComposition_iff, fun s call hstarted hedit =>
    Session.step_eq_self hstarted hedit s, fun calls c hc => ?_, Session.length_run _,
    fun before other later name lines t hfind => ?_⟩
  · exact congrArg Session.mk (Session.composition_run h Session.empty)
  · have hstep : ((Session.empty.run before).1.step (.newComposition name lines)).1.composition =
        some (Composition.new t lines) := by
      rw [Session.composition_step, Call.started?, hfind]
      rfl
    rw [Session.run_append, Session.run_cons, Session.composition_run h, hstep, Option.map_some]
  · obtain ⟨t, ht⟩ := Session.exists_wellFormed_of_run calls hempty c hc
    exact Session.shows_of_composition hc ht
  · rw [Session.run_append, Session.run_append, ← Session.length_run Session.empty before,
      ← Session.length_run Session.empty other, List.drop_left, List.drop_left,
      Session.run_newComposition hfind lines later _ (Session.empty.run other).1]

/-- A composition in dadra that takes the place of one in teentaal, and the same calls where no
composition has been started before. Among the calls after it are one for an unknown taal and
one for a line that is not there. -/
theorem session_follows_composition_dadra :
    let before : List Call := [.newComposition "teentaal" 2, .fillLine 2 "SA RE"]
    let other : List Call := [.exportText true, .newComposition "tintal" 1, .addLine]
    let later : List Call := [.fillLines "SA RE | GA", .newComposition "tintal" 3,
      .setMatra 9 1 "SA", .exportSvg 1 (.ok {}), .removeLine]
    let c := (Composition.new Taal.dadra 1).run
      [.fillLines "SA RE | GA", .onLine 9 (.setText 1 "SA"), .removeLine]
    let s := (Session.empty.run (before ++ .newComposition " Dadra" 1 :: later)).1
    ((∀ call ∈ other, call.started? = none) ∧ (Session.empty.run other).1 = Session.empty) ∧
    (Taal.find? " Dadra" = some Taal.dadra ∧ (∀ call ∈ later, call.started? = none) ∧
      s.composition = some c ∧ s.Shows c ∧
      (s.step (.newComposition "tintal" 3)).1 = s) ∧
    (Session.empty.run (before ++ .newComposition " Dadra" 1 :: later)).2.drop 2 =
      (Session.empty.run (other ++ .newComposition " Dadra" 1 :: later)).2.drop 3 := by
  intro before other later c s
  have hother : ∀ call ∈ other, call.started? = none := by decide +kernel
  have hlater : ∀ call ∈ later, call.started? = none := by decide +kernel
  have hfind : Taal.find? " Dadra" = some Taal.dadra := by decide +kernel
  have htintal : (Call.newComposition "tintal" 3).started? = none := by decide +kernel
  obtain ⟨hnothing, hholds, -, hkeeps, hshows, -, hreplies⟩ := session_follows_composition
  have hc : s.composition = some c := hholds before later " Dadra" 1 Taal.dadra hfind hlater
  exact ⟨⟨hother, hnothing other hother⟩,
    ⟨hfind, hlater, hc, hshows _ c hc, hkeeps s _ htintal rfl⟩,
    hreplies before other later " Dadra" 1 Taal.dadra hfind⟩

end Sargam
