import Mathlib.Control.Monad.Basic
import Sargam.Proofs.Atomicity
import Sargam.Proofs.SessionHistory

/-!
# Failures on the console

What a call throws and what it tells the console are made in different places: a failure of the
session writes its line where it is thrown, a refused edit where the refusal is turned into a
reply, and lines that only inform come before or after. What keeps them together is that each
kind of reply is made in one way, so that the last line can be read off the kind. Remarks for the
log come before that line, and warn beside an answer only if it is a report.

* `Composition.refusal_cases`: which edits can be refused for which reason.
* `Reply.Quiet`, `Reply.EndsWith`: replies without a warning line, and those with one at their end.
* `Session.Logs`: the replies to a call, each with what it tells.
* `Session.logs_step`: every call is answered by one of them.
* `failures_are_logged`: what is thrown is the last thing on the console, in the same words, and
  a call that throws nothing warns of nothing but the only line.
-/

namespace Sargam

/-! ## Refused edits -/

namespace Composition

/-- Only a text for several lines is refused with a line, only an edit of a line with a cell, and
a line is kept only if it is the only one. -/
theorem refusal_cases {c : Composition} {edit : Edit} {refusal : Refusal}
    (h : c.apply edit = .error refusal) :
    (∃ line, refusal = .noLine line) ∨
    (refusal = .onlyLine ∧ edit = .removeLine ∧ c.lines.length ≤ 1) ∨
    (∃ fault text, refusal = .lines fault ∧ edit = .fillLines text) ∨
    (∃ fault line change, refusal = .cell fault ∧ edit = .onLine line change) := by
  cases edit with
  | addLine => cases h
  | removeLine =>
    simp only [apply, removeLine?] at h
    by_cases hlines : c.lines.length ≤ 1
    · rw [if_pos hlines] at h
      cases h
      exact .inr (.inl ⟨rfl, rfl, hlines⟩)
    · rw [if_neg hlines] at h
      cases h
  | fillLines text =>
    simp only [apply] at h
    cases hfill : c.fillLines text with
    | ok filled =>
      rw [hfill] at h
      cases h
    | error fault =>
      rw [hfill] at h
      cases h
      exact .inr (.inr (.inl ⟨fault, text, rfl, rfl⟩))
  | clear => cases h
  | onLine line change =>
    simp only [apply] at h
    cases hline : c.line? line with
    | none =>
      rw [hline] at h
      cases h
      exact .inl ⟨line, rfl⟩
    | some g =>
      rw [hline] at h
      cases hchange : g.apply change with
      | ok changed =>
        simp only [hchange] at h
        cases h
      | error fault =>
        simp only [hchange] at h
        cases h
        exact .inr (.inr (.inr ⟨fault, line, change, rfl, rfl⟩))

end Composition

/-! ## Replies -/

/-- Whether a line of the console only informs. -/
def Entry.Informs (e : Entry) : Prop := e.level = .log ∨ e.level = .info

theorem Entry.Informs.level_ne {e : Entry} (h : e.Informs) :
    e.level ≠ .error ∧ e.level ≠ .warn := by
  rcases h with hlevel | hlevel <;> rw [hlevel] <;> decide

/-- Whether a call writes a text into one line. -/
def Call.WritesLine : Call → Prop
  | .setMatra .. | .fillLine .. | .distributeLine .. => True
  | _ => False

theorem Call.writesLine_of_edit? {call : Call} {line : Nat} {change : Grid.Edit}
    (h : call.edit? = some (.onLine line change)) : call.WritesLine := by
  unfold Call.edit? at h
  split at h <;> first | trivial | cases h

theorem Call.eq_fillLines_of_edit? {call : Call} {text : String}
    (h : call.edit? = some (.fillLines text)) : call = .fillLines text := by
  unfold Call.edit? at h
  split at h <;> cases h
  rfl

theorem Call.eq_removeLine_of_edit? {call : Call} (h : call.edit? = some .removeLine) :
    call = .removeLine := by
  unfold Call.edit? at h
  split at h <;> cases h
  rfl

/-- A call for an edit is no call to draw a text. -/
theorem Call.ne_renderNotation_of_edit? {call : Call} {edit : Composition.Edit}
    (h : call.edit? = some edit) (text : String) (options : Decoded RenderOptions)
    (separator : Option String) : call ≠ .renderNotation text options separator := by
  rintro rfl
  cases h

/-- The remarks that warn beside an answer: a report tells of refused words without failing. -/
def Answer.warnings : Answer → List Remark
  | .report r => r.errors.map fun rejection => ⟨.warn, "rejected " ++ rejection.message⟩
  | _ => []

/-! ### Channels -/

@[simp] theorem filterMap_line?_map_remark (remarks : List Remark) :
    (remarks.map Event.remark).filterMap Event.line? = [] := by
  induction remarks with
  | nil => rfl
  | cons _ _ ih => exact ih

@[simp] theorem filterMap_remark?_map_remark (remarks : List Remark) :
    (remarks.map Event.remark).filterMap Event.remark? = remarks := by
  induction remarks with
  | nil => rfl
  | cons remark _ ih => exact congrArg (remark :: ·) ih

namespace Reply

/-- A line for the console is no remark. -/
@[simp] theorem remarks_after (level : Level) (message : String) (r : Reply) :
    (r.after level message).remarks = r.remarks := rfl

@[simp] theorem console_after (level : Level) (message : String) (r : Reply) :
    (r.after level message).console = ⟨level, message⟩ :: r.console := rfl

/-- Remarks are no lines for the console. -/
@[simp] theorem console_afterRemarks (remarks : List Remark) (r : Reply) :
    (r.afterRemarks remarks).console = r.console := by
  simp only [console, afterRemarks, List.filterMap_append, filterMap_line?_map_remark,
    List.nil_append]

@[simp] theorem remarks_afterRemarks (remarks : List Remark) (r : Reply) :
    (r.afterRemarks remarks).remarks = remarks ++ r.remarks := by
  simp only [Reply.remarks, afterRemarks, List.filterMap_append, filterMap_remark?_map_remark]

/-- All lines for the console only inform, and the remarks that warn are these. -/
structure Quiet (r : Reply) (warnings : List Remark) : Prop where
  informs : ∀ e ∈ r.console, e.Informs
  warnings : r.remarks.filter Remark.warns = warnings

/-- The last of all events is a certain line, and all other lines only inform. -/
structure EndsWith (r : Reply) (last : Entry) : Prop where
  events : r.events.getLast? = some (.line last)
  console : ∃ before, r.console = before ++ [last] ∧ ∀ e ∈ before, e.Informs

variable {r : Reply} {last : Entry} {level : Level} {message : String}

theorem endsWith_singleton (result : Except Thrown Answer) (last : Entry) :
    EndsWith ⟨result, [.line last]⟩ last := ⟨rfl, [], rfl, nofun⟩

theorem Quiet.after {warnings : List Remark} (h : r.Quiet warnings)
    (hinforms : Entry.Informs ⟨level, message⟩) : (r.after level message).Quiet warnings := by
  refine ⟨?_, ?_⟩
  · rw [console_after]
    exact List.forall_mem_cons.mpr ⟨hinforms, h.informs⟩
  · rw [remarks_after]
    exact h.warnings

theorem Quiet.afterRemarks {warnings : List Remark} (h : r.Quiet warnings)
    (remarks : List Remark) :
    (r.afterRemarks remarks).Quiet (remarks.filter Remark.warns ++ warnings) := by
  refine ⟨fun e he => h.informs e ?_, ?_⟩
  · rwa [console_afterRemarks] at he
  · rw [remarks_afterRemarks, List.filter_append, h.warnings]

theorem EndsWith.getLast?_console (h : r.EndsWith last) : r.console.getLast? = some last := by
  obtain ⟨before, hconsole, -⟩ := h.console
  rw [hconsole, List.getLast?_concat]

theorem EndsWith.after (h : r.EndsWith last) (hinforms : Entry.Informs ⟨level, message⟩) :
    (r.after level message).EndsWith last := by
  obtain ⟨before, hconsole, hbefore⟩ := h.console
  refine ⟨?_, ⟨level, message⟩ :: before, ?_, List.forall_mem_cons.mpr ⟨hinforms, hbefore⟩⟩
  · rw [Reply.after, List.getLast?_cons, h.events]
    rfl
  · rw [console_after, hconsole]
    rfl

theorem EndsWith.afterRemarks (h : r.EndsWith last) (remarks : List Remark) :
    (r.afterRemarks remarks).EndsWith last := by
  obtain ⟨before, hconsole, hbefore⟩ := h.console
  refine ⟨?_, before, ?_, hbefore⟩
  · rw [Reply.afterRemarks, List.getLast?_append, h.events]
    rfl
  · rw [console_afterRemarks, hconsole]

end Reply

namespace Session

/-- The line about the only line of a composition, which is kept. -/
def keptLine : Entry := ⟨.warn, "removeLine: composition must keep at least one line"⟩

/-- The replies to a call that a session can give, each with what it tells. -/
inductive Logs (s : Session) (call : Call) : Reply → Prop
  /-- An answer. -/
  | answered (answer : Answer) (events : List Event)
    (hquiet : Reply.Quiet ⟨.ok answer, events⟩ answer.warnings) : Logs s call ⟨.ok answer, events⟩
  /-- The only line is kept, which is not a failure; `step_removeLine_of_onlyLine` says what is
  told then. -/
  | kept (c : Composition) (events : List Event) (hcall : call = .removeLine)
    (hs : s.composition = some c) (hc : c.lines.length ≤ 1) :
    Logs s call ⟨.ok (.count c.lines.length), events⟩
  /-- A failure of the session. -/
  | failed (text : String) (events : List Event)
    (hends : Reply.EndsWith ⟨.error (.message text), events⟩ ⟨.error, text⟩) :
    Logs s call ⟨.error (.message text), events⟩
  /-- A text that cannot be written into its line. -/
  | input (fault : InputFault) (events : List Event) (hcall : call.WritesLine)
    (hends : Reply.EndsWith ⟨.error (.input fault), events⟩ ⟨.warn, fault.message⟩) :
    Logs s call ⟨.error (.input fault), events⟩
  /-- A text for several lines that cannot be written into them. -/
  | line (fault : LineFault) (events : List Event) (text : String)
    (hcall : call = .fillLines text)
    (hends : Reply.EndsWith ⟨.error (.line fault), events⟩ ⟨.warn, fault.message⟩) :
    Logs s call ⟨.error (.line fault), events⟩
  /-- A text that cannot be read, of which only the log is told. -/
  | rejected (text : String) (options : RenderOptions) (separator : Option String)
    (hcall : call = .renderNotation text (.ok options) separator) :
    Logs s call ⟨.error (.rejections (report text options separator).errors),
      ((report text options separator).errors.map Rejection.remark).map .remark⟩

variable {s : Session} {call : Call}

theorem logs_answer {answer : Answer} (h : answer.warnings = []) :
    Logs s call (Reply.answer answer) :=
  .answered answer [] ⟨nofun, h.symm⟩

theorem logs_fail (text : String) : Logs s call (Reply.fail text) :=
  .failed text _ (Reply.endsWith_singleton _ _)

/-- A line that informs may come before all else, unless there should be none. -/
theorem Logs.after {reply : Reply} {level : Level} {message : String} (h : Logs s call reply)
    (hlevel : level = .log ∨ level = .info)
    (hcall : ∀ text options separator, call ≠ .renderNotation text options separator) :
    Logs s call (reply.after level message) := by
  have hinforms : Entry.Informs ⟨level, message⟩ := hlevel
  cases h with
  | answered answer events hquiet => exact .answered answer _ (hquiet.after hinforms)
  | kept c events hremove hs hc => exact .kept c _ hremove hs hc
  | failed text events hends => exact .failed text _ (hends.after hinforms)
  | input fault events hwrites hends => exact .input fault _ hwrites (hends.after hinforms)
  | line fault events text hfill hends => exact .line fault _ text hfill (hends.after hinforms)
  | rejected text options separator hrender => exact absurd hrender (hcall _ _ _)

/-- Remarks may come before all else as well, as long as none of them warns beside an answer. -/
theorem Logs.afterRemarks {reply : Reply} {remarks : List Remark} (h : Logs s call reply)
    (hremarks : ∀ answer, reply.result = .ok answer → remarks.filter Remark.warns = [])
    (hcall : ∀ text options separator, call ≠ .renderNotation text options separator) :
    Logs s call (reply.afterRemarks remarks) := by
  cases h with
  | answered answer events hquiet =>
    have hanswer := hquiet.afterRemarks remarks
    rw [hremarks answer rfl, List.nil_append] at hanswer
    exact .answered answer _ hanswer
  | kept c events hremove hs hc => exact .kept c _ hremove hs hc
  | failed text events hends => exact .failed text _ (hends.afterRemarks _)
  | input fault events hwrites hends => exact .input fault _ hwrites (hends.afterRemarks _)
  | line fault events text hfill hends => exact .line fault _ text hfill (hends.afterRemarks _)
  | rejected text options separator hrender => exact absurd hrender (hcall _ _ _)

/-- Before a failure any remarks may come. -/
theorem Logs.afterRemarks_of_thrown {reply : Reply} {thrown : Thrown} (h : Logs s call reply)
    (hthrown : reply.result = .error thrown)
    (hcall : ∀ text options separator, call ≠ .renderNotation text options separator)
    (remarks : List Remark) : Logs s call (reply.afterRemarks remarks) := by
  refine h.afterRemarks (fun answer hanswer => ?_) hcall
  rw [hthrown] at hanswer
  cases hanswer

theorem logs_withSettings {α : Type} {context : String} {settings : Decoded α}
    {reply : α → Reply} (h : ∀ value, settings = .ok value → Logs s call (reply value)) :
    Logs s call (Reply.withSettings context settings reply) := by
  cases settings with
  | error problem => exact logs_fail _
  | ok value => exact h value rfl

theorem logs_view {reply : Composition → Reply}
    (h : ∀ c, s.composition = some c → Logs s call (reply c)) :
    Logs s call (s.view reply) := by
  unfold view
  cases hs : s.composition with
  | none => exact logs_fail _
  | some c => exact h c hs

/-- The reply to a call for an edit. What is remarked on it warns only if it fails. -/
theorem logs_edit {edit : Composition.Edit} {reply : Composition → Reply}
    (hedit : call.edit? = some edit) (hreply : ∀ c, Logs s call (reply c)) :
    Logs s call (s.edit edit reply).2 := by
  have hcall := Call.ne_renderNotation_of_edit? hedit
  unfold Session.edit
  cases hs : s.composition with
  | none => exact logs_fail _
  | some c =>
    simp only [Composition.perform_eq, Editing.allOrNothing]
    cases hmade : c.apply edit with
    | ok edited =>
      exact (hreply edited).afterRemarks (fun _ _ => Composition.filter_warns_remarks hmade) hcall
    | error refusal =>
      rcases Composition.refusal_cases hmade with ⟨number, rfl⟩ | ⟨rfl, rfl, hlines⟩ |
        ⟨fault, text, rfl, rfl⟩ | ⟨fault, number, change, rfl, rfl⟩
      · exact (logs_fail _).afterRemarks_of_thrown rfl hcall _
      · have hkept : Logs s call (Reply.refused c .onlyLine) :=
          .kept c _ (Call.eq_removeLine_of_edit? hedit) hs hlines
        exact hkept.afterRemarks (fun _ _ => rfl) hcall
      · have hline : Logs s call (Reply.refuse (.line fault) fault.message) :=
          .line fault _ text (Call.eq_fillLines_of_edit? hedit) (Reply.endsWith_singleton _ _)
        exact hline.afterRemarks_of_thrown rfl hcall _
      · have hinput : Logs s call (Reply.refuse (.input fault) fault.message) :=
          .input fault _ (Call.writesLine_of_edit? hedit) (Reply.endsWith_singleton _ _)
        exact hinput.afterRemarks_of_thrown rfl hcall _

theorem logs_newComposition (name : String) (lines : Nat) :
    Logs s (.newComposition name lines) (s.newComposition name lines).2 := by
  unfold newComposition
  cases Taal.find? name with
  | none => exact (logs_fail _).after (.inr rfl) nofun
  | some t => exact (logs_answer rfl).after (.inr rfl) nofun

/-- The words that are warned of are those that the report lists as refused. -/
theorem filter_warns_readingRemarks_eq_errors (text : String) (options : RenderOptions)
    (separator : Option String) : (readingRemarks text).filter Remark.warns =
      (report text options separator).errors.map Rejection.remark := by
  rw [filter_warns_readingRemarks, report, Report.ofText]
  cases parseSequence text <;> rfl

theorem logs_reportReply (text : String) (options : RenderOptions) (separator : Option String) :
    Logs s call (notationReply reportReply text separator options) := by
  have hquiet : (reportReply (report text options separator)).Quiet [] := by
    refine ⟨fun e he => ?_, rfl⟩
    rw [List.mem_singleton.mp he]
    exact .inl rfl
  have hall := hquiet.afterRemarks (readingRemarks text)
  rw [filter_warns_readingRemarks_eq_errors text options separator, List.append_nil] at hall
  exact .answered (.report (report text options separator)) _ hall

theorem logs_renderedReply (text : String) (options : RenderOptions)
    (separator : Option String) :
    Logs s (.renderNotation text (.ok options) separator)
      (notationReply renderedReply text separator options) := by
  cases hread : parseSequence text with
  | error refused =>
    have hrejected := Logs.rejected (s := s) text options separator rfl
    simp only [notationReply, renderedReply, report, Report.ofText, readingRemarks, hread,
      Reply.afterRemarks, List.append_nil] at hrejected ⊢
    exact hrejected
  | ok swaras =>
    have hquiet : (Reply.answer (.text (renderSequence options
        (separator.getD Report.defaultSeparator) swaras))).Quiet [] := ⟨nofun, rfl⟩
    have hall := hquiet.afterRemarks (readingRemarks text)
    rw [filter_warns_readingRemarks_of_ok hread, List.append_nil] at hall
    simp only [notationReply, renderedReply, report, Report.ofText, hread]
    exact .answered _ _ hall

theorem logs_htmlReply {html : Except Export.ExportFault String}
    (hcall : ∀ text options separator, call ≠ .renderNotation text options separator) :
    Logs s call (htmlReply html) := by
  cases html with
  | error fault => exact logs_fail _
  | ok html => exact (logs_answer rfl).after (.inr rfl) hcall

theorem logs_svgReply (number : Nat) (config : ExportConfig) (c : Composition) :
    Logs s call (svgReply number config c) := by
  unfold svgReply
  cases c.line? number with
  | none => exact logs_fail _
  | some g => exact logs_answer rfl

/-- Every call is answered by one of the replies of `Logs`. -/
theorem logs_step (s : Session) (call : Call) : Logs s call (s.step call).2 := by
  cases call with
  | parseNotation text options separator =>
    exact logs_withSettings fun options _ => logs_reportReply text options separator
  | renderNotation text options separator =>
    refine logs_withSettings fun options hoptions => ?_
    rw [hoptions]
    exact logs_renderedReply text options separator
  | availableTaals => exact logs_answer rfl
  | listTaals => exact logs_answer rfl
  | newComposition name lines => exact logs_newComposition name lines
  | addLine => exact logs_edit rfl fun _ => logs_answer rfl
  | removeLine => exact logs_edit rfl fun _ => logs_answer rfl
  | setMatra number matra text =>
    exact (logs_edit rfl fun _ => logs_answer rfl).after (.inl rfl) nofun
  | fillLine number text => exact logs_edit rfl fun _ => logs_answer rfl
  | fillLines text => exact logs_edit rfl fun _ => (logs_answer rfl).after (.inr rfl) nofun
  | distributeLine number text => exact logs_edit rfl fun _ => logs_answer rfl
  | clearComposition => exact logs_edit rfl fun _ => logs_answer rfl
  | getGridLayout options =>
    exact logs_withSettings fun _ _ => logs_view fun _ _ => logs_answer rfl
  | exportText heading => exact logs_view fun _ _ => logs_answer rfl
  | exportHtml config =>
    exact logs_withSettings fun _ _ => logs_view fun _ _ => logs_htmlReply nofun
  | exportLayoutJson => exact logs_view fun _ _ => logs_answer rfl
  | exportSvg number config =>
    exact logs_withSettings fun _ _ => logs_view fun c _ => logs_svgReply number _ c

/-! ### What can be read off the result -/

variable {reply : Reply}

theorem Logs.of_message {text : String} (h : Logs s call reply)
    (hresult : reply.result = .error (.message text)) : reply.EndsWith ⟨.error, text⟩ := by
  cases h with
  | failed text events hends =>
    cases hresult
    exact hends
  | _ => cases hresult

theorem Logs.of_input {fault : InputFault} (h : Logs s call reply)
    (hresult : reply.result = .error (.input fault)) :
    call.WritesLine ∧ reply.EndsWith ⟨.warn, fault.message⟩ := by
  cases h with
  | input fault events hcall hends =>
    cases hresult
    exact ⟨hcall, hends⟩
  | _ => cases hresult

theorem Logs.of_line {fault : LineFault} (h : Logs s call reply)
    (hresult : reply.result = .error (.line fault)) :
    (∃ text, call = .fillLines text) ∧ reply.EndsWith ⟨.warn, fault.message⟩ := by
  cases h with
  | line fault events text hcall hends =>
    cases hresult
    exact ⟨⟨text, hcall⟩, hends⟩
  | _ => cases hresult

theorem Logs.of_rejections {rejections : List Rejection} (h : Logs s call reply)
    (hresult : reply.result = .error (.rejections rejections)) :
    (∃ text options separator, call = .renderNotation text (.ok options) separator ∧
      rejections = (report text options separator).errors) ∧
    reply.console = [] ∧ reply.remarks = rejections.map Rejection.remark := by
  cases h with
  | rejected text options separator hcall =>
    cases hresult
    exact ⟨⟨text, options, separator, hcall, rfl⟩, filterMap_line?_map_remark _,
      filterMap_remark?_map_remark _⟩
  | _ => cases hresult

/-- An answer is given with lines that inform, unless the only line is kept. -/
theorem Logs.of_ok {answer : Answer} (h : Logs s call reply)
    (hresult : reply.result = .ok answer) :
    reply.Quiet answer.warnings ∨
      call = .removeLine ∧ ∃ c, s.composition = some c ∧ c.lines.length ≤ 1 := by
  cases h with
  | answered answer events hquiet =>
    cases hresult
    exact .inl hquiet
  | kept c events hcall hs hc => exact .inr ⟨hcall, c, hs, hc⟩
  | _ => cases hresult

/-- The only line is kept, and its number of lines is answered. -/
theorem step_removeLine_of_onlyLine {c : Composition} (hs : s.composition = some c)
    (hc : c.lines.length = 1) : s.step .removeLine = (s, ⟨.ok (.count 1), [.line keptLine]⟩) := by
  obtain ⟨composition⟩ := s
  cases hs
  simp only [step, edit, Composition.perform_removeLine_of_onlyLine (Nat.le_of_eq hc),
    Reply.refused, hc]
  rfl

end Session

/-! ## Failures -/

/-- **Failures are logged as they are thrown.** After any calls: if a call throws a message, the
last line on the console is an error with that message; if it throws a fault of a text that was
to be written into a composition, the last line is a warning with the wording of that fault.
Either line comes after all that is told on the way, remarks included. All else that is thrown is
what a text to be drawn was rejected for, and then there is no line: only the log is told, one
remark for each rejection. A call that throws nothing reports no error, and warns if and only if
it was to remove the only line, which is then kept. The log is warned on the way to an answer of
the words that a report lists as rejected, and of nothing else. -/
theorem failures_are_logged (calls : List Call) (call : Call) :
    let s := (Session.empty.run calls).1
    let reply := (s.step call).2
    let last := reply.console.getLast?.map fun e => (e.level, e.line)
    let lastEvent := (reply.events.getLast?.bind Event.line?).map fun e => (e.level, e.line)
    (∀ text, reply.result = .error (.message text) →
      last = some (.error, "[WASM] ❌ " ++ text) ∧ lastEvent = last) ∧
    (∀ fault, reply.result = .error (.input fault) →
      call.WritesLine ∧ last = some (.warn, "[WASM] ⚠️ " ++ fault.message) ∧ lastEvent = last) ∧
    (∀ fault, reply.result = .error (.line fault) →
      (∃ text, call = .fillLines text) ∧
        last = some (.warn, "[WASM] ⚠️ " ++ fault.message) ∧ lastEvent = last) ∧
    (∀ rejections, reply.result = .error (.rejections rejections) →
      (∃ text options separator, call = .renderNotation text (.ok options) separator ∧
        rejections = (Session.report text options separator).errors) ∧
      reply.console = [] ∧
      reply.remarks = rejections.map fun rejection => ⟨.warn, "rejected " ++ rejection.message⟩) ∧
    (∀ answer, reply.result = .ok answer →
      (∀ e ∈ reply.console, e.level ≠ .error) ∧
      ((∃ e ∈ reply.console, e.level = .warn) ↔
        call = .removeLine ∧ ∃ c, s.composition = some c ∧ c.lines.length = 1) ∧
      ((∃ e ∈ reply.console, e.level = .warn) →
        (s.step call).1 = s ∧ answer = .count 1) ∧
      reply.remarks.filter Remark.warns = answer.warnings) := by
  intro s reply last lastEvent
  have hempty : ∀ c, Session.empty.composition = some c → ∃ t, c.WellFormed t := by
    intro c h
    cases h
  have hpos : ∀ c, s.composition = some c → 0 < c.lines.length := by
    intro c hc
    obtain ⟨t, ht⟩ := Session.exists_wellFormed_of_run calls hempty c hc
    exact ht.lines_pos
  have hlogs : Session.Logs s call reply := Session.logs_step s call
  have hlast : ∀ {e : Entry}, reply.EndsWith e →
      last = some (e.level, e.line) ∧ lastEvent = last := by
    intro e h
    have hconsole : last = some (e.level, e.line) := congrArg (Option.map _) h.getLast?_console
    have hevents : lastEvent = some (e.level, e.line) :=
      congrArg (fun last => (last.bind Event.line?).map fun e => (e.level, e.line)) h.events
    exact ⟨hconsole, hevents.trans hconsole.symm⟩
  refine ⟨fun text hthrown => hlast (hlogs.of_message hthrown), fun fault hthrown => ?input,
    fun fault hthrown => ?line, fun rejections hthrown => hlogs.of_rejections hthrown,
    fun answer hanswer => ?answer⟩
  case input =>
    obtain ⟨hcall, hends⟩ := hlogs.of_input hthrown
    exact ⟨hcall, hlast hends⟩
  case line =>
    obtain ⟨hcall, hends⟩ := hlogs.of_line hthrown
    exact ⟨hcall, hlast hends⟩
  case answer =>
    by_cases honly : call = .removeLine ∧ ∃ c, s.composition = some c ∧ c.lines.length = 1
    · obtain ⟨hcall, c, hc, hlines⟩ := honly
      have hkept : s.step call = (s, ⟨.ok (.count 1), [.line Session.keptLine]⟩) := by
        rw [hcall]
        exact Session.step_removeLine_of_onlyLine hc hlines
      have hreply : reply = ⟨.ok (.count 1), [.line Session.keptLine]⟩ := congrArg Prod.snd hkept
      have hconsole : reply.console = [Session.keptLine] := by
        rw [hreply]
        rfl
      have hcount : answer = .count 1 := by
        rw [hreply] at hanswer
        exact (Except.ok.inj hanswer).symm
      refine ⟨?_, ?_, fun _ => ⟨congrArg Prod.fst hkept, hcount⟩, ?_⟩
      · simp [hconsole, Session.keptLine]
      · rw [hconsole]
        exact iff_of_true ⟨_, List.mem_singleton_self _, rfl⟩ ⟨hcall, c, hc, hlines⟩
      · rw [hreply, hcount]
        rfl
    · have hquiet : reply.Quiet answer.warnings := by
        rcases hlogs.of_ok hanswer with hquiet | ⟨hcall, c, hc, hlines⟩
        · exact hquiet
        · exact absurd ⟨hcall, c, hc, Nat.le_antisymm hlines (hpos c hc)⟩ honly
      have hwarns : ¬ ∃ e ∈ reply.console, e.level = .warn := by
        rintro ⟨e, he, hwarn⟩
        exact (hquiet.informs e he).level_ne.2 hwarn
      exact ⟨fun e he => (hquiet.informs e he).level_ne.1, iff_of_false hwarns honly,
        fun h => absurd h hwarns, hquiet.warnings⟩

/-- Each kind of failure in a session that holds one line of dadra, and the line kept. The wording
of two tokens that cannot be read takes three lines itself. A text that is drawn and one that is
reported on leave the same remark in the log. -/
theorem failures_are_logged_dadra :
    let calls : List Call := [.newComposition "dadra" 1, .fillLine 1 "SA RE"]
    let s := (Session.empty.run calls).1
    let last := fun call => (s.step call).2.console.getLast?.map fun e => (e.level, e.line)
    ((s.step (.newComposition "tintal" 2)).2.result = .error (.message "Unknown taal: tintal") ∧
      last (.newComposition "tintal" 2) = some (.error, "[WASM] ❌ Unknown taal: tintal")) ∧
    ((s.step (.setMatra 1 2 "SA_k H")).2.result =
        .error (.input (.tokens [⟨1, "SA_k", .unlawful (.illegalModifier .sa .komal)⟩,
          ⟨2, "H", .unknownNote "H"⟩])) ∧
      last (.setMatra 1 2 "SA_k H") = some (.warn, "[WASM] ⚠️ 2 invalid token(s)\n" ++
        "  token 1 'SA_k': 'SA' cannot be komal\n  token 2 'H': unknown note 'H'")) ∧
    ((s.step (.fillLines "SA | SA SA SA SA SA SA SA")).2.result =
        .error (.line ⟨2, .position ⟨7, 6⟩⟩) ∧
      last (.fillLines "SA | SA SA SA SA SA SA SA") =
        some (.warn, "[WASM] ⚠️ line 2: matra 7 out of range (1-6)")) ∧
    ((s.step (.renderNotation "H" (.ok {}) none)).2.result =
        .error (.rejections [⟨1, "H", .unknownNote "H"⟩]) ∧
      (s.step (.renderNotation "H" (.ok {}) none)).2.console = [] ∧
      (s.step (.renderNotation "H" (.ok {}) none)).2.remarks =
        [⟨.warn, "rejected token 1 'H': unknown note 'H'"⟩]) ∧
    (∃ r, (s.step (.parseNotation "H" (.ok {}) none)).2.result = .ok (.report r) ∧
      (s.step (.parseNotation "H" (.ok {}) none)).2.remarks.filter Remark.warns =
        [⟨.warn, "rejected token 1 'H': unknown note 'H'"⟩]) ∧
    ((s.step .removeLine).2.result = .ok (.count 1) ∧
      (∃ e ∈ (s.step .removeLine).2.console, e.level = .warn) ∧ (s.step .removeLine).1 = s) := by
  intro calls s last
  have hmessage : (s.step (.newComposition "tintal" 2)).2.result =
      .error (.message "Unknown taal: tintal") := by decide +kernel
  have hinput : (s.step (.setMatra 1 2 "SA_k H")).2.result =
      .error (.input (.tokens [⟨1, "SA_k", .unlawful (.illegalModifier .sa .komal)⟩,
        ⟨2, "H", .unknownNote "H"⟩])) := by decide +kernel
  have hline : (s.step (.fillLines "SA | SA SA SA SA SA SA SA")).2.result =
      .error (.line ⟨2, .position ⟨7, 6⟩⟩) := by decide +kernel
  have hrejected : (s.step (.renderNotation "H" (.ok {}) none)).2.result =
      .error (.rejections [⟨1, "H", .unknownNote "H"⟩]) := by decide +kernel
  have hreport : (s.step (.parseNotation "H" (.ok {}) none)).2.result =
      .ok (.report ⟨false, none, [], [⟨1, "H", .unknownNote "H"⟩]⟩) := by decide +kernel
  have hkept : (s.step .removeLine).2.result = .ok (.count 1) := by decide +kernel
  have hwarns : ∃ e ∈ (s.step .removeLine).2.console, e.level = .warn := by decide +kernel
  obtain ⟨-, hconsole, hremarks⟩ := (failures_are_logged calls _).2.2.2.1 _ hrejected
  exact ⟨⟨hmessage, ((failures_are_logged calls _).1 _ hmessage).1⟩,
    ⟨hinput, ((failures_are_logged calls _).2.1 _ hinput).2.1⟩,
    ⟨hline, ((failures_are_logged calls _).2.2.1 _ hline).2.1⟩,
    ⟨hrejected, hconsole, hremarks⟩,
    ⟨_, hreport, ((failures_are_logged calls _).2.2.2.2 _ hreport).2.2.2⟩,
    hkept, hwarns, (((failures_are_logged calls _).2.2.2.2 _ hkept).2.2.1 hwarns).1⟩

end Sargam
