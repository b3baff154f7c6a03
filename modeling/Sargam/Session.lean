import Sargam.Composition.Editing
import Sargam.Export.Html
import Sargam.Export.Svg
import Sargam.Export.Table
import Sargam.Layout.Json
import Sargam.Remarks
import Sargam.Report
import Sargam.Taal.Library

/-!
# Sessions

An editor works in a session, which holds at most one composition and answers calls one at a
time. A call either answers or throws, and tells the console about it: every failure of the
session itself is logged as an error, every refused edit as a warning. In between come the remarks
of what is read and filled on the way. They go to the log, which is a channel of its own: a
console that shows the log as well shows them beside the lines of the session, in the order of
the events.

* `Call`: what can be asked of a session.
* `Event`: a line for the console or a remark for the log.
* `Reply`: the answer or what is thrown, and the events on the way to it.
* `Session.step`, `Session.run`: a session after one call or several, with the replies.
-/

namespace Sargam

/-! ## Calls -/

/-- Settings that were sent with a call, or why they could not be decoded. -/
abbrev Decoded (α : Type) := Except String α

/-- What can be asked of a session. -/
inductive Call where
  | parseNotation (text : String) (options : Decoded RenderOptions) (separator : Option String)
  | renderNotation (text : String) (options : Decoded RenderOptions) (separator : Option String)
  | availableTaals
  | listTaals
  | newComposition (taal : String) (lines : Nat)
  | addLine
  | removeLine
  | setMatra (line matra : Nat) (text : String)
  | fillLine (line : Nat) (text : String)
  | fillLines (text : String)
  | distributeLine (line : Nat) (text : String)
  | clearComposition
  | getGridLayout (options : Decoded RenderOptions)
  | exportText (heading : Bool)
  | exportHtml (config : Decoded ExportConfig)
  | exportLayoutJson
  | exportSvg (line : Nat) (config : Decoded ExportConfig)

/-! ## Replies -/

/-- What a call answers. -/
inductive Answer where
  | done
  | count (n : Nat)
  | text (text : String)
  | names (names : List String)
  | taal (summary : Taal.Summary)
  | taals (summaries : List Taal.Summary)
  | report (report : Report)
  | layouts (layouts : List Layout)
  deriving DecidableEq, Repr

/-- What a call throws: a message, or what was wrong with the text that was sent. -/
inductive Thrown where
  | message (text : String)
  | rejections (rejections : List Rejection)
  | input (fault : InputFault)
  | line (fault : LineFault)
  deriving DecidableEq, Repr

/-- How much a line of the console matters. -/
inductive Level where
  | log | info | warn | error
  deriving DecidableEq, Repr

/-- What a level puts before its lines. -/
def Level.label : Level → String
  | .log | .info => "[WASM] "
  | .warn => "[WASM] ⚠️ "
  | .error => "[WASM] ❌ "

/-- A line of the console. -/
structure Entry where
  level : Level
  message : String
  deriving DecidableEq, Repr

/-- A line of the console as it is shown. -/
def Entry.line (e : Entry) : String := e.level.label ++ e.message

/-- What is told while a call is answered. -/
inductive Event where
  | line (entry : Entry)
  | remark (remark : Remark)
  deriving DecidableEq, Repr

/-- The line for the console, if it is one. -/
def Event.line? : Event → Option Entry
  | .line entry => some entry
  | .remark _ => none

/-- The remark for the log, if it is one. -/
def Event.remark? : Event → Option Remark
  | .line _ => none
  | .remark r => some r

/-- The answer to a call, or what it throws, and all that is told on the way to it. -/
structure Reply where
  result : Except Thrown Answer
  events : List Event

namespace Reply

/-- The lines for the console, in order. What goes to the log is not among them. -/
def console (r : Reply) : List Entry := r.events.filterMap Event.line?

/-- The remarks for the log, in order. -/
def remarks (r : Reply) : List Remark := r.events.filterMap Event.remark?

/-- A plain answer. -/
def answer (a : Answer) : Reply := ⟨.ok a, []⟩

/-- A failure of the session, which is thrown and logged with the same words. -/
def fail (message : String) : Reply :=
  ⟨.error (.message message), [.line ⟨.error, message⟩]⟩

/-- A refused text. -/
def refuse (thrown : Thrown) (message : String) : Reply :=
  ⟨.error thrown, [.line ⟨.warn, message⟩]⟩

/-- A reply with a line for the console before its own. -/
def after (level : Level) (message : String) (r : Reply) : Reply :=
  { r with events := .line ⟨level, message⟩ :: r.events }

/-- A reply with remarks for the log before all else. -/
def afterRemarks (remarks : List Remark) (r : Reply) : Reply :=
  { r with events := remarks.map .remark ++ r.events }

/-- The reply that needs settings, unless they could not be decoded. -/
def withSettings {α : Type} (context : String) (settings : Decoded α) (reply : α → Reply) :
    Reply :=
  match settings with
  | .error problem => fail (context ++ ": " ++ problem)
  | .ok value => reply value

/-- The reply that needs render options. -/
def withOptions (options : Decoded RenderOptions) (reply : RenderOptions → Reply) : Reply :=
  withSettings "Invalid render options" options reply

/-- The reply that needs export settings. -/
def withConfig (config : Decoded ExportConfig) (reply : ExportConfig → Reply) : Reply :=
  withSettings "Invalid export config" config reply

/-- The reply to a line number that no line has. -/
def noLine (line : Nat) : Reply := fail s!"Line out of range: {line}"

/-- The reply to a refused edit of a composition. The only line is kept without a failure. -/
def refused (c : Composition) : Composition.Refusal → Reply
  | .noLine line => noLine line
  | .onlyLine =>
    after .warn "removeLine: composition must keep at least one line"
      (answer (.count c.lines.length))
  | .lines fault => refuse (.line fault) fault.message
  | .cell fault => refuse (.input fault) fault.message

end Reply

/-! ## Sessions -/

/-- The state of an editor. -/
structure Session where
  composition : Option Composition
  deriving DecidableEq

namespace Session

/-- The session in which nothing is loaded. -/
def empty : Session := ⟨none⟩

/-- The reply to a call that needs a composition and leaves it as it is. -/
def view (s : Session) (reply : Composition → Reply) : Reply :=
  match s.composition with
  | none => Reply.fail "No composition loaded"
  | some c => reply c

/-- The session after an edit, with the reply to it. The composition is edited in place, so
the session holds whatever the edit leaves behind. The remarks are on the composition as it was. -/
def edit (s : Session) (e : Composition.Edit) (reply : Composition → Reply) :
    Session × Reply :=
  match s.composition with
  | none => (s, Reply.fail "No composition loaded")
  | some c =>
    match Composition.perform e c with
    | .error refusal left =>
      (⟨some left⟩, (Reply.refused left refusal).afterRemarks (c.remarks e))
    | .ok _ edited => (⟨some edited⟩, (reply edited).afterRemarks (c.remarks e))

/-- The report on a text with the separator that was sent, or the usual one. -/
def report (text : String) (options : RenderOptions) (separator : Option String) : Report :=
  Report.ofText options (separator.getD Report.defaultSeparator) text

/-- The reply that is made from the report on a text. The text is read for it, and the remarks on
that go to the log, those on refused words included, whether the reply throws or not. -/
def notationReply (reply : Report → Reply) (text : String) (separator : Option String)
    (options : RenderOptions) : Reply :=
  (reply (report text options separator)).afterRemarks (readingRemarks text)

/-- The reply that gives a whole report. -/
def reportReply (r : Report) : Reply :=
  Reply.after .log
    s!"parseNotation: {r.swaras.length} swara(s), {r.errors.length} error(s)"
    (Reply.answer (.report r))

/-- The reply that gives the music text of a report alone. -/
def renderedReply (r : Report) : Reply :=
  match r.rendered with
  | some rendered => Reply.answer (.text rendered)
  | none => ⟨.error (.rejections r.errors), []⟩

/-- The session with a new composition in place of the one it holds. -/
def newComposition (s : Session) (name : String) (lines : Nat) : Session × Reply :=
  let (loaded, reply) := match Taal.find? name with
    | none => (s, Reply.fail s!"Unknown taal: {name}")
    | some t => (⟨some (Composition.new t lines)⟩, Reply.answer (.taal t.summary))
  (loaded, reply.after .info s!"newComposition called: taal='{name}', lines={lines}")

/-- The reply with an HTML export. -/
def htmlReply : Except Export.ExportFault String → Reply
  | .error fault => Reply.fail s!"HTML export error: {fault.message}"
  | .ok html =>
    Reply.after .info s!"HTML generated: {html.utf8ByteSize} bytes" (Reply.answer (.text html))

/-- The reply with a line as SVG. -/
def svgReply (line : Nat) (config : ExportConfig) (c : Composition) : Reply :=
  match c.line? line with
  | none => Reply.noLine line
  | some g => Reply.answer (.text (Export.svg config (g.layout {})))

/-- The session after a call, with the reply to it. -/
def step (s : Session) : Call → Session × Reply
  | .parseNotation text options separator =>
    (s, Reply.withOptions options (notationReply reportReply text separator))
  | .renderNotation text options separator =>
    (s, Reply.withOptions options (notationReply renderedReply text separator))
  | .availableTaals => (s, Reply.answer (.names Taal.names))
  | .listTaals => (s, Reply.answer (.taals (Taal.library.map Taal.summary)))
  | .newComposition taal lines => s.newComposition taal lines
  | .addLine => s.edit .addLine fun c => Reply.answer (.count c.lines.length)
  | .removeLine => s.edit .removeLine fun c => Reply.answer (.count c.lines.length)
  | .setMatra line matra text =>
    let (edited, reply) :=
      s.edit (.onLine line (.setText matra text)) fun _ => Reply.answer .done
    (edited, reply.after .log s!"setMatra: line={line}, matra={matra}, text='{text}'")
  | .fillLine line text => s.edit (.onLine line (.fill text)) fun _ => Reply.answer .done
  | .fillLines text =>
    let filled := (Composition.segments text).length
    s.edit (.fillLines text) fun c =>
      Reply.after .info s!"fillLines: {filled} line(s) filled, {c.lines.length} total"
        (Reply.answer (.count filled))
  | .distributeLine line text =>
    s.edit (.onLine line (.distribute text)) fun _ => Reply.answer .done
  | .clearComposition => s.edit .clear fun _ => Reply.answer .done
  | .getGridLayout options =>
    (s, Reply.withOptions options fun options =>
      s.view fun c => Reply.answer (.layouts (c.layouts options)))
  | .exportText heading =>
    (s, s.view fun c => Reply.answer (.text (Export.table (c.layouts {}) heading)))
  | .exportHtml config =>
    (s, Reply.withConfig config fun config =>
      s.view fun c => htmlReply (Export.html config (c.layouts {})))
  | .exportLayoutJson =>
    (s, s.view fun c => Reply.answer (.text (Layout.jsonText (c.layouts {}))))
  | .exportSvg line config =>
    (s, Reply.withConfig config fun config => s.view (svgReply line config))

/-- The session after several calls, with the replies to them. -/
def run (s : Session) : List Call → Session × List Reply
  | [] => (s, [])
  | call :: rest =>
    let (next, reply) := s.step call
    let (last, replies) := run next rest
    (last, reply :: replies)

end Session

end Sargam
