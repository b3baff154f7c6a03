import Sargam.Proofs.Checked.Export
import Sargam.Proofs.SessionHistory

/-!
# Sessions with checked operations

The known taals are made when one of them is asked for first, which needs each of their outlines
to be consistent. A session holds nothing or a well-formed composition in one of these taals; all
of them are short, so a drawing of a line is never too wide. Hence every call is defined, as long
as the settings of an export leave room for what is added to their sizes.

* `library_eq_some`: the known taals.
* `HoldsKnown`, `holdsKnown_step`: what sessions hold, and every call keeps that.
* `step_eq_some`, `run_eq_some`: one call and several of them.
* `every_operation_defined`: nothing undefined is reached in sessions, and in grids of any taal.
-/

namespace Sargam

namespace Checked

/-! ## Known taals -/

/-- The known taals, if each of their outlines is consistent. -/
def library : Option (List Taal) := Taal.outlines.mapM fun o => o.build.toOption

def findTaal (name : String) : Option (Option Taal) := do
  return (← library).find? fun t => t.name == Text.lower (Text.trim name)

theorem mapM_eq_filterMap {α β : Type} {f : α → Option β} {items : List α}
    (h : ∀ a ∈ items, (f a).isSome = true) : items.mapM f = some (items.filterMap f) := by
  induction items with
  | nil => rfl
  | cons a rest ih =>
    obtain ⟨ha, hrest⟩ := List.forall_mem_cons.mp h
    obtain ⟨b, hb⟩ := Option.isSome_iff_exists.mp ha
    rw [List.mapM_cons, hb, ih hrest, List.filterMap_cons, hb]
    rfl

theorem library_eq_some : library = some Taal.library :=
  mapM_eq_filterMap (by decide +kernel)

theorem findTaal_eq_some (name : String) : findTaal name = some (Taal.find? name) := by
  rw [findTaal, library_eq_some]
  rfl

theorem totalMatras_le : ∀ t ∈ Taal.library, t.totalMatras ≤ 16 := by decide +kernel

/-! ## Calls -/

def layouts (options : RenderOptions) (c : Composition) : Option (List Layout) :=
  c.lines.mapM (layout options)

def withSettings {α : Type} (context : String) (settings : Decoded α)
    (reply : α → Option Reply) : Option Reply :=
  match settings with
  | .error problem => some (Reply.fail (context ++ ": " ++ problem))
  | .ok value => reply value

def withOptions (options : Decoded RenderOptions) (reply : RenderOptions → Option Reply) :
    Option Reply :=
  withSettings "Invalid render options" options reply

def withConfig (config : Decoded ExportConfig) (reply : ExportConfig → Option Reply) :
    Option Reply :=
  withSettings "Invalid export config" config reply

def view (s : Session) (reply : Composition → Option Reply) : Option Reply :=
  match s.composition with
  | none => some (Reply.fail "No composition loaded")
  | some c => reply c

def edit (s : Session) (e : Composition.Edit) (reply : Composition → Reply) :
    Option (Session × Reply) :=
  match s.composition with
  | none => some (s, Reply.fail "No composition loaded")
  | some c => do
    match ← editComposition c e with
    | .error refusal => return (s, (Reply.refused c refusal).afterRemarks (c.remarks e))
    | .ok edited => return (⟨some edited⟩, (reply edited).afterRemarks (c.remarks e))

def newComposition (s : Session) (name : String) (lines : Nat) : Option (Session × Reply) := do
  let (loaded, reply) := match ← findTaal name with
    | none => (s, Reply.fail s!"Unknown taal: {name}")
    | some t => (⟨some (Composition.new t lines)⟩, Reply.answer (.taal t.summary))
  return (loaded, reply.after .info s!"newComposition called: taal='{name}', lines={lines}")

def notationReply (reply : Report → Reply) (text : String) (separator : Option String)
    (options : RenderOptions) : Option Reply := do
  let report ← report options (separator.getD Report.defaultSeparator) text
  return (reply report).afterRemarks (readingRemarks text)

def layoutsReply (options : RenderOptions) (c : Composition) : Option Reply := do
  return Reply.answer (.layouts (← layouts options c))

def tableReply (heading : Bool) (c : Composition) : Option Reply := do
  return Reply.answer (.text (← table (← layouts {} c) heading))

def htmlReply (config : ExportConfig) (c : Composition) : Option Reply := do
  return Session.htmlReply (← html config (← layouts {} c))

def jsonReply (c : Composition) : Option Reply := do
  return Reply.answer (.text (Layout.jsonText (← layouts {} c)))

def svgReply (line : Nat) (config : ExportConfig) (c : Composition) : Option Reply :=
  match c.line? line with
  | none => some (Reply.noLine line)
  | some g => do return Reply.answer (.text (← drawing config (← layout {} g)))

def step (s : Session) : Call → Option (Session × Reply)
  | .parseNotation text options separator => do
    return (s, ← withOptions options (notationReply Session.reportReply text separator))
  | .renderNotation text options separator => do
    return (s, ← withOptions options (notationReply Session.renderedReply text separator))
  | .availableTaals => do
    return (s, Reply.answer (.names ((← library).map fun t => t.name)))
  | .listTaals => do return (s, Reply.answer (.taals ((← library).map Taal.summary)))
  | .newComposition taal lines => newComposition s taal lines
  | .addLine => edit s .addLine fun c => Reply.answer (.count c.lines.length)
  | .removeLine => edit s .removeLine fun c => Reply.answer (.count c.lines.length)
  | .setMatra line matra text => do
    let (edited, reply) ←
      edit s (.onLine line (.setText matra text)) fun _ => Reply.answer .done
    return (edited, reply.after .log s!"setMatra: line={line}, matra={matra}, text='{text}'")
  | .fillLine line text => edit s (.onLine line (.fill text)) fun _ => Reply.answer .done
  | .fillLines text =>
    let filled := (Composition.segments text).length
    edit s (.fillLines text) fun c =>
      Reply.after .info s!"fillLines: {filled} line(s) filled, {c.lines.length} total"
        (Reply.answer (.count filled))
  | .distributeLine line text =>
    edit s (.onLine line (.distribute text)) fun _ => Reply.answer .done
  | .clearComposition => edit s .clear fun _ => Reply.answer .done
  | .getGridLayout options => do
    return (s, ← withOptions options fun options => view s (layoutsReply options))
  | .exportText heading => do return (s, ← view s (tableReply heading))
  | .exportHtml config => do
    return (s, ← withConfig config fun config => view s (htmlReply config))
  | .exportLayoutJson => do return (s, ← view s jsonReply)
  | .exportSvg line config => do
    return (s, ← withConfig config fun config => view s (svgReply line config))

def run (s : Session) : List Call → Option (Session × List Reply)
  | [] => some (s, [])
  | call :: rest => do
    let (next, reply) ← step s call
    let (last, replies) ← run next rest
    return (last, reply :: replies)

/-- A call whose export settings, if they can be decoded, have room for what is added to their
sizes. -/
def CallFits : Call → Prop
  | .exportHtml config | .exportSvg _ config => ∀ value, config = .ok value → Fits value
  | _ => True

/-- A session that holds nothing or a well-formed composition in a known taal. -/
def HoldsKnown (s : Session) : Prop :=
  ∀ c, s.composition = some c → ∃ t ∈ Taal.library, c.WellFormed t

theorem holdsKnown_empty : HoldsKnown Session.empty := by
  intro c h
  cases h

/-- Every call keeps that. -/
theorem holdsKnown_step {s : Session} (h : HoldsKnown s) (call : Call) :
    HoldsKnown (s.step call).1 := by
  intro c hc
  rw [Session.composition_step, Option.or_eq_some_iff] at hc
  rcases hc with hstarted | ⟨-, hedited⟩
  · obtain ⟨name, lines, t, -, hfind, rfl⟩ := Call.started?_eq_some_iff.mp hstarted
    exact ⟨t, List.mem_of_find?_eq_some hfind, Composition.wellFormed_new t lines⟩
  · obtain ⟨held, hheld, rfl⟩ := Option.map_eq_some_iff.mp hedited
    obtain ⟨t, ht, hwell⟩ := h held hheld
    exact ⟨t, ht, Composition.wellFormed_run hwell _⟩

/-! ## Definedness -/

theorem layouts_eq_some (options : RenderOptions) {c : Composition} {t : Taal}
    (hc : c.WellFormed t) : layouts options c = some (c.layouts options) :=
  mapM_eq_some fun g hg => layout_eq_some options (hc.line g hg)

theorem edit_eq_some (s : Session) (e : Composition.Edit) (reply : Composition → Reply) :
    edit s e reply = some (s.edit e reply) := by
  obtain ⟨composition⟩ := s
  cases composition with
  | none => rfl
  | some c =>
    simp only [edit, Session.edit, editComposition_eq_some, Composition.perform_eq,
      Editing.allOrNothing, Option.bind_eq_bind, Option.bind_some]
    cases c.apply e <;> rfl

theorem newComposition_eq_some (s : Session) (name : String) (lines : Nat) :
    newComposition s name lines = some (s.newComposition name lines) := by
  simp only [newComposition, Session.newComposition, findTaal_eq_some, Option.bind_eq_bind,
    Option.bind_some]
  cases Taal.find? name <;> rfl

variable {α : Type} {s : Session}

theorem withSettings_eq_some (context : String) {settings : Decoded α}
    {checked : α → Option Reply} {reply : α → Reply}
    (h : ∀ value, settings = .ok value → checked value = some (reply value)) :
    withSettings context settings checked = some (Reply.withSettings context settings reply) := by
  cases settings with
  | error problem => rfl
  | ok value => exact h value rfl

theorem notationReply_eq_some (reply : Report → Reply) (text : String)
    (separator : Option String) (options : RenderOptions) :
    notationReply reply text separator options =
      some (Session.notationReply reply text separator options) := by
  rw [notationReply, report_eq_some]
  rfl

theorem view_eq_some {checked : Composition → Option Reply} {reply : Composition → Reply}
    (h : ∀ c, s.composition = some c → checked c = some (reply c)) :
    view s checked = some (s.view reply) := by
  obtain ⟨composition⟩ := s
  cases composition with
  | none => rfl
  | some c => exact h c rfl

theorem svgReply_eq_some {config : ExportConfig} (h : Fits config) {c : Composition} {t : Taal}
    (hc : c.WellFormed t) (ht : t.totalMatras ≤ 16) (line : Nat) :
    svgReply line config c = some (Session.svgReply line config c) := by
  rw [svgReply, Session.svgReply]
  cases hline : c.line? line with
  | none => rfl
  | some g =>
    have hg := hc.line g (Composition.mem_of_line? hline)
    have hdrawing := drawing_eq_some (measurable_of_fits h hg (by omega) {})
    simp only [layout_eq_some {} hg, hdrawing, Option.bind_eq_bind, Option.bind_some]
    rfl

/-- Every call is defined in every session that can be reached. -/
theorem step_eq_some (hs : HoldsKnown s) {call : Call} (hcall : CallFits call) :
    step s call = some (s.step call) := by
  have hlayouts : ∀ options c, s.composition = some c →
      layouts options c = some (c.layouts options) := by
    intro options c hc
    obtain ⟨t, -, hwell⟩ := hs c hc
    exact layouts_eq_some options hwell
  cases call with
  | parseNotation text options separator =>
    rw [step, withOptions, withSettings_eq_some _ fun value _ =>
      notationReply_eq_some Session.reportReply text separator value]
    rfl
  | renderNotation text options separator =>
    rw [step, withOptions, withSettings_eq_some _ fun value _ =>
      notationReply_eq_some Session.renderedReply text separator value]
    rfl
  | availableTaals | listTaals =>
    rw [step, library_eq_some]
    rfl
  | newComposition taal lines => exact newComposition_eq_some s taal lines
  | addLine | removeLine | fillLine | fillLines | distributeLine | clearComposition =>
    exact edit_eq_some s _ _
  | setMatra line matra text =>
    rw [step, edit_eq_some]
    rfl
  | getGridLayout options =>
    have hreply : ∀ value, view s (layoutsReply value) =
        some (s.view fun c => Reply.answer (.layouts (c.layouts value))) := fun value =>
      view_eq_some fun c hc => by
        rw [layoutsReply, hlayouts value c hc]
        rfl
    rw [step, withOptions, withSettings_eq_some _ fun value _ => hreply value]
    rfl
  | exportText heading =>
    have hreply : view s (tableReply heading) =
        some (s.view fun c => Reply.answer (.text (Export.table (c.layouts {}) heading))) :=
      view_eq_some fun c hc => by
        simp only [tableReply, hlayouts {} c hc, table_eq_some, Option.bind_eq_bind,
          Option.bind_some]
        rfl
    rw [step, hreply]
    rfl
  | exportHtml config =>
    have hreply : ∀ value, config = .ok value → view s (htmlReply value) =
        some (s.view fun c => Session.htmlReply (Export.html value (c.layouts {}))) :=
      fun value hvalue => view_eq_some fun c hc => by
        simp only [htmlReply, hlayouts {} c hc, html_eq_some (hcall value hvalue),
          Option.bind_eq_bind, Option.bind_some]
        rfl
    rw [step, withConfig, withSettings_eq_some _ hreply]
    rfl
  | exportLayoutJson =>
    have hreply : view s jsonReply =
        some (s.view fun c => Reply.answer (.text (Layout.jsonText (c.layouts {})))) :=
      view_eq_some fun c hc => by
        rw [jsonReply, hlayouts {} c hc]
        rfl
    rw [step, hreply]
    rfl
  | exportSvg line config =>
    have hreply : ∀ value, config = .ok value → view s (svgReply line value) =
        some (s.view (Session.svgReply line value)) :=
      fun value hvalue => view_eq_some fun c hc => by
        obtain ⟨t, ht, hwell⟩ := hs c hc
        exact svgReply_eq_some (hcall value hvalue) hwell (totalMatras_le t ht) line
    rw [step, withConfig, withSettings_eq_some _ hreply]
    rfl

theorem run_eq_some (hs : HoldsKnown s) {calls : List Call} (h : ∀ call ∈ calls, CallFits call) :
    run s calls = some (s.run calls) := by
  induction calls generalizing s with
  | nil => rfl
  | cons call rest ih =>
    obtain ⟨hcall, hrest⟩ := List.forall_mem_cons.mp h
    simp only [run, step_eq_some hs hcall, ih (holdsKnown_step hs call) hrest,
      Option.bind_eq_bind, Option.bind_some, Session.run_cons]
    rfl

end Checked

/-- **Nothing undefined is reached.** Every session answers any calls without an undefined
operation, as long as export settings have room for what is added to their sizes. So do grids of
any taal after any edits when their text, their layout, their line and their drawing are asked
for, the drawing as long as its width is a word; and every table and every page can be made of
any layouts. All these have the results that they have without a look at what is defined. -/
theorem every_operation_defined :
    (∀ calls : List Call, (∀ call ∈ calls, Checked.CallFits call) →
      Checked.run Session.empty calls = some (Session.empty.run calls)) ∧
    (∀ (t : Taal) (edits : List Grid.Edit) (options : RenderOptions),
      let g := (Grid.new t).run edits
      let l := g.layout options
      Checked.editGrids (Grid.new t) edits = some g ∧
      (∀ position, Checked.cell g position = some (g.cell position)) ∧
      (∀ text, Checked.distributeText g text = some (g.distribute text)) ∧
      Checked.sequenceText g = some g.sequenceText ∧
      Checked.layout options g = some l ∧
      Checked.line options g = some l.toLine ∧
      (∀ config, Checked.Fits config → 80 * t.totalMatras + 40 < 4294967296 →
        Checked.drawing config l = some (Export.svg config l))) ∧
    (∀ layouts heading, Checked.table layouts heading = some (Export.table layouts heading)) ∧
    (∀ config layouts, Checked.Fits config →
      Checked.html config layouts = some (Export.html config layouts)) := by
  refine ⟨fun calls h => Checked.run_eq_some Checked.holdsKnown_empty h,
    fun t edits options => ?_, Checked.table_eq_some,
    fun config layouts h => Checked.html_eq_some h layouts⟩
  have hg : ((Grid.new t).run edits).WellFormed t :=
    Grid.wellFormed_run (Grid.wellFormed_new t) edits
  exact ⟨Checked.editGrids_eq_some _ edits, Checked.cell_eq_some _,
    Checked.distributeText_eq_some _, Checked.sequenceText_eq_some hg,
    Checked.layout_eq_some options hg, Checked.line_eq_some options hg,
    fun config h hwide => Checked.drawing_eq_some (Checked.measurable_of_fits h hg hwide options)⟩

/-- Calls with a text whose characters have several bytes, an octave beyond every word, more
notes than matras and the greatest sizes, and the drawing of a grid of dadra. -/
theorem every_operation_defined_dadra :
    let calls : List Call := [.newComposition "dadra" 1, .setMatra 1 1 "सा-99999999999",
      .distributeLine 1 "SA RE GA MA PA DHA NI",
      .exportHtml (.ok { fontSize := 4294967287, cellPadding := 4294967291 }),
      .exportSvg 1 (.ok {})]
    let l := ((Grid.new Taal.dadra).run [.fill "SA RE_k - GA", .setText 7 "SA"]).layout {}
    (∀ call ∈ calls, Checked.CallFits call) ∧
    Checked.run Session.empty calls = some (Session.empty.run calls) ∧
    80 * Taal.dadra.totalMatras + 40 < 4294967296 ∧
    Checked.drawing {} l = some (Export.svg {} l) := by
  intro calls l
  have hgreatest : Checked.Fits { fontSize := 4294967287, cellPadding := 4294967291 } :=
    ⟨Nat.le_refl _, Nat.le_refl _⟩
  have husual : Checked.Fits {} := ⟨by decide, by decide⟩
  have hcalls : ∀ call ∈ calls, Checked.CallFits call := by
    simp only [calls, List.forall_mem_cons, Checked.CallFits, Except.ok.injEq, forall_eq',
      true_and]
    exact ⟨hgreatest, husual, fun _ h => absurd h List.not_mem_nil⟩
  have hwide : 80 * Taal.dadra.totalMatras + 40 < 4294967296 := by decide +kernel
  obtain ⟨hsession, hgrid, -⟩ := every_operation_defined
  obtain ⟨-, -, -, -, -, -, hsvg⟩ := hgrid Taal.dadra [.fill "SA RE_k - GA", .setText 7 "SA"] {}
  exact ⟨hcalls, hsession calls hcalls, hwide, hsvg {} husual hwide⟩

end Sargam
