import Sargam.Proofs.Rejections
import Sargam.Proofs.RoundTrip
import Sargam.Session

/-!
# Reports on typed music

A report says of a text whether it could be read, and if so, what was read in three ways: as music
text, as a view of each note and as the token of each note. They are made one by one, so they have
to be brought together: the music text is that of the views, there is a view for each word, and the
tokens, typed again, give the same report. A session gives the report as a whole or its music text
alone, and throws what was refused only where the report has no music text.

* `Report.Coherent`: a report whose parts agree.
* `Report.coherent_ofText`: every report on a text.
* `reports_coherent`: every report is coherent, and both calls of a session agree on it.
-/

namespace Sargam

namespace Report

variable {options : RenderOptions} {separator text : String}

/-- The parts of a report on a text agree. -/
structure Coherent (options : RenderOptions) (separator text : String) (r : Report) : Prop where
  ok_iff_errors : r.ok = true ↔ r.errors = []
  ok_iff_rendered : r.ok = true ↔ r.rendered.isSome = true
  /-- There is one view for each word, of the note that it is read as. -/
  views : r.ok = true → ∃ swaras : List Swara, (Text.words text).map Token.parse = swaras.map .ok ∧
    r.swaras = swaras.map (SwaraView.ofSwara options)
  rendered_eq : r.ok = true →
    r.rendered = some (separator.intercalate (r.swaras.map SwaraView.rendered))
  /-- The tokens of the views are reported on in the same way. -/
  again : r.ok = true →
    ofText options separator (" ".intercalate (r.swaras.map SwaraView.token)) = r
  refused : r.ok = false → r.swaras = [] ∧ parseSequence text = .error r.errors

/-! ## Reports on texts -/

theorem ofText_of_ok {swaras : List Swara} (h : parseSequence text = .ok swaras) :
    ofText options separator text = ⟨true, some (renderSequence options separator swaras),
      swaras.map (SwaraView.ofSwara options), []⟩ := by
  rw [ofText, h]

theorem ofText_of_error {refused : List Rejection} (h : parseSequence text = .error refused) :
    ofText options separator text = ⟨false, none, [], refused⟩ := by
  rw [ofText, h]

theorem map_token_views (swaras : List Swara) :
    " ".intercalate ((swaras.map (SwaraView.ofSwara options)).map SwaraView.token) =
      canonicalText swaras := by
  rw [List.map_map]
  rfl

theorem map_rendered_views (swaras : List Swara) :
    separator.intercalate ((swaras.map (SwaraView.ofSwara options)).map SwaraView.rendered) =
      renderSequence options separator swaras := by
  rw [List.map_map]
  rfl

theorem coherent_of_ok {swaras : List Swara} (h : parseSequence text = .ok swaras) :
    (ofText options separator text).Coherent options separator text := by
  rw [ofText_of_ok h]
  refine ⟨by simp, by simp, fun _ => ⟨swaras, readAll_eq_ok_iff.mp h, rfl⟩, fun _ => ?_,
    fun _ => ?_, nofun⟩
  · rw [map_rendered_views]
  · rw [map_token_views]
    exact ofText_of_ok (parseSequence_canonicalText swaras)

theorem coherent_of_error {refused : List Rejection} (h : parseSequence text = .error refused) :
    (ofText options separator text).Coherent options separator text := by
  have hne := (readAll_eq_error_iff.mp h).1
  rw [ofText_of_error h]
  exact ⟨by simp [hne], by simp, nofun, nofun, nofun, fun _ => ⟨rfl, h⟩⟩

theorem coherent_ofText (options : RenderOptions) (separator text : String) :
    (ofText options separator text).Coherent options separator text := by
  cases h : parseSequence text with
  | ok swaras => exact coherent_of_ok h
  | error refused => exact coherent_of_error h

end Report

/-! ## Calls -/

namespace Session

variable {options : RenderOptions} {separator text : String} {r : Report}

theorem result_renderedReply_of_ok (h : r.Coherent options separator text) (hok : r.ok = true) :
    ∃ music, r.rendered = some music ∧ (renderedReply r).result = .ok (.text music) := by
  obtain ⟨music, hmusic⟩ := Option.isSome_iff_exists.mp (h.ok_iff_rendered.mp hok)
  refine ⟨music, hmusic, ?_⟩
  rw [renderedReply, hmusic]
  rfl

theorem result_renderedReply_of_not_ok (h : r.Coherent options separator text)
    (hok : r.ok = false) : (renderedReply r).result = .error (.rejections r.errors) := by
  have hnone : r.rendered = none := by
    rw [← Option.not_isSome_iff_eq_none, ← h.ok_iff_rendered, hok]
    exact Bool.false_ne_true
  rw [renderedReply, hnone]

theorem renderedReply_answers_iff (h : r.Coherent options separator text) {music : String} :
    (renderedReply r).result = .ok (.text music) ↔ r.ok = true ∧ r.rendered = some music := by
  cases hok : r.ok with
  | true =>
    obtain ⟨drawn, hdrawn, hresult⟩ := result_renderedReply_of_ok h hok
    simp [hresult, hdrawn]
  | false => simp [result_renderedReply_of_not_ok h hok]

theorem renderedReply_throws_iff (h : r.Coherent options separator text) {thrown : Thrown} :
    (renderedReply r).result = .error thrown ↔ r.ok = false ∧ thrown = .rejections r.errors := by
  cases hok : r.ok with
  | true =>
    obtain ⟨drawn, -, hresult⟩ := result_renderedReply_of_ok h hok
    simp [hresult]
  | false => simp [result_renderedReply_of_not_ok h hok, eq_comm]

end Session

/-- **Reports are coherent.** A report on a text is good exactly when nothing is reported as
refused, and exactly when it has music text. A good report has a view for each word of the text, of
the note that the word is read as; its music text is that of the views with the separator between
them; and the tokens of the views with spaces between them are reported on in the same way. A
report that is not good has no views, and what it reports as refused is what reading the text
reports. A session that is asked for a report gives it and stays as it is. One that is asked for
the music text with the same arguments gives that of the report if the report is good, and throws
what the report has as refused if not. Options that cannot be decoded are thrown alike. -/
theorem reports_coherent :
    (∀ (options : RenderOptions) (separator text : String),
      (Report.ofText options separator text).Coherent options separator text) ∧
    ∀ (s other : Session) (text : String) (separator : Option String),
      (∀ options : RenderOptions,
        let parsed := s.step (.parseNotation text (.ok options) separator)
        let drawn := other.step (.renderNotation text (.ok options) separator)
        parsed.1 = s ∧ drawn.1 = other ∧
        ∃ r, r = Report.ofText options (separator.getD " ") text ∧
          parsed.2.result = .ok (.report r) ∧
          (∀ music, drawn.2.result = .ok (.text music) ↔
            r.ok = true ∧ r.rendered = some music) ∧
          (∀ thrown, drawn.2.result = .error thrown ↔
            r.ok = false ∧ thrown = .rejections r.errors)) ∧
      ∀ problem : String,
        (other.step (.renderNotation text (.error problem) separator)).2 =
          (s.step (.parseNotation text (.error problem) separator)).2 := by
  refine ⟨Report.coherent_ofText,
    fun s other text separator => ⟨fun options => ?_, fun problem => rfl⟩⟩
  have hr := Report.coherent_ofText options (separator.getD " ") text
  exact ⟨rfl, rfl, _, rfl, rfl, fun music => Session.renderedReply_answers_iff hr,
    fun thrown => Session.renderedReply_throws_iff hr⟩

example : (Report.ofText {} ", " "SA RE_k+1").rendered = some "SA, RE\u0332\u0307" ∧
    (Report.ofText {} ", " "SA XX").errors = [⟨2, "XX", .unknownNote "XX"⟩] := by
  decide +kernel

end Sargam
