import Mathlib.Data.List.Basic
import Sargam.Proofs.TokenGrammar
import Sargam.Swara.Rendering

/-!
# Music text is unambiguous

Swaras can be told from their music text, whatever separator stands between them. One drawn
note can be the beginning of another, as `SA` is of `SA` with a dot, and a separator may
consist of the letters or begin with the marks of notes. Two facts decide. The first letter
of a note tells its base note, so where one drawn note begins another one, the second only has
more marks. And these marks cannot be taken for the beginning of a separator: they would make
the run of marks before the next letter longer than a separator and a letter allow.

* `letters_renderChars`, `marks_renderChars`: a drawn note has the letters of its name, the
  marks of its modifier and the dots of its octave.
* `renderChars_injective`: no two swaras are drawn alike.
* `isCombiningMark_of_append`: where a drawn note begins another, only marks are missing.
* `eq_nil_of_separator`: a separator before a letter does not begin with marks that are not its.
* `renderSequence_inj`: lists of swaras with the same music text are equal.
-/

namespace Sargam

open Text

namespace Swara

variable {o : RenderOptions}

/-! ## Letters and marks of a drawn note -/

/-- How many of the letters of a flat note are underlined. -/
def underlined (letters : Nat) : KomalStyle → Nat
  | .finalLetter => 1
  | .everyLetter => letters

/-- The marks of a modifier in the drawing of a name with `letters` letters. -/
def nameMarks (o : RenderOptions) (letters : Nat) : Modifier → List Char
  | .shuddha => []
  | .tivra => [o.tivraGlyph.mark]
  | .komal => List.replicate (underlined letters o.komalStyle) komalMark

theorem isVisible_of_mem_name {note : BaseNote} :
    ∀ c ∈ note.name.toList, isVisible c = true := by
  have hall : note.name.toList.all isVisible = true := by cases note <;> decide
  exact List.all_eq_true.mp hall

theorem isCombiningMark_mark (glyph : TivraGlyph) : isCombiningMark glyph.mark = true := by
  cases glyph <;> decide

theorem isCombiningMark_komalMark : isCombiningMark komalMark = true := by decide

theorem isCombiningMark_of_mem_octaveDots {octave : Int} :
    ∀ c ∈ octaveDots octave, isCombiningMark c = true := by
  intro c hc
  rw [List.eq_of_mem_replicate hc]
  split <;> decide

theorem isCombiningMark_eq_false {c : Char} (h : isVisible c = true) :
    isCombiningMark c = false := by
  simpa [isVisible] using h

theorem isVisible_eq_false {c : Char} (h : isCombiningMark c = true) : isVisible c = false := by
  simp [isVisible, h]

theorem letters_markedName {name : List Char} (hname : ∀ c ∈ name, isVisible c = true)
    (modifier : Modifier) : (markedName o modifier name).filter isVisible = name := by
  have hkomal := isVisible_eq_false isCombiningMark_komalMark
  have hall : name.filter isVisible = name := List.filter_eq_self.mpr hname
  cases modifier with
  | shuddha => exact hall
  | tivra =>
    cases name with
    | nil => rfl
    | cons first rest =>
      have htivra := isVisible_eq_false (isCombiningMark_mark o.tivraGlyph)
      obtain ⟨hfirst, hrest⟩ := List.forall_mem_cons.mp hname
      simp [markedName, hfirst, htivra, List.filter_eq_self.mpr hrest]
  | komal =>
    unfold markedName
    cases o.komalStyle with
    | finalLetter => simp [hkomal, hall]
    | everyLetter =>
      have hletter : ∀ c ∈ name, [c, komalMark].filter isVisible = [c] := by
        intro c hc
        simp [hname c hc, hkomal]
      rw [List.filter_flatMap, List.flatMap_congr hletter, List.flatMap_singleton']

theorem marks_markedName {name : List Char} (hname : ∀ c ∈ name, isVisible c = true)
    (hne : name ≠ []) (modifier : Modifier) :
    (markedName o modifier name).filter isCombiningMark = nameMarks o name.length modifier := by
  have hkomal := isCombiningMark_komalMark
  have hnone : name.filter isCombiningMark = [] :=
    List.filter_eq_nil_iff.mpr fun c hc => by simp [isCombiningMark_eq_false (hname c hc)]
  cases modifier with
  | shuddha => exact hnone
  | tivra =>
    obtain ⟨first, rest, rfl⟩ := List.exists_cons_of_ne_nil hne
    have htivra := isCombiningMark_mark o.tivraGlyph
    have hfirst := isCombiningMark_eq_false (hname first List.mem_cons_self)
    rw [List.filter_cons, hfirst] at hnone
    simpa [markedName, nameMarks, List.filter_cons, htivra, hfirst] using hnone
  | komal =>
    unfold markedName
    rw [nameMarks]
    cases o.komalStyle with
    | finalLetter => simp [underlined, hkomal, hnone]
    | everyLetter =>
      have hletter : ∀ c ∈ name, [c, komalMark].filter isCombiningMark = [komalMark] := by
        intro c hc
        simp [isCombiningMark_eq_false (hname c hc), hkomal]
      have hlines := List.flatMap_pure_eq_map (fun _ => komalMark) name
      rw [List.filter_flatMap, List.flatMap_congr hletter, underlined]
      rw [List.map_const'] at hlines
      exact hlines

theorem letters_renderChars (s : Swara) :
    (renderChars o s).filter isVisible = s.base.name.toList := by
  have hdots : (octaveDots s.octave).filter isVisible = [] :=
    List.filter_eq_nil_iff.mpr fun c hc => by
      simp [isVisible_eq_false (isCombiningMark_of_mem_octaveDots c hc)]
  rw [renderChars, List.filter_append, hdots, List.append_nil,
    letters_markedName isVisible_of_mem_name]

theorem marks_renderChars (s : Swara) :
    (renderChars o s).filter isCombiningMark =
      nameMarks o s.base.name.length s.modifier ++ octaveDots s.octave := by
  rw [renderChars, List.filter_append, List.filter_eq_self.mpr isCombiningMark_of_mem_octaveDots,
    marks_markedName isVisible_of_mem_name (Token.name_ne_nil _), String.length_toList]

/-! ## No two swaras are drawn alike -/

theorem dot_not_mem_nameMarks (letters : Nat) (modifier : Modifier) :
    upperDot ∉ nameMarks o letters modifier ∧ lowerDot ∉ nameMarks o letters modifier := by
  cases modifier with
  | shuddha => exact ⟨List.not_mem_nil, List.not_mem_nil⟩
  | tivra =>
    rw [nameMarks]
    cases o.tivraGlyph <;> decide
  | komal =>
    have hkomal : upperDot ≠ komalMark ∧ lowerDot ≠ komalMark := by decide
    exact ⟨fun h => hkomal.1 (List.eq_of_mem_replicate h),
      fun h => hkomal.2 (List.eq_of_mem_replicate h)⟩

/-- The octave of a swara is the number of upper dots less that of lower dots. -/
theorem octave_eq_count (s : Swara) :
    s.octave = ((renderChars o s).filter isCombiningMark).count upperDot -
      (((renderChars o s).filter isCombiningMark).count lowerDot : Int) := by
  obtain ⟨hupper, hlower⟩ := dot_not_mem_nameMarks (o := o) s.base.name.length s.modifier
  have hne : upperDot ≠ lowerDot := by decide
  rw [marks_renderChars, List.count_append, List.count_append, List.count_eq_zero.mpr hupper,
    List.count_eq_zero.mpr hlower, octaveDots, Nat.zero_add, Nat.zero_add]
  split
  · have hother : (List.replicate s.octave.natAbs upperDot).count lowerDot = 0 :=
      List.count_eq_zero.mpr fun h => hne (List.eq_of_mem_replicate h).symm
    rw [List.count_replicate_self, hother]
    omega
  · have hother : (List.replicate s.octave.natAbs lowerDot).count upperDot = 0 :=
      List.count_eq_zero.mpr fun h => hne (List.eq_of_mem_replicate h)
    rw [List.count_replicate_self, hother]
    omega

theorem nameMarks_injective {letters : Nat} (hpos : 0 < letters) {m n : Modifier}
    (h : nameMarks o letters m = nameMarks o letters n) : m = n := by
  have hmark : o.tivraGlyph.mark ≠ komalMark := by
    cases o.tivraGlyph <;> decide
  have hlines : 0 < underlined letters o.komalStyle := by
    cases o.komalStyle with
    | finalLetter => exact Nat.one_pos
    | everyLetter => exact hpos
  obtain ⟨more, hmore⟩ := Nat.exists_eq_add_of_lt hlines
  cases m <;> cases n <;> simp_all [nameMarks, List.replicate_succ]

theorem renderChars_injective {s t : Swara} (h : renderChars o s = renderChars o t) : s = t := by
  have hbase : s.base = t.base := by
    apply BaseNote.name_inj
    apply String.toList_injective
    rw [← letters_renderChars (o := o), h, letters_renderChars]
  have hoctave : s.octave = t.octave := by
    rw [octave_eq_count (o := o) s, h, ← octave_eq_count]
  have hmarks := marks_renderChars (o := o) s
  rw [h, marks_renderChars, hbase, hoctave] at hmarks
  have hpos : 0 < t.base.name.length := by
    rw [← String.length_toList]
    exact List.length_pos_iff.mpr (Token.name_ne_nil _)
  have hmodifier := nameMarks_injective hpos (List.append_cancel_right hmarks).symm
  exact ext_parts hbase hmodifier hoctave

/-! ## Where one drawn note begins another -/

theorem head?_renderChars (s : Swara) : (renderChars o s).head? = s.base.name.toList.head? := by
  obtain ⟨first, rest, hname⟩ := List.exists_cons_of_ne_nil (Token.name_ne_nil s.base)
  rw [renderChars, hname]
  cases s.modifier with
  | shuddha => rfl
  | tivra => rfl
  | komal =>
    unfold markedName
    cases o.komalStyle with
    | finalLetter => rfl
    | everyLetter => rfl

theorem exists_letter_renderChars (o : RenderOptions) (s : Swara) :
    ∃ letter rest, renderChars o s = letter :: rest ∧ isCombiningMark letter = false := by
  obtain ⟨first, others, hname⟩ := List.exists_cons_of_ne_nil (Token.name_ne_nil s.base)
  have hhead := head?_renderChars (o := o) s
  rw [hname, List.head?_cons] at hhead
  obtain ⟨rest, hrest⟩ := List.head?_eq_some_iff.mp hhead
  have hvisible := isVisible_of_mem_name first (hname ▸ List.mem_cons_self)
  exact ⟨first, rest, hrest, isCombiningMark_eq_false hvisible⟩

/-- A note is told by the first letter of its name. -/
theorem base_eq_of_head? {a b : BaseNote} (h : a.name.toList.head? = b.name.toList.head?) :
    a = b := by
  have hfind : ∀ note : BaseNote, BaseNote.all.find? (fun other =>
      other.name.toList.head? == note.name.toList.head?) = some note := by
    intro note
    cases note <;> decide
  have ha := hfind a
  rw [h, hfind b] at ha
  exact (Option.some.inj ha).symm

theorem isCombiningMark_of_append {s t : Swara} {more : List Char}
    (h : renderChars o s ++ more = renderChars o t) : ∀ c ∈ more, isCombiningMark c = true := by
  have hbase : s.base = t.base := by
    obtain ⟨letter, rest, hdrawn, -⟩ := exists_letter_renderChars o s
    apply base_eq_of_head?
    rw [← head?_renderChars (o := o) s, ← head?_renderChars (o := o) t, ← h, hdrawn]
    rfl
  have hletters := letters_renderChars (o := o) t
  rw [← h, List.filter_append, letters_renderChars, hbase, List.append_right_eq_self] at hletters
  intro c hc
  have hinvisible := List.filter_eq_nil_iff.mp hletters c hc
  simpa [isVisible] using hinvisible

end Swara

/-! ## Separators -/

/-- What follows a letter does not matter for the run of marks before it, and without that
letter the run can only be longer. -/
theorem length_marks_le {letter : Char} (hletter : isCombiningMark letter = false)
    (front rest more : List Char) :
    ((front ++ letter :: rest).takeWhile isCombiningMark).length ≤
      ((front ++ more).takeWhile isCombiningMark).length := by
  have hrun : (letter :: rest).takeWhile isCombiningMark = [] := by simp [hletter]
  rw [List.takeWhile_append, List.takeWhile_append, hrun]
  split
  · simp
  · exact Nat.le_refl _

/-- Marks before a separator make the run of marks at its front longer, whatever the separator
is, so they cannot be part of a separator before a letter. -/
theorem eq_nil_of_separator {separator marks rest more : List Char} {letter : Char}
    (hmarks : ∀ c ∈ marks, isCombiningMark c = true) (hletter : isCombiningMark letter = false)
    (h : separator ++ letter :: rest = marks ++ (separator ++ more)) : marks = [] := by
  have hle := length_marks_le hletter separator rest more
  rw [h, List.takeWhile_append_of_pos hmarks, List.length_append] at hle
  exact List.length_eq_zero_iff.mp (by omega)

/-! ## Sequences -/

/-- The characters of drawn notes with a separator before each. -/
def separated (o : RenderOptions) (separator : List Char) (swaras : List Swara) : List Char :=
  swaras.flatMap fun s => separator ++ s.renderChars o

variable {o : RenderOptions} {separator : List Char}

theorem separated_cons (s : Swara) (swaras : List Swara) :
    separated o separator (s :: swaras) =
      separator ++ (s.renderChars o ++ separated o separator swaras) := by
  rw [separated, List.flatMap_cons, List.append_assoc, separated]

theorem separated_cons_ne_nil (s : Swara) (swaras : List Swara) :
    separated o separator (s :: swaras) ≠ [] := by
  obtain ⟨letter, rest, hdrawn, -⟩ := s.exists_letter_renderChars o
  simp [separated_cons, hdrawn]

theorem eq_nil_of_separated {marks : List Char} {as bs : List Swara}
    (hmarks : ∀ c ∈ marks, isCombiningMark c = true)
    (h : separated o separator as = marks ++ separated o separator bs) : marks = [] := by
  cases as with
  | nil => exact (List.append_eq_nil_iff.mp h.symm).1
  | cons a as =>
    obtain ⟨letter, rest, hdrawn, hletter⟩ := a.exists_letter_renderChars o
    rw [separated_cons, hdrawn, List.cons_append] at h
    cases bs with
    | nil =>
      -- There is a letter on the left, and there are only marks on the right.
      have hmem : letter ∈ marks ++ separated o separator [] :=
        h ▸ List.mem_append_right separator List.mem_cons_self
      have hmark := hmarks letter (by simpa [separated] using hmem)
      rw [hletter] at hmark
      cases hmark
    | cons b bs =>
      rw [separated_cons] at h
      exact eq_nil_of_separator hmarks hletter h

/-- The first of several drawn notes can be told from the text, and so can what follows it. -/
theorem eq_of_renderChars_append {s t : Swara} {as bs : List Swara}
    (h : s.renderChars o ++ separated o separator as =
      t.renderChars o ++ separated o separator bs) :
    s = t ∧ separated o separator as = separated o separator bs := by
  have hdrawn : s.renderChars o = t.renderChars o := by
    rcases List.append_eq_append_iff.mp h with ⟨marks, hlonger, hrest⟩ | ⟨marks, hlonger, hrest⟩
    · have hmarks := Swara.isCombiningMark_of_append hlonger.symm
      rw [hlonger, eq_nil_of_separated hmarks hrest, List.append_nil]
    · have hmarks := Swara.isCombiningMark_of_append hlonger.symm
      rw [hlonger, eq_nil_of_separated hmarks hrest, List.append_nil]
  refine ⟨Swara.renderChars_injective hdrawn, ?_⟩
  rw [hdrawn] at h
  exact List.append_cancel_left h

theorem separated_injective {as bs : List Swara}
    (h : separated o separator as = separated o separator bs) : as = bs := by
  induction as generalizing bs with
  | nil =>
    cases bs with
    | nil => rfl
    | cons b bs => exact absurd h.symm (separated_cons_ne_nil b bs)
  | cons a as ih =>
    cases bs with
    | nil => exact absurd h (separated_cons_ne_nil a as)
    | cons b bs =>
      rw [separated_cons, separated_cons] at h
      obtain ⟨rfl, hrest⟩ := eq_of_renderChars_append (List.append_cancel_left h)
      rw [ih hrest]

theorem toList_renderSequence_cons (o : RenderOptions) (separator : String) (s : Swara)
    (swaras : List Swara) :
    (renderSequence o separator (s :: swaras)).toList =
      s.renderChars o ++ separated o separator.toList swaras := by
  induction swaras generalizing s with
  | nil => simp [renderSequence, Swara.render, separated]
  | cons next rest ih =>
    have hrest := ih next
    rw [renderSequence] at hrest ⊢
    rw [List.map_cons] at hrest
    rw [List.map_cons, List.map_cons, String.intercalate_cons_cons, String.toList_append,
      String.toList_append, hrest, Swara.render, String.toList_ofList, separated_cons,
      List.append_assoc]

theorem renderSequence_cons_ne_empty (o : RenderOptions) (separator : String) (s : Swara)
    (swaras : List Swara) : renderSequence o separator (s :: swaras) ≠ "" := by
  intro h
  obtain ⟨letter, rest, hdrawn, -⟩ := s.exists_letter_renderChars o
  have hchars := congrArg String.toList h
  rw [toList_renderSequence_cons, hdrawn] at hchars
  cases hchars

/-- **Music text is unambiguous.** However swaras are drawn and whatever separates them, they can
be told from their music text: nothing, letters of notes or marks of notes as a separator do no
harm. -/
theorem renderSequence_inj (o : RenderOptions) (separator : String) (as bs : List Swara) :
    renderSequence o separator as = renderSequence o separator bs ↔ as = bs := by
  constructor
  · intro h
    cases as with
    | nil =>
      cases bs with
      | nil => rfl
      | cons b bs => exact absurd h.symm (renderSequence_cons_ne_empty o separator b bs)
    | cons a as =>
      cases bs with
      | nil => exact absurd h (renderSequence_cons_ne_empty o separator a as)
      | cons b bs =>
        have hchars := congrArg String.toList h
        rw [toList_renderSequence_cons, toList_renderSequence_cons] at hchars
        obtain ⟨rfl, hrest⟩ := eq_of_renderChars_append hchars
        rw [separated_injective hrest]
  · rintro rfl
    rfl

end Sargam
