import Mathlib.Data.List.Basic
import Sargam.Export.Markup

/-!
# Tags in a marked-up text

A reader of a marked-up text sees characters and no pieces. A tag is for it what stands between
`<` and `>`, where a `>` between quotes does not count. It finds the tags of the pieces and no
others, because data is written without these characters and names do not have them either. So
whatever nests as pieces nests for the reader.

* `readTags`: the tags of a text, if each begins and ends.
* `Nested`, `Balanced`: tags each of which is closed in its turn, and a text of such tags.
* `AmpersandsEscaped`: a text in which an ampersand stands in escapes only.
* `Markup.Tidy`: pieces with plain names and plain fixed text whose tags nest.
* `Markup.Tidy.balanced_write`, `Markup.ampersandsEscaped_write`: what is written for them.
* `Markup.filter_write`: the brackets and quotes that are written are those of the tags.
-/

namespace Sargam.Export

/-! ## Reading tags -/

/-- A tag as it is read, without its attributes. -/
inductive Tag where
  | opening (name : String)
  | closing (name : String)
  | single (name : String)
  deriving DecidableEq, Repr

/-- The tag of the characters between its brackets, where values of attributes are left out. -/
def Tag.ofChars : List Char → Tag
  | '/' :: name => .closing (String.ofList name)
  | cs =>
    let name := String.ofList (cs.takeWhile fun c => c ≠ ' ' ∧ c ≠ '/')
    if cs.getLast? = some '/' then .single name else .opening name

/-- Where a reader is: outside of tags, or in a tag or a value in a tag, with the characters of
the tag that have been read. -/
inductive TagReader where
  | outside
  | inside (tag : List Char)
  | quoted (tag : List Char)

/-- The tags of a text. A bracket that neither begins nor ends a tag spoils the text. -/
def readTags : TagReader → List Char → Option (List Tag)
  | .outside, [] => some []
  | .inside _, [] => none
  | .quoted _, [] => none
  | .outside, c :: cs =>
    if c = '<' then readTags (.inside []) cs
    else if c = '>' then none
    else readTags .outside cs
  | .inside tag, c :: cs =>
    if c = '>' then (readTags .outside cs).map (Tag.ofChars tag :: ·)
    else if c = '<' then none
    else if c = '"' then readTags (.quoted tag) cs
    else readTags (.inside (tag ++ [c])) cs
  | .quoted tag, c :: cs =>
    if c = '"' then readTags (.inside tag) cs else readTags (.quoted tag) cs

/-- Tags each of which is closed in its turn, if it has to be. -/
inductive Nested : List Tag → Prop
  | nil : Nested []
  | single (name : String) {tags : List Tag} : Nested tags → Nested (.single name :: tags)
  | element (name : String) {inner tags : List Tag} : Nested inner → Nested tags →
      Nested (.opening name :: (inner ++ .closing name :: tags))

theorem Nested.append {tags more : List Tag} (h : Nested tags) (hmore : Nested more) :
    Nested (tags ++ more) := by
  induction h with
  | nil => exact hmore
  | single name _ ih => exact .single name ih
  | element name hinner _ _ ih =>
    rw [List.cons_append, List.append_assoc, List.cons_append]
    exact .element name hinner ih

/-- A text that is read as tags each of which is closed in its turn. -/
def Balanced (text : String) : Prop :=
  ∃ tags, readTags .outside text.toList = some tags ∧ Nested tags

/-! ## Special characters -/

/-- The characters of which tags are made. -/
def isBracket (c : Char) : Bool := c = '<' || c = '>' || c = '"'

/-- Whether a character is not special in any way. -/
def isPlain (c : Char) : Bool := !isBracket c && c ≠ '&'

/-- Whether a character may stand in a name. -/
def isNameChar (c : Char) : Bool := c.isAlphanum || c = '-'

/-- Whether a text is a name. -/
def isName (text : String) : Bool := text ≠ "" && text.toList.all isNameChar

/-- Whether a text is an ampersand and plain characters after it. -/
def isEscape (text : String) : Bool :=
  match text.toList with
  | '&' :: rest => rest.all isPlain
  | _ => false

/-- How special characters are written, where `apostrophe` stands for the apostrophe. -/
def escapes (apostrophe : String) : List String :=
  ["&amp;", "&lt;", "&gt;", "&quot;", apostrophe]

/-- Every ampersand begins an escape. -/
def AmpersandsEscaped (apostrophe : String) (cs : List Char) : Prop :=
  ∀ before after, cs = before ++ '&' :: after →
    ∃ text ∈ escapes apostrophe, text.toList <+: '&' :: after

theorem ne_of_isPlain {c d : Char} (hc : isPlain c = true) (hd : isPlain d = false) : c ≠ d := by
  rintro rfl
  rw [hc] at hd
  cases hd

theorem ne_of_isNameChar {c d : Char} (hc : isNameChar c = true) (hd : isNameChar d = false) :
    c ≠ d := by
  rintro rfl
  rw [hc] at hd
  cases hd

theorem isNameChar_of_mem {name : String} (h : isName name = true) {c : Char}
    (hc : c ∈ name.toList) : isNameChar c = true := by
  rw [isName, Bool.and_eq_true] at h
  exact List.all_eq_true.mp h.2 c hc

theorem isPlain_of_isNameChar {c : Char} (h : isNameChar c = true) : isPlain c = true := by
  have hne := fun d => ne_of_isNameChar (d := d) h
  simp [isPlain, isBracket, hne '<' (by decide), hne '>' (by decide), hne '"' (by decide),
    hne '&' (by decide)]

theorem isBracket_of_isPlain {c : Char} (h : isPlain c = true) : isBracket c = false := by
  simp only [isPlain, Bool.and_eq_true] at h
  simpa using h.1

theorem filter_of_isPlain {cs : List Char} (h : ∀ c ∈ cs, isPlain c = true) :
    cs.filter isBracket = [] :=
  List.filter_eq_nil_iff.mpr fun c hc => by simp [isBracket_of_isPlain (h c hc)]

namespace AmpersandsEscaped

variable {apostrophe : String}

theorem of_not_mem {cs : List Char} (h : '&' ∉ cs) : AmpersandsEscaped apostrophe cs := by
  rintro before after rfl
  exact absurd (List.mem_append_right before List.mem_cons_self) h

theorem of_isPlain {cs : List Char} (h : ∀ c ∈ cs, isPlain c = true) :
    AmpersandsEscaped apostrophe cs :=
  of_not_mem fun hmem => ne_of_isPlain (h '&' hmem) (by decide) rfl

theorem append {as bs : List Char} (ha : AmpersandsEscaped apostrophe as)
    (hb : AmpersandsEscaped apostrophe bs) : AmpersandsEscaped apostrophe (as ++ bs) := by
  intro before after h
  rcases List.append_eq_append_iff.mp h with ⟨more, -, hbs⟩ | ⟨more, has, hmore⟩
  · exact hb more after hbs
  · cases more with
    | nil => exact hb [] after hmore.symm
    | cons c more =>
      obtain ⟨rfl, rfl⟩ := List.cons_eq_cons.mp hmore
      obtain ⟨text, htext, hbegins⟩ := ha before more has
      exact ⟨text, htext, hbegins.trans ((List.prefix_append ('&' :: more) bs))⟩

theorem cons {c : Char} (hc : '&' ≠ c) {cs : List Char}
    (h : AmpersandsEscaped apostrophe cs) : AmpersandsEscaped apostrophe (c :: cs) :=
  append (of_not_mem fun hmem => hc (List.mem_singleton.mp hmem)) h

theorem flatMap {α : Type} {f : α → List Char} {items : List α}
    (h : ∀ item ∈ items, AmpersandsEscaped apostrophe (f item)) :
    AmpersandsEscaped apostrophe (items.flatMap f) := by
  induction items with
  | nil => exact of_not_mem List.not_mem_nil
  | cons item rest ih =>
    obtain ⟨hitem, hrest⟩ := List.forall_mem_cons.mp h
    exact append hitem (ih hrest)

end AmpersandsEscaped

/-! ## Escaped data -/

namespace Markup

variable {apostrophe : String}

/-- A character of data is written as an escape, or as itself if it is plain. -/
theorem escapeChar_cases (apostrophe : String) (c : Char) :
    (∃ text ∈ escapes apostrophe, escapeChar apostrophe c = text.toList) ∨
      (isPlain c = true ∧ escapeChar apostrophe c = [c]) := by
  unfold escapeChar
  split
  · exact .inl ⟨"&amp;", by simp [escapes], rfl⟩
  · rename_i hamp
    split
    · exact .inl ⟨"&lt;", by simp [escapes], rfl⟩
    · rename_i hlt
      split
      · exact .inl ⟨"&gt;", by simp [escapes], rfl⟩
      · rename_i hgt
        split
        · exact .inl ⟨"&quot;", by simp [escapes], rfl⟩
        · rename_i hquot
          split
          · exact .inl ⟨apostrophe, by simp [escapes], rfl⟩
          · exact .inr ⟨by simp [isPlain, isBracket, hamp, hlt, hgt, hquot], rfl⟩

theorem exists_of_mem_escapes (h : isEscape apostrophe = true) {text : String}
    (htext : text ∈ escapes apostrophe) :
    ∃ rest, text.toList = '&' :: rest ∧ ∀ c ∈ rest, isPlain c = true := by
  have hescape : isEscape text = true := by
    simp only [escapes, List.mem_cons, List.not_mem_nil, or_false] at htext
    rcases htext with rfl | rfl | rfl | rfl | rfl
    · decide
    · decide
    · decide
    · decide
    · exact h
  unfold isEscape at hescape
  split at hescape
  · rename_i rest hrest
    exact ⟨rest, hrest, List.all_eq_true.mp hescape⟩
  · cases hescape

theorem filter_escape (h : isEscape apostrophe = true) (text : String) :
    (escape apostrophe text).filter isBracket = [] := by
  rw [escape, List.filter_flatMap, List.flatMap_eq_nil_iff]
  intro c _
  rcases escapeChar_cases apostrophe c with ⟨written, hmem, hwritten⟩ | ⟨hplain, hwritten⟩
  · obtain ⟨rest, hrest, hplain⟩ := exists_of_mem_escapes h hmem
    have hamp : isBracket '&' = false := by decide
    rw [hwritten, hrest, List.filter_cons, hamp]
    exact filter_of_isPlain hplain
  · simp [hwritten, isBracket_of_isPlain hplain]

theorem isBracket_of_mem_escape (h : isEscape apostrophe = true) {text : String} {c : Char}
    (hc : c ∈ escape apostrophe text) : isBracket c = false := by
  have hnone := List.filter_eq_nil_iff.mp (filter_escape h text) c hc
  simpa using hnone

theorem ampersandsEscaped_escape (h : isEscape apostrophe = true) (text : String) :
    AmpersandsEscaped apostrophe (escape apostrophe text) := by
  refine AmpersandsEscaped.flatMap fun c _ => ?_
  rcases escapeChar_cases apostrophe c with ⟨written, hmem, hwritten⟩ | ⟨hplain, hwritten⟩
  · obtain ⟨rest, hrest, hplain⟩ := exists_of_mem_escapes h hmem
    -- The only ampersand of an escape is its first character.
    intro before after happend
    rw [hwritten, hrest] at happend
    cases before with
    | nil => exact ⟨written, hmem, by rw [hrest, happend]; exact List.prefix_rfl⟩
    | cons first before =>
      obtain ⟨-, rfl⟩ := List.cons_eq_cons.mp happend
      have hamp := hplain '&' (List.mem_append_right before List.mem_cons_self)
      exact absurd rfl (ne_of_isPlain hamp (by decide))
  · rw [hwritten]
    exact AmpersandsEscaped.of_isPlain fun d hd => List.mem_singleton.mp hd ▸ hplain

end Markup

/-! ## Pieces -/

/-- Whether the fixed text and the names of a piece are plain. -/
def Piece.plain : Piece → Bool
  | .fixed text => text.toList.all isPlain
  | .data _ => true
  | .opening name attributes | .single name attributes =>
    isName name && attributes.all fun a => isName a.1
  | .closing name => isName name

theorem Piece.plain_data (text : String) : (Piece.data text).plain = true := rfl

/-- The tags of a piece. -/
def Piece.tags : Piece → List Tag
  | .fixed _ | .data _ => []
  | .opening name _ => [.opening name]
  | .closing name => [.closing name]
  | .single name _ => [.single name]

/-- The brackets and quotes of a piece. -/
def Piece.brackets : Piece → List Char
  | .fixed _ | .data _ => []
  | .opening _ attributes | .single _ attributes =>
    '<' :: (attributes.flatMap (fun _ => ['"', '"']) ++ ['>'])
  | .closing _ => ['<', '>']

namespace Markup

variable {apostrophe : String}

/-! ### Reading pieces -/

theorem readTags_outside {cs : List Char} (h : ∀ c ∈ cs, isBracket c = false)
    (rest : List Char) : readTags .outside (cs ++ rest) = readTags .outside rest := by
  induction cs with
  | nil => rfl
  | cons c cs ih =>
    obtain ⟨hc, hcs⟩ := List.forall_mem_cons.mp h
    simp only [isBracket, Bool.or_eq_false_iff, decide_eq_false_iff_not] at hc
    rw [List.cons_append, readTags, if_neg hc.1.1, if_neg hc.1.2, ih hcs]

theorem readTags_inside {cs : List Char} (h : ∀ c ∈ cs, isBracket c = false)
    (tag rest : List Char) :
    readTags (.inside tag) (cs ++ rest) = readTags (.inside (tag ++ cs)) rest := by
  induction cs generalizing tag with
  | nil => rw [List.nil_append, List.append_nil]
  | cons c cs ih =>
    obtain ⟨hc, hcs⟩ := List.forall_mem_cons.mp h
    simp only [isBracket, Bool.or_eq_false_iff, decide_eq_false_iff_not] at hc
    rw [List.cons_append, readTags, if_neg hc.1.2, if_neg hc.1.1, if_neg hc.2, ih hcs,
      List.append_assoc, List.singleton_append]

theorem readTags_quoted {cs : List Char} (h : ∀ c ∈ cs, isBracket c = false)
    (tag rest : List Char) :
    readTags (.quoted tag) (cs ++ '"' :: rest) = readTags (.inside tag) rest := by
  induction cs with
  | nil => rw [List.nil_append, readTags, if_pos rfl]
  | cons c cs ih =>
    obtain ⟨hc, hcs⟩ := List.forall_mem_cons.mp h
    simp only [isBracket, Bool.or_eq_false_iff, decide_eq_false_iff_not] at hc
    rw [List.cons_append, readTags, if_neg hc.2, ih hcs]

theorem isBracket_of_isName {name : String} (h : isName name = true) :
    ∀ c ∈ name.toList, isBracket c = false := fun _ hc =>
  isBracket_of_isPlain (isPlain_of_isNameChar (isNameChar_of_mem h hc))

/-- The characters before the value of an attribute. -/
theorem isBracket_of_mem_key {name : String} (h : isName name = true) :
    ∀ c ∈ ' ' :: (name.toList ++ ['=']), isBracket c = false := by
  intro c hc
  simp only [List.mem_cons, List.mem_append, List.not_mem_nil, or_false] at hc
  rcases hc with rfl | hc | rfl
  · decide
  · exact isBracket_of_isName h c hc
  · decide

/-- What a reader keeps of the attributes of a tag. -/
def attributeChars (attributes : List (String × String)) : List Char :=
  attributes.flatMap fun a => ' ' :: (a.1.toList ++ ['='])

theorem readTags_attributes (h : isEscape apostrophe = true)
    {attributes : List (String × String)}
    (hnames : attributes.all (fun a => isName a.1) = true)
    (tag rest : List Char) :
    readTags (.inside tag) (attributes.flatMap (writeAttribute apostrophe) ++ rest) =
      readTags (.inside (tag ++ attributeChars attributes)) rest := by
  induction attributes generalizing tag with
  | nil => rw [attributeChars, List.flatMap_nil, List.flatMap_nil, List.nil_append,
      List.append_nil]
  | cons a more ih =>
    obtain ⟨name, value⟩ := a
    rw [List.all_cons, Bool.and_eq_true] at hnames
    have hwritten : writeAttribute apostrophe (name, value) =
        ' ' :: (name.toList ++ ['=']) ++ '"' :: (escape apostrophe value ++ ['"']) := by
      simp [writeAttribute]
    have hquote : ∀ more, readTags (.inside (tag ++ ' ' :: (name.toList ++ ['='])))
        ('"' :: more) = readTags (.quoted (tag ++ ' ' :: (name.toList ++ ['=']))) more := by
      intro more
      rw [readTags, if_neg (by decide), if_neg (by decide), if_pos rfl]
    rw [List.flatMap_cons, hwritten, List.append_assoc, List.append_assoc,
      readTags_inside (isBracket_of_mem_key hnames.1), List.cons_append, hquote, List.append_assoc,
      List.singleton_append, readTags_quoted fun c hc => isBracket_of_mem_escape h hc,
      ih hnames.2, attributeChars, attributeChars, List.flatMap_cons, List.append_assoc]

/-! ### The tags that are read -/

theorem ne_slash_of_isName {name : String} (h : isName name = true) {c : Char}
    (hc : c ∈ name.toList) : c ≠ '/' :=
  ne_of_isNameChar (isNameChar_of_mem h hc) (by decide)

theorem slash_not_mem_attributeChars {attributes : List (String × String)}
    (hnames : attributes.all (fun a => isName a.1) = true) :
    '/' ∉ attributeChars attributes := by
  intro hmem
  obtain ⟨a, ha, hmem⟩ := List.mem_flatMap.mp hmem
  rcases List.mem_cons.mp hmem with hspace | hmem
  · exact absurd hspace (by decide)
  · rcases List.mem_append.mp hmem with hmem | hequals
    · exact ne_slash_of_isName (List.all_eq_true.mp hnames a ha) hmem rfl
    · exact absurd (List.mem_singleton.mp hequals) (by decide)

/-- The name of a tag is what it begins with, up to a blank or a slash. -/
theorem ofChars_eq {name : String} (hname : isName name = true) {rest : List Char}
    (hrest : ∀ c ∈ rest.head?, c = ' ' ∨ c = '/') :
    Tag.ofChars (name.toList ++ rest) =
      if (name.toList ++ rest).getLast? = some '/' then .single name else .opening name := by
  have hin : ∀ c ∈ name.toList, decide (c ≠ ' ' ∧ c ≠ '/') = true := fun c hc =>
    decide_eq_true
      ⟨ne_of_isNameChar (isNameChar_of_mem hname hc) (by decide), ne_slash_of_isName hname hc⟩
  have hstop : rest.takeWhile (fun c => decide (c ≠ ' ' ∧ c ≠ '/')) = [] := by
    cases rest with
    | nil => rfl
    | cons c rest =>
      refine List.takeWhile_cons_of_neg fun h => ?_
      obtain ⟨hblank, hslash⟩ := of_decide_eq_true h
      exact (hrest c rfl).elim hblank hslash
  unfold Tag.ofChars
  split
  · -- A name is not empty, so a slash would be in it.
    rename_i tail heq
    cases hchars : name.toList with
    | nil => simp [isName, String.toList_eq_nil_iff.mp hchars] at hname
    | cons c cs =>
      rw [hchars, List.cons_append] at heq
      have hc : c ∈ name.toList := hchars ▸ List.mem_cons_self
      exact absurd (List.cons_eq_cons.mp heq).1 (ne_slash_of_isName hname hc)
  · simp only [List.takeWhile_append_of_pos hin, hstop, List.append_nil, String.ofList_toList]

theorem head?_attributeChars {attributes : List (String × String)} {c : Char}
    (h : c ∈ (attributeChars attributes).head?) : c = ' ' := by
  cases attributes with
  | nil => cases h
  | cons a more => exact (Option.some.inj h).symm

theorem ofChars_opening {name : String} (hname : isName name = true)
    {attributes : List (String × String)}
    (hnames : attributes.all (fun a => isName a.1) = true) :
    Tag.ofChars (name.toList ++ attributeChars attributes) = .opening name := by
  rw [ofChars_eq hname fun c hc => .inl (head?_attributeChars hc), if_neg]
  intro hlast
  rcases List.mem_append.mp (List.mem_of_getLast? hlast) with hmem | hmem
  · exact ne_slash_of_isName hname hmem rfl
  · exact slash_not_mem_attributeChars hnames hmem

theorem ofChars_single {name : String} (hname : isName name = true)
    (attributes : List (String × String)) :
    Tag.ofChars (name.toList ++ attributeChars attributes ++ ['/']) = .single name := by
  rw [List.append_assoc, ofChars_eq hname, if_pos]
  · rw [← List.append_assoc, List.getLast?_concat]
  · intro c hc
    cases attributes with
    | nil => exact .inr (Option.some.inj hc).symm
    | cons a more => exact .inl (Option.some.inj hc).symm

/-- A tag ends where its bracket is closed. -/
theorem readTags_tag {written tag : List Char}
    (h : ∀ more, readTags (.inside []) (written ++ more) = readTags (.inside tag) more)
    (rest : List Char) :
    readTags .outside ('<' :: (written ++ '>' :: rest)) =
      (readTags .outside rest).map (Tag.ofChars tag :: ·) := by
  rw [readTags, if_pos rfl, h, readTags, if_pos rfl]

/-- A piece is read as its tags. -/
theorem readTags_writePiece (h : isEscape apostrophe = true) {piece : Piece}
    (hplain : piece.plain = true) (rest : List Char) :
    readTags .outside (writePiece apostrophe piece ++ rest) =
      (readTags .outside rest).map (piece.tags ++ ·) := by
  have hnone : (readTags .outside rest).map (([] : List Tag) ++ ·) = readTags .outside rest := by
    cases readTags .outside rest <;> rfl
  cases piece with
  | fixed text =>
    have hchars : ∀ c ∈ text.toList, isBracket c = false := fun c hc =>
      isBracket_of_isPlain (List.all_eq_true.mp hplain c hc)
    exact (readTags_outside hchars rest).trans hnone.symm
  | data text =>
    have hchars : ∀ c ∈ escape apostrophe text, isBracket c = false := fun c hc =>
      isBracket_of_mem_escape h hc
    exact (readTags_outside hchars rest).trans hnone.symm
  | opening name attributes =>
    obtain ⟨hname, hnames⟩ := Bool.and_eq_true_iff.mp hplain
    have hinside : ∀ more,
        readTags (.inside [])
          (name.toList ++ attributes.flatMap (writeAttribute apostrophe) ++ more) =
        readTags (.inside (name.toList ++ attributeChars attributes)) more := by
      intro more
      rw [List.append_assoc, readTags_inside (isBracket_of_isName hname),
        readTags_attributes h hnames, List.nil_append]
    rw [writePiece, List.cons_append, List.append_assoc, List.singleton_append,
      readTags_tag hinside, ofChars_opening hname hnames]
    rfl
  | closing name =>
    have hslash : ∀ c ∈ '/' :: name.toList, isBracket c = false :=
      List.forall_mem_cons.mpr ⟨by decide, isBracket_of_isName hplain⟩
    have hwritten : writePiece apostrophe (.closing name) ++ rest =
        '<' :: ('/' :: name.toList ++ '>' :: rest) := by
      simp [writePiece]
    rw [hwritten, readTags_tag (readTags_inside hslash [])]
    simp only [List.nil_append, Tag.ofChars, String.ofList_toList]
    rfl
  | single name attributes =>
    obtain ⟨hname, hnames⟩ := Bool.and_eq_true_iff.mp hplain
    have hslash : ∀ c ∈ ['/'], isBracket c = false :=
      List.forall_mem_singleton.mpr (by decide)
    have hinside : ∀ more,
        readTags (.inside [])
          (name.toList ++ attributes.flatMap (writeAttribute apostrophe) ++ ['/'] ++ more) =
        readTags (.inside (name.toList ++ attributeChars attributes ++ ['/'])) more := by
      intro more
      rw [List.append_assoc, List.append_assoc, readTags_inside (isBracket_of_isName hname),
        readTags_attributes h hnames, readTags_inside hslash, List.nil_append]
    have hwritten : writePiece apostrophe (.single name attributes) ++ rest =
        '<' :: (name.toList ++ attributes.flatMap (writeAttribute apostrophe) ++ ['/'] ++
          '>' :: rest) := by
      simp [writePiece]
    rw [hwritten, readTags_tag hinside, ofChars_single hname]
    rfl

/-- A text of plain pieces is read as their tags. -/
theorem readTags_write (h : isEscape apostrophe = true) {markup : Markup}
    (hplain : ∀ piece ∈ markup, piece.plain = true) :
    readTags .outside (write apostrophe markup).toList = some (markup.flatMap Piece.tags) := by
  rw [write, String.toList_ofList]
  induction markup with
  | nil => rfl
  | cons piece rest ih =>
    obtain ⟨hpiece, hrest⟩ := List.forall_mem_cons.mp hplain
    rw [List.flatMap_cons, readTags_writePiece h hpiece, ih hrest]
    rfl

/-! ## What is written -/

/-- Plain pieces whose tags nest. -/
structure Tidy (markup : Markup) : Prop where
  plain : ∀ piece ∈ markup, piece.plain = true
  nested : Nested (markup.flatMap Piece.tags)

namespace Tidy

variable {markup more : Markup}

theorem nil : Tidy [] := ⟨fun _ h => absurd h List.not_mem_nil, .nil⟩

theorem append (h : Tidy markup) (hmore : Tidy more) : Tidy (markup ++ more) where
  plain piece hpiece := (List.mem_append.mp hpiece).elim (h.plain piece) (hmore.plain piece)
  nested := by
    rw [List.flatMap_append]
    exact h.nested.append hmore.nested

/-- Text in front of tidy pieces. -/
theorem cons_fixed {text : String} (htext : (Piece.fixed text).plain = true)
    (h : Tidy markup) : Tidy (.fixed text :: markup) where
  plain := List.forall_mem_cons.mpr ⟨htext, h.plain⟩
  nested := h.nested

theorem cons_data (text : String) (h : Tidy markup) : Tidy (.data text :: markup) where
  plain := List.forall_mem_cons.mpr ⟨rfl, h.plain⟩
  nested := h.nested

theorem element {name : String} (hname : isName name = true)
    {attributes : List (String × String)}
    (hnames : attributes.all (fun a => isName a.1) = true) (h : Tidy markup) :
    Tidy (Markup.element name attributes markup) where
  plain := by
    refine List.forall_mem_cons.mpr ⟨Bool.and_eq_true_iff.mpr ⟨hname, hnames⟩, ?_⟩
    intro piece hpiece
    rcases List.mem_append.mp hpiece with hpiece | hpiece
    · exact h.plain piece hpiece
    · exact List.mem_singleton.mp hpiece ▸ hname
  nested := by
    rw [Markup.element, List.flatMap_cons, List.flatMap_append]
    exact .element name h.nested .nil

theorem flatMap {α : Type} {f : α → Markup} {items : List α}
    (h : ∀ item ∈ items, Tidy (f item)) : Tidy (items.flatMap f) := by
  induction items with
  | nil => exact nil
  | cons item rest ih =>
    obtain ⟨hitem, hrest⟩ := List.forall_mem_cons.mp h
    exact append hitem (ih hrest)

theorem balanced_write (h : isEscape apostrophe = true) (hmarkup : Tidy markup) :
    Balanced (write apostrophe markup) :=
  ⟨markup.flatMap Piece.tags, readTags_write h hmarkup.plain, hmarkup.nested⟩

end Tidy

theorem ampersandsEscaped_of_isName {name : String} (h : isName name = true) :
    AmpersandsEscaped apostrophe name.toList :=
  AmpersandsEscaped.of_isPlain fun _ hc => isPlain_of_isNameChar (isNameChar_of_mem h hc)

/-- A tag whose name has been written goes on with its attributes and its end. -/
theorem ampersandsEscaped_attributes (h : isEscape apostrophe = true)
    {attributes : List (String × String)}
    (hnames : attributes.all (fun a => isName a.1) = true) {rest : List Char}
    (hrest : '&' ∉ rest) :
    AmpersandsEscaped apostrophe
      (attributes.flatMap (writeAttribute apostrophe) ++ rest) := by
  refine .append (.flatMap fun a ha => ?_) (.of_not_mem hrest)
  have hname := List.all_eq_true.mp hnames a ha
  refine .cons (by decide) (.append (ampersandsEscaped_of_isName hname) ?_)
  exact .cons (by decide) (.cons (by decide)
    (.append (ampersandsEscaped_escape h a.2) (.of_not_mem (by decide))))

theorem ampersandsEscaped_writePiece (h : isEscape apostrophe = true) {piece : Piece}
    (hplain : piece.plain = true) :
    AmpersandsEscaped apostrophe (writePiece apostrophe piece) := by
  cases piece with
  | fixed text => exact .of_isPlain (List.all_eq_true.mp hplain)
  | data text => exact ampersandsEscaped_escape h text
  | opening name attributes | single name attributes =>
    obtain ⟨hname, hnames⟩ := Bool.and_eq_true_iff.mp hplain
    rw [writePiece, List.append_assoc]
    exact .cons (by decide) (.append (ampersandsEscaped_of_isName hname)
      (ampersandsEscaped_attributes h hnames (by decide)))
  | closing name =>
    exact .cons (by decide) (.cons (by decide)
      (.append (ampersandsEscaped_of_isName hplain) (.of_not_mem (by decide))))

theorem ampersandsEscaped_write (h : isEscape apostrophe = true) {markup : Markup}
    (hplain : ∀ piece ∈ markup, piece.plain = true) :
    AmpersandsEscaped apostrophe (write apostrophe markup).toList := by
  rw [write, String.toList_ofList]
  exact AmpersandsEscaped.flatMap fun piece hpiece =>
    ampersandsEscaped_writePiece h (hplain piece hpiece)

theorem filter_of_isName {name : String} (h : isName name = true) :
    name.toList.filter isBracket = [] :=
  filter_of_isPlain fun _ hc => isPlain_of_isNameChar (isNameChar_of_mem h hc)

theorem filter_attributes (h : isEscape apostrophe = true)
    {attributes : List (String × String)}
    (hnames : attributes.all (fun a => isName a.1) = true) :
    (attributes.flatMap (writeAttribute apostrophe)).filter isBracket =
      attributes.flatMap fun _ => ['"', '"'] := by
  rw [List.filter_flatMap]
  refine List.flatMap_congr fun a ha => ?_
  have hname := filter_of_isName (List.all_eq_true.mp hnames a ha)
  have hblank : isBracket ' ' = false := by decide
  have hequals : isBracket '=' = false := by decide
  have hquote : isBracket '"' = true := by decide
  simp [writeAttribute, hname, filter_escape h, hblank, hequals, hquote]

theorem filter_writePiece (h : isEscape apostrophe = true) {piece : Piece}
    (hplain : piece.plain = true) :
    (writePiece apostrophe piece).filter isBracket = piece.brackets := by
  have hbegin : isBracket '<' = true := by decide
  have hend : isBracket '>' = true := by decide
  have hslash : isBracket '/' = false := by decide
  cases piece with
  | fixed text => exact filter_of_isPlain (List.all_eq_true.mp hplain)
  | data text => exact filter_escape h text
  | opening name attributes | single name attributes =>
    obtain ⟨hname, hnames⟩ := Bool.and_eq_true_iff.mp hplain
    simp [writePiece, Piece.brackets, filter_of_isName hname,
      filter_attributes h hnames, hbegin, hend, hslash]
  | closing name =>
    simp [writePiece, Piece.brackets, filter_of_isName hplain, hbegin, hend,
      hslash]

/-- The brackets and quotes that are written are those of the tags. -/
theorem filter_write (h : isEscape apostrophe = true) {markup : Markup}
    (hplain : ∀ piece ∈ markup, piece.plain = true) :
    (write apostrophe markup).toList.filter isBracket = markup.flatMap Piece.brackets := by
  rw [write, String.toList_ofList, List.filter_flatMap]
  exact List.flatMap_congr fun piece hpiece => filter_writePiece h (hplain piece hpiece)

end Markup

end Sargam.Export
