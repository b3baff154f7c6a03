import Sargam.Proofs.HtmlPage
import Sargam.Proofs.Nodes

/-!
# Reading pages back

Two things keep a page from being read as it stands. An apostrophe is escaped by its number, so it
gets the escape by its name first; as every ampersand begins an escape, nothing else is replaced.
And a page is indented. The gaps of spaces and line breaks are text beside elements, and they are
left out; an element that holds text alone keeps it, blank or not.

The gap before a tag is pending while the pieces before the tag are read, so pieces are read from
one pending gap to another.

* `nameApostrophes`: a text with the escape of the apostrophe by its name.
* `Node.withoutGaps`, `contents`: nodes without the gaps beside elements.
* `readPage`: the elements of a page.
* `Renamed`, `Markup.renamed_write`: what a page becomes when its apostrophes get their name.
* `Markup.Shows`: pieces that are read as elements with gaps beside them, wherever they stand.
-/

namespace Sargam.Export

/-! ## Pages -/

/-- A text in which an apostrophe that is escaped by its number is escaped by its name. -/
def nameApostrophes : List Char → List Char
  | [] => []
  | '&' :: '#' :: '3' :: '9' :: ';' :: cs =>
    '&' :: 'a' :: 'p' :: 'o' :: 's' :: ';' :: nameApostrophes cs
  | c :: cs => c :: nameApostrophes cs

/-- Whether a character is a space or the end of a line. -/
def isGapChar (c : Char) : Bool := c = ' ' || c = '\n'

namespace Node

def isElement : Node → Bool
  | .text _ => false
  | .element _ _ _ => true

/-- Whether a node is text of spaces and ends of lines. -/
def isGap : Node → Bool
  | .text content => content.toList.all isGapChar
  | .element _ _ _ => false

end Node

mutual

/-- A node in which there are no gaps beside elements. -/
def Node.withoutGaps : Node → Node
  | .text content => .text content
  | .element name attributes children =>
    .element name attributes (if children.any Node.isElement then contents children else children)

/-- The nodes that are no gaps, without the gaps in them. -/
def contents : List Node → List Node
  | [] => []
  | node :: rest => if node.isGap then contents rest else node.withoutGaps :: contents rest

end

/-- The elements of a page. -/
def readPage (text : String) : Option (List Node) :=
  (readNodes (String.ofList (nameApostrophes text.toList))).map contents

/-! ## Apostrophes -/

/-- A part of a text that becomes another when apostrophes get their name. -/
def Renamed (before after : List Char) : Prop :=
  ∀ rest, nameApostrophes (before ++ rest) = after ++ nameApostrophes rest

namespace Renamed

variable {as bs cs ds : List Char}

theorem append (h : Renamed as bs) (hmore : Renamed cs ds) : Renamed (as ++ cs) (bs ++ ds) := by
  intro rest
  rw [List.append_assoc, h, hmore, List.append_assoc]

theorem of_not_mem (h : '&' ∉ cs) : Renamed cs cs := by
  intro rest
  induction cs with
  | nil => rfl
  | cons c cs ih =>
    obtain ⟨hc, hcs⟩ := not_or.mp (mt List.mem_cons.mpr h)
    rw [List.cons_append, nameApostrophes, ih hcs, List.cons_append]
    intro _ heq
    exact absurd heq.symm hc

theorem flatMap {α : Type} {f g : α → List Char} {items : List α}
    (h : ∀ item ∈ items, Renamed (f item) (g item)) :
    Renamed (items.flatMap f) (items.flatMap g) := by
  induction items with
  | nil => exact of_not_mem List.not_mem_nil
  | cons item rest ih =>
    obtain ⟨hitem, hrest⟩ := List.forall_mem_cons.mp h
    exact append hitem (ih hrest)

end Renamed

namespace Markup

theorem renamed_escapeChar (c : Char) :
    Renamed (escapeChar Html.apostrophe c) (escapeChar Svg.apostrophe c) := by
  unfold escapeChar
  split
  · exact fun rest => rfl
  split
  · exact fun rest => rfl
  split
  · exact fun rest => rfl
  split
  · exact fun rest => rfl
  split
  · exact fun rest => rfl
  · rename_i hamp _ _ _ _
    exact .of_not_mem fun hmem => hamp (List.mem_singleton.mp hmem).symm

theorem renamed_escape (text : String) :
    Renamed (escape Html.apostrophe text) (escape Svg.apostrophe text) :=
  .flatMap fun c _ => renamed_escapeChar c

theorem ampersand_not_mem_name {name : String} (h : isName name = true) : '&' ∉ name.toList :=
  fun hmem => ne_of_isNameChar (isNameChar_of_mem h hmem) (by decide : isNameChar '&' = false) rfl

theorem renamed_writeAttributes {attributes : List (String × String)}
    (hnames : attributes.all (fun a => isName a.1) = true) :
    Renamed (attributes.flatMap (writeAttribute Html.apostrophe))
      (attributes.flatMap (writeAttribute Svg.apostrophe)) := by
  refine .flatMap fun a ha => ?_
  obtain ⟨name, value⟩ := a
  have hname := ampersand_not_mem_name (List.all_eq_true.mp hnames _ ha)
  have hkey : '&' ∉ ' ' :: (name.toList ++ ['=', '"']) := by simp [hname]
  have hwritten : ∀ apostrophe, writeAttribute apostrophe (name, value) =
      ' ' :: (name.toList ++ ['=', '"']) ++ (escape apostrophe value ++ ['"']) := by
    simp [writeAttribute]
  rw [hwritten, hwritten]
  exact .append (.of_not_mem hkey) (.append (renamed_escape value) (.of_not_mem (by decide)))

theorem renamed_tag {name : String} (hname : isName name = true)
    {attributes : List (String × String)}
    (hnames : attributes.all (fun a => isName a.1) = true) {close : List Char}
    (hclose : '&' ∉ close) :
    Renamed ('<' :: (name.toList ++ attributes.flatMap (writeAttribute Html.apostrophe) ++ close))
      ('<' :: (name.toList ++ attributes.flatMap (writeAttribute Svg.apostrophe) ++ close)) := by
  have hopen : '&' ∉ '<' :: name.toList := by simp [ampersand_not_mem_name hname]
  exact .append (.append (.of_not_mem hopen) (renamed_writeAttributes hnames)) (.of_not_mem hclose)

theorem renamed_writePiece {piece : Piece} (h : piece.plain = true) :
    Renamed (writePiece Html.apostrophe piece) (writePiece Svg.apostrophe piece) := by
  cases piece with
  | fixed text =>
    refine .of_not_mem fun hmem => ?_
    exact ne_of_isPlain (List.all_eq_true.mp h _ hmem) (by decide : isPlain '&' = false) rfl
  | data text => exact renamed_escape text
  | opening name attributes =>
    obtain ⟨hname, hnames⟩ := Bool.and_eq_true_iff.mp h
    exact renamed_tag hname hnames (by decide)
  | closing name =>
    have hname := ampersand_not_mem_name h
    exact .of_not_mem (by simp [writePiece, hname])
  | single name attributes =>
    obtain ⟨hname, hnames⟩ := Bool.and_eq_true_iff.mp h
    exact renamed_tag hname hnames (by decide)

/-- A page is read as the text of the same pieces with the other escape of the apostrophe. -/
theorem renamed_write {markup : Markup} (h : ∀ piece ∈ markup, piece.plain = true) :
    String.ofList (nameApostrophes (write Html.apostrophe markup).toList) =
      write Svg.apostrophe markup := by
  have hrenamed := Renamed.flatMap (fun piece hpiece => renamed_writePiece (h piece hpiece)) []
  rw [write, String.toList_ofList, write]
  rw [List.append_nil, nameApostrophes, List.append_nil] at hrenamed
  rw [hrenamed]

end Markup

/-! ## Gaps -/

theorem contents_append (nodes more : List Node) :
    contents (nodes ++ more) = contents nodes ++ contents more := by
  induction nodes with
  | nil => rfl
  | cons node rest ih =>
    rw [List.cons_append, contents, contents, ih]
    split <;> rfl

theorem contents_element (name : String) (attributes : List (String × String))
    (children : List Node) :
    contents [.element name attributes children] =
      [.element name attributes
        (if children.any Node.isElement then contents children else children)] := rfl

theorem contents_ofText_gap {gap : List Char} (h : gap.all isGapChar = true) :
    contents (Node.ofText (String.ofList gap)) = [] := by
  unfold Node.ofText
  split
  · rfl
  · have hgap : (Node.text (String.ofList gap)).isGap = true := by
      rw [Node.isGap, String.toList_ofList, h]
    rw [contents, if_pos hgap, contents]

theorem isElement_withoutGaps (node : Node) : node.withoutGaps.isElement = node.isElement := by
  cases node <;> rfl

theorem any_isElement_contents (nodes : List Node) :
    (contents nodes).any Node.isElement = nodes.any Node.isElement := by
  induction nodes with
  | nil => rfl
  | cons node rest ih =>
    rw [contents, List.any_cons]
    split
    · rename_i hgap
      have hnone : node.isElement = false := by
        cases node with
        | text content => rfl
        | element name attributes children => cases hgap
      rw [ih, hnone, Bool.false_or]
    · rw [List.any_cons, isElement_withoutGaps, ih]

theorem any_isElement_ofText (text : String) : (Node.ofText text).any Node.isElement = false := by
  unfold Node.ofText
  split <;> rfl

theorem ne_ampersand_of_isGapChar {c : Char} (h : isGapChar c = true) : c ≠ '&' := by
  rintro rfl
  cases h

theorem isBracket_of_isGapChar {c : Char} (h : isGapChar c = true) : isBracket c = false := by
  simp only [isGapChar, Bool.or_eq_true, decide_eq_true_eq] at h
  rcases h with rfl | rfl <;> rfl

/-! ## Pieces that show elements -/

/-- Whether a piece is text. -/
def Piece.isText : Piece → Bool
  | .fixed _ | .data _ => true
  | _ => false

/-- The characters that a piece of text stands for. -/
def Piece.chars : Piece → List Char
  | .fixed text | .data text => text.toList
  | _ => []

namespace Markup

open Svg (apostrophe)

/-- The text of pieces that are all text. -/
def content (body : Markup) : String := String.ofList (body.flatMap Piece.chars)

theorem unescape_append_of_not_mem {cs : List Char} (h : '&' ∉ cs) (rest : List Char) :
    unescape (cs ++ rest) = (unescape rest).map (cs ++ ·) := by
  induction cs with
  | nil => simp
  | cons c cs ih =>
    obtain ⟨hc, hcs⟩ := not_or.mp (mt List.mem_cons.mpr h)
    rw [List.cons_append, unescape_cons (Ne.symm hc), ih hcs, Option.map_map]
    rfl

theorem unescape_pieces {body : Markup} (hplain : ∀ piece ∈ body, piece.plain = true)
    (htext : ∀ piece ∈ body, piece.isText = true) :
    unescape (body.flatMap (writePiece apostrophe)) = some (body.flatMap Piece.chars) := by
  induction body with
  | nil => rfl
  | cons piece rest ih =>
    obtain ⟨hpiece, hrest⟩ := List.forall_mem_cons.mp hplain
    obtain ⟨hkind, hothers⟩ := List.forall_mem_cons.mp htext
    rw [List.flatMap_cons, List.flatMap_cons]
    cases piece with
    | fixed text =>
      have hnone : '&' ∉ text.toList := fun hmem =>
        ne_of_isPlain (List.all_eq_true.mp hpiece _ hmem) (by decide : isPlain '&' = false) rfl
      rw [writePiece, unescape_append_of_not_mem hnone, ih hrest hothers]
      rfl
    | data text =>
      rw [writePiece, unescape_escape_append, ih hrest hothers]
      rfl
    | opening name attributes => cases hkind
    | closing name => cases hkind
    | single name attributes => cases hkind

theorem isBracket_of_mem_pieces {body : Markup} (hplain : ∀ piece ∈ body, piece.plain = true)
    (htext : ∀ piece ∈ body, piece.isText = true) :
    ∀ c ∈ body.flatMap (writePiece apostrophe), isBracket c = false := by
  intro c hc
  obtain ⟨piece, hmem, hwritten⟩ := List.mem_flatMap.mp hc
  have hkind := htext piece hmem
  cases piece with
  | fixed text => exact isBracket_of_isPlain (List.all_eq_true.mp (hplain _ hmem) c hwritten)
  | data text => exact isBracket_of_mem_escape isEscape_apostrophe hwritten
  | opening name attributes => cases hkind
  | closing name => cases hkind
  | single name attributes => cases hkind

theorem addText_gap (r : Reading) {gap : List Char} (h : gap.all isGapChar = true) :
    r.addText gap = some (r.add (Node.ofText (String.ofList gap))) := by
  have hnone : '&' ∉ gap :=
    fun hmem => ne_ampersand_of_isGapChar (List.all_eq_true.mp h _ hmem) rfl
  have hread := unescape_append_of_not_mem hnone []
  rw [List.append_nil, unescape, Option.map_some, List.append_nil] at hread
  rw [Reading.addText, hread, Option.map_some]

/-- Pieces that are read as elements, with nothing but gaps beside these. What is read begins with
a gap before it and leaves a gap behind. -/
def Shows (markup : Markup) (shown : List Node) : Prop :=
  ∀ (r : Reading) (gap : List Char), gap.all isGapChar = true →
    ∃ nodes after, after.all isGapChar = true ∧ contents nodes = shown ∧
      ∀ rest, readFrom r (.text gap) (markup.flatMap (writePiece apostrophe) ++ rest) =
        readFrom (r.add nodes) (.text after) rest

namespace Shows

variable {markup more : Markup} {shown others : List Node}

theorem nil : Shows [] [] := by
  intro r gap hgap
  refine ⟨[], gap, hgap, rfl, fun rest => ?_⟩
  rw [Reading.add, List.append_nil]
  rfl

theorem append (h : Shows markup shown) (hmore : Shows more others) :
    Shows (markup ++ more) (shown ++ others) := by
  intro r gap hgap
  obtain ⟨nodes, between, hbetween, rfl, hread⟩ := h r gap hgap
  obtain ⟨last, after, hafter, rfl, hlast⟩ := hmore (r.add nodes) between hbetween
  refine ⟨nodes ++ last, after, hafter, contents_append nodes last, fun rest => ?_⟩
  rw [List.flatMap_append, List.append_assoc, hread, hlast, Reading.add, Reading.add, Reading.add,
    List.append_assoc]

theorem flatMap {α : Type} {f : α → Markup} {g : α → List Node} {items : List α}
    (h : ∀ item ∈ items, Shows (f item) (g item)) :
    Shows (items.flatMap f) (items.flatMap g) := by
  induction items with
  | nil => exact nil
  | cons item rest ih =>
    obtain ⟨hitem, hrest⟩ := List.forall_mem_cons.mp h
    exact append hitem (ih hrest)

/-- A gap joins the one that is pending. -/
theorem gap {text : String} (h : text.toList.all isGapChar = true) : Shows [.fixed text] [] := by
  intro r gap hgap
  refine ⟨[], gap ++ text.toList, ?_, rfl, fun rest => ?_⟩
  · rw [List.all_append, hgap, h, Bool.and_self]
  · have hplain : ∀ c ∈ text.toList, isBracket c = false :=
      fun c hc => isBracket_of_isGapChar (List.all_eq_true.mp h c hc)
    rw [List.flatMap_singleton, writePiece, readFrom_text hplain, Reading.add, List.append_nil]

theorem cons_gap {text : String} (h : text.toList.all isGapChar = true)
    (hmarkup : Shows markup shown) : Shows (.fixed text :: markup) shown :=
  append (gap h) hmarkup

theorem append_gap {text : String} (hmarkup : Shows markup shown)
    (h : text.toList.all isGapChar = true) : Shows (markup ++ [.fixed text]) shown := by
  have hshows := append hmarkup (gap h)
  rwa [List.append_nil] at hshows

/-- An element around text. -/
theorem element_text {name : String} (hname : isName name = true)
    {attributes : List (String × String)} (hattributes : WellNamed attributes) {body : Markup}
    (hplain : ∀ piece ∈ body, piece.plain = true) (htext : ∀ piece ∈ body, piece.isText = true) :
    Shows (Markup.element name attributes body)
      [.element name attributes (Node.ofText body.content)] := by
  intro r gap hgap
  refine ⟨Node.ofText (String.ofList gap) ++ [.element name attributes (Node.ofText body.content)],
    [], rfl, ?_, fun rest => ?_⟩
  · rw [contents_append, contents_ofText_gap hgap, contents_element, any_isElement_ofText]
    rfl
  · have hbody : ∀ r : Reading, r.addText (body.flatMap (writePiece apostrophe)) =
        some (r.add (Node.ofText body.content)) := by
      intro r
      rw [Reading.addText, unescape_pieces hplain htext, Option.map_some, content]
    rw [Markup.element, List.flatMap_cons, List.append_assoc,
      readFrom_opening (addText_gap r hgap) hname hattributes, List.flatMap_append,
      List.append_assoc, readFrom_text (isBracket_of_mem_pieces hplain htext), List.nil_append,
      List.flatMap_singleton, readFrom_closing hname (hbody _), Reading.add, Reading.add,
      List.append_assoc]
    rfl

/-- An element around elements, of which there has to be one. -/
theorem element {name : String} (hname : isName name = true)
    {attributes : List (String × String)} (hattributes : WellNamed attributes)
    (h : Shows markup shown) (hany : shown.any Node.isElement = true) :
    Shows (Markup.element name attributes markup) [.element name attributes shown] := by
  intro r gap hgap
  obtain ⟨nodes, after, hafter, rfl, hread⟩ := h ⟨⟨name, attributes, (r.add
    (Node.ofText (String.ofList gap))).nodes⟩ :: r.elements, []⟩ [] rfl
  refine ⟨Node.ofText (String.ofList gap) ++
    [.element name attributes (nodes ++ Node.ofText (String.ofList after))], [], rfl, ?_,
    fun rest => ?_⟩
  · rw [any_isElement_contents] at hany
    rw [contents_append, contents_ofText_gap hgap, contents_element, List.any_append, hany,
      Bool.true_or, if_pos rfl, contents_append, contents_ofText_gap hafter, List.append_nil,
      List.nil_append]
  · rw [Markup.element, List.flatMap_cons, List.append_assoc,
      readFrom_opening (addText_gap r hgap) hname hattributes, List.flatMap_append,
      List.append_assoc, List.flatMap_singleton]
    refine (hread _).trans ((readFrom_closing hname (addText_gap _ hafter) rest).trans ?_)
    simp [Reading.add]

theorem readPage_write (h : Shows markup shown) (hplain : ∀ piece ∈ markup, piece.plain = true) :
    readPage (write Html.apostrophe markup) = some shown := by
  obtain ⟨nodes, after, hafter, rfl, hread⟩ := h ⟨[], []⟩ [] rfl
  have hall := hread []
  rw [List.append_nil, readFrom, addText_gap _ hafter] at hall
  rw [readPage, renamed_write hplain, readNodes, write, String.toList_ofList, hall]
  have hcontents : contents (nodes ++ Node.ofText (String.ofList after)) = contents nodes := by
    rw [contents_append, contents_ofText_gap hafter, List.append_nil]
  exact congrArg some hcontents

end Shows

end Markup

end Sargam.Export
