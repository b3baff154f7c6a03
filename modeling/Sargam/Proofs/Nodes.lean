import Mathlib.Data.List.Basic
import Sargam.Export.Svg
import Sargam.Proofs.Tags

/-!
# Reading a marked-up text back

A reader of a marked-up text keeps the elements that have been opened, each with the nodes before
it, and the characters since the last tag. An element is complete when a tag closes it by its
name; data and values of attributes are taken back from their escapes. Text is a node as a whole,
so two pieces of data in a row cannot be told apart; here data is all that an element holds.

* `Node`: a text, or an element with its attributes and the nodes in it.
* `unescape`: the characters that data or the value of an attribute is written for.
* `readTag`: the name and the attributes of a tag.
* `readNodes`: the nodes of a whole text, in which all elements are closed.
* `Markup.unescape_escape`, `Markup.readTag_opening`: escapes and tags are read as what they are
  written for.
* `Markup.Reads`: pieces that are read as nodes, wherever they stand.
-/

namespace Sargam.Export

/-- A text, or an element. -/
inductive Node where
  | text (text : String)
  | element (name : String) (attributes : List (String × String)) (children : List Node)

/-- The nodes of a text; there are none without characters. -/
def Node.ofText (text : String) : List Node := if text = "" then [] else [.text text]

/-! ## Characters and tags -/

/-- The characters that others are written for. An ampersand has to begin an escape. -/
def unescape : List Char → Option (List Char)
  | [] => some []
  | '&' :: 'a' :: 'm' :: 'p' :: ';' :: cs => (unescape cs).map ('&' :: ·)
  | '&' :: 'l' :: 't' :: ';' :: cs => (unescape cs).map ('<' :: ·)
  | '&' :: 'g' :: 't' :: ';' :: cs => (unescape cs).map ('>' :: ·)
  | '&' :: 'q' :: 'u' :: 'o' :: 't' :: ';' :: cs => (unescape cs).map ('"' :: ·)
  | '&' :: 'a' :: 'p' :: 'o' :: 's' :: ';' :: cs => (unescape cs).map ('\x27' :: ·)
  | c :: cs => if c = '&' then none else (unescape cs).map (c :: ·)

/-- The name of an attribute, which stands between a blank and the sign of equality. -/
def readKey : List Char → Option String
  | ' ' :: cs =>
    if cs.getLast? = some '=' ∧ isName (String.ofList cs.dropLast) = true then
      some (String.ofList cs.dropLast)
    else none
  | _ => none

/-- The attributes of a tag that has been cut at its quotes, and what follows the last of them.
No name may occur twice. -/
def readAttributes : List (List Char) → Option (List (String × String) × List Char)
  | [] => none
  | [tail] => some ([], tail)
  | key :: value :: rest => do
    let name ← readKey key
    let value ← unescape value
    let (attributes, tail) ← readAttributes rest
    if name ∈ attributes.map Prod.fst then none
    else return ((name, String.ofList value) :: attributes, tail)

/-- The tag of the characters between its brackets. -/
def readTag : List Char → Option Piece
  | '/' :: cs =>
    if isName (String.ofList cs) then some (.closing (String.ofList cs)) else none
  | cs => do
    let name := String.ofList (cs.takeWhile isNameChar)
    let (attributes, tail) ← readAttributes ((cs.dropWhile isNameChar).splitOn '"')
    if name = "" then none
    else if tail = [] then some (.opening name attributes)
    else if tail = ['/'] then some (.single name attributes)
    else none

/-! ## Nodes -/

/-- An element that has not been closed, and the nodes before it. -/
structure OpenElement where
  name : String
  attributes : List (String × String)
  before : List Node

/-- What has been read: the open elements, the innermost one first, and the nodes that are
complete in the innermost one. -/
structure Reading where
  elements : List OpenElement
  nodes : List Node

namespace Reading

def add (r : Reading) (nodes : List Node) : Reading := { r with nodes := r.nodes ++ nodes }

/-- The reading after the characters between two tags. -/
def addText (r : Reading) (written : List Char) : Option Reading :=
  (unescape written).map fun text => r.add (Node.ofText (String.ofList text))

/-- The reading after a tag. -/
def addTag (r : Reading) : Piece → Option Reading
  | .opening name attributes => some ⟨⟨name, attributes, r.nodes⟩ :: r.elements, []⟩
  | .closing name =>
    match r.elements with
    | [] => none
    | e :: elements =>
      if e.name = name then
        some ⟨elements, e.before ++ [.element e.name e.attributes r.nodes]⟩
      else none
  | .single name attributes => some (r.add [.element name attributes []])
  | .fixed _ | .data _ => none

end Reading

/-- Where a reader is: between tags, in a tag, or in a value in a tag, with the characters since
the last tag or in the tag. -/
inductive NodeReader where
  | text (written : List Char)
  | tag (written : List Char)
  | value (written : List Char)

/-- The reading after some characters, if each tag in them begins and ends. -/
def readFrom (r : Reading) : NodeReader → List Char → Option Reading
  | .text written, [] => r.addText written
  | .tag _, [] => none
  | .value _, [] => none
  | .text written, c :: cs =>
    if c = '<' then do
      let r ← r.addText written
      readFrom r (.tag []) cs
    else if c = '>' then none
    else readFrom r (.text (written ++ [c])) cs
  | .tag written, c :: cs =>
    if c = '>' then do
      let tag ← readTag written
      let r ← r.addTag tag
      readFrom r (.text []) cs
    else if c = '<' then none
    else if c = '"' then readFrom r (.value (written ++ [c])) cs
    else readFrom r (.tag (written ++ [c])) cs
  | .value written, c :: cs =>
    if c = '<' then none
    else if c = '"' then readFrom r (.tag (written ++ [c])) cs
    else readFrom r (.value (written ++ [c])) cs

/-- The nodes of a text in which all elements are closed. -/
def readNodes (text : String) : Option (List Node) := do
  let r ← readFrom ⟨[], []⟩ (.text []) text.toList
  if r.elements.isEmpty then some r.nodes else none

namespace Markup

/-! ## Escapes -/

open Svg (apostrophe)

theorem isEscape_apostrophe : isEscape apostrophe = true := by decide

theorem unescape_cons {c : Char} (h : c ≠ '&') (cs : List Char) :
    unescape (c :: cs) = (unescape cs).map (c :: ·) := by
  rw [unescape, if_neg h]
  all_goals
    intro _ hc
    exact absurd hc h

/-- A written character is read as one character. -/
theorem unescape_escapeChar (c : Char) (cs : List Char) :
    unescape (escapeChar apostrophe c ++ cs) = (unescape cs).map (c :: ·) := by
  unfold escapeChar
  split
  · rename_i h
    rw [h]
    rfl
  split
  · rename_i h
    rw [h]
    rfl
  split
  · rename_i h
    rw [h]
    rfl
  split
  · rename_i h
    rw [h]
    rfl
  split
  · rename_i h
    rw [h]
    rfl
  · rename_i hamp _ _ _ _
    exact unescape_cons hamp cs

theorem unescape_escape_append (text : String) (rest : List Char) :
    unescape (escape apostrophe text ++ rest) = (unescape rest).map (text.toList ++ ·) := by
  rw [escape]
  induction text.toList with
  | nil => simp
  | cons c cs ih =>
    rw [List.flatMap_cons, List.append_assoc, unescape_escapeChar, ih, Option.map_map]
    rfl

theorem unescape_escape (text : String) :
    unescape (escape apostrophe text) = some text.toList := by
  have hread := unescape_escape_append text []
  rwa [List.append_nil, unescape, Option.map_some, List.append_nil] at hread

/-! ## Tags -/

/-- Attributes with names, none of which occurs twice. -/
structure WellNamed (attributes : List (String × String)) : Prop where
  names : attributes.all (fun a => isName a.1) = true
  nodup : (attributes.map Prod.fst).Nodup

/-- A list of names is enough to see that attributes are well named. -/
theorem WellNamed.of_names {attributes : List (String × String)} (names : List String)
    (h : attributes.map Prod.fst = names) (hnames : names.all isName = true)
    (hnodup : names.Nodup) : WellNamed attributes where
  names := by
    rw [← h, List.all_map] at hnames
    exact hnames
  nodup := h ▸ hnodup

theorem readKey_name {name : String} (h : isName name = true) :
    readKey (' ' :: (name.toList ++ ['='])) = some name := by
  rw [readKey, List.getLast?_concat, List.dropLast_concat, String.ofList_toList, if_pos ⟨rfl, h⟩]

theorem quote_not_mem_escape (text : String) : '"' ∉ escape apostrophe text := by
  intro h
  have hquote := isBracket_of_mem_escape isEscape_apostrophe h
  cases hquote

theorem quote_not_mem_key {name : String} (h : isName name = true) :
    '"' ∉ ' ' :: (name.toList ++ ['=']) := by
  intro hmem
  have hquote := isBracket_of_mem_key h _ hmem
  cases hquote

theorem writeAttribute_append (name value : String) (rest : List Char) :
    writeAttribute apostrophe (name, value) ++ rest =
      ' ' :: (name.toList ++ ['=']) ++ '"' :: (escape apostrophe value ++ '"' :: rest) := by
  simp [writeAttribute]

theorem readAttributes_write {attributes : List (String × String)} (h : WellNamed attributes)
    {tail : List Char} (htail : '"' ∉ tail) :
    readAttributes ((attributes.flatMap (writeAttribute apostrophe) ++ tail).splitOn '"') =
      some (attributes, tail) := by
  obtain ⟨hnames, hnodup⟩ := h
  induction attributes with
  | nil =>
    rw [List.flatMap_nil, List.nil_append, List.splitOn_eq_singleton htail]
    rfl
  | cons a more ih =>
    obtain ⟨name, value⟩ := a
    obtain ⟨hname, hnames⟩ := Bool.and_eq_true_iff.mp hnames
    obtain ⟨hnew, hnodup⟩ := List.nodup_cons.mp hnodup
    rw [List.flatMap_cons, List.append_assoc, writeAttribute_append,
      List.splitOn_append_cons_self_of_not_mem (quote_not_mem_key hname),
      List.splitOn_append_cons_self_of_not_mem (quote_not_mem_escape value)]
    simp only [readAttributes, readKey_name hname, unescape_escape, ih hnames hnodup,
      Option.bind_eq_bind, Option.bind_some, if_neg hnew, String.ofList_toList]
    rfl

theorem writeAttributes_append_head? {attributes : List (String × String)} {tail : List Char}
    (htail : ∀ c ∈ tail.head?, isNameChar c = false) :
    ∀ c ∈ (attributes.flatMap (writeAttribute apostrophe) ++ tail).head?,
      isNameChar c = false := by
  cases attributes with
  | nil => exact htail
  | cons a more =>
    rintro c hc
    cases hc
    decide

/-- A tag that is not a closing one is read as its name and its attributes. -/
theorem readTag_append {name : String} (hname : isName name = true)
    {attributes : List (String × String)} (h : WellNamed attributes) {tail : List Char}
    (htail : '"' ∉ tail) (hhead : ∀ c ∈ tail.head?, isNameChar c = false) :
    readTag (name.toList ++ (attributes.flatMap (writeAttribute apostrophe) ++ tail)) =
      if tail = [] then some (.opening name attributes)
      else if tail = ['/'] then some (.single name attributes)
      else none := by
  have hin : ∀ c ∈ name.toList, isNameChar c = true := fun c hc => isNameChar_of_mem hname hc
  have hne : name ≠ "" := by
    rintro rfl
    cases hname
  have hread := readAttributes_write h htail
  generalize hrest : attributes.flatMap (writeAttribute apostrophe) ++ tail = rest at hread ⊢
  have hstop : rest.takeWhile isNameChar = [] ∧ rest.dropWhile isNameChar = rest := by
    have hhead := hrest ▸ @writeAttributes_append_head? attributes tail hhead
    cases rest with
    | nil => exact ⟨rfl, rfl⟩
    | cons c rest =>
      have hc : ¬ isNameChar c = true := by simp [hhead c rfl]
      exact ⟨List.takeWhile_cons_of_neg hc, List.dropWhile_cons_of_neg hc⟩
  rw [readTag]
  · simp only [List.takeWhile_append_of_pos hin, List.dropWhile_append_of_pos hin, hstop.1,
      hstop.2, List.append_nil, String.ofList_toList, hread, Option.bind_eq_bind,
      Option.bind_some, if_neg hne]
  · -- A name is not empty, so a slash would be in it.
    intro cs hcons
    cases hchars : name.toList with
    | nil => exact hne (String.toList_eq_nil_iff.mp hchars)
    | cons c chars =>
      rw [hchars, List.cons_append] at hcons
      exact ne_slash_of_isName hname (hchars ▸ List.mem_cons_self) (List.cons.inj hcons).1

theorem readTag_opening {name : String} (hname : isName name = true)
    {attributes : List (String × String)} (h : WellNamed attributes) :
    readTag (name.toList ++ attributes.flatMap (writeAttribute apostrophe)) =
      some (.opening name attributes) := by
  have hread := readTag_append hname h (List.not_mem_nil : '"' ∉ []) nofun
  rwa [List.append_nil, if_pos rfl] at hread

theorem readTag_single {name : String} (hname : isName name = true)
    {attributes : List (String × String)} (h : WellNamed attributes) :
    readTag (name.toList ++ (attributes.flatMap (writeAttribute apostrophe) ++ ['/'])) =
      some (.single name attributes) := by
  have hslash : ∀ c ∈ (['/'] : List Char).head?, isNameChar c = false := by
    rintro c hc
    cases hc
    decide
  rw [readTag_append hname h (by decide) hslash, if_neg (List.cons_ne_nil _ _), if_pos rfl]

theorem readTag_closing {name : String} (hname : isName name = true) :
    readTag ('/' :: name.toList) = some (.closing name) := by
  rw [readTag, String.ofList_toList, if_pos hname]

/-! ## Reading pieces -/

variable {r : Reading}

theorem readFrom_text {cs : List Char} (h : ∀ c ∈ cs, isBracket c = false)
    (written rest : List Char) :
    readFrom r (.text written) (cs ++ rest) = readFrom r (.text (written ++ cs)) rest := by
  induction cs generalizing written with
  | nil => rw [List.nil_append, List.append_nil]
  | cons c cs ih =>
    obtain ⟨hc, hcs⟩ := List.forall_mem_cons.mp h
    simp only [isBracket, Bool.or_eq_false_iff, decide_eq_false_iff_not] at hc
    rw [List.cons_append, readFrom, if_neg hc.1.1, if_neg hc.1.2, ih hcs, List.append_assoc,
      List.singleton_append]

theorem readFrom_tag {cs : List Char} (h : ∀ c ∈ cs, isBracket c = false)
    (written rest : List Char) :
    readFrom r (.tag written) (cs ++ rest) = readFrom r (.tag (written ++ cs)) rest := by
  induction cs generalizing written with
  | nil => rw [List.nil_append, List.append_nil]
  | cons c cs ih =>
    obtain ⟨hc, hcs⟩ := List.forall_mem_cons.mp h
    simp only [isBracket, Bool.or_eq_false_iff, decide_eq_false_iff_not] at hc
    rw [List.cons_append, readFrom, if_neg hc.1.2, if_neg hc.1.1, if_neg hc.2, ih hcs,
      List.append_assoc, List.singleton_append]

theorem readFrom_value {cs : List Char} (h : ∀ c ∈ cs, isBracket c = false)
    (written rest : List Char) :
    readFrom r (.value written) (cs ++ '"' :: rest) =
      readFrom r (.tag (written ++ (cs ++ ['"']))) rest := by
  induction cs generalizing written with
  | nil => rw [List.nil_append, readFrom, if_neg (by decide), if_pos rfl, List.nil_append]
  | cons c cs ih =>
    obtain ⟨hc, hcs⟩ := List.forall_mem_cons.mp h
    simp only [isBracket, Bool.or_eq_false_iff, decide_eq_false_iff_not] at hc
    rw [List.cons_append, readFrom, if_neg hc.1.1, if_neg hc.2, ih hcs, List.append_assoc]
    rfl

theorem readFrom_attributes {attributes : List (String × String)}
    (hnames : attributes.all (fun a => isName a.1) = true) (written rest : List Char) :
    readFrom r (.tag written) (attributes.flatMap (writeAttribute apostrophe) ++ rest) =
      readFrom r (.tag (written ++ attributes.flatMap (writeAttribute apostrophe))) rest := by
  induction attributes generalizing written with
  | nil => rw [List.flatMap_nil, List.nil_append, List.append_nil]
  | cons a more ih =>
    obtain ⟨name, value⟩ := a
    obtain ⟨hname, hnames⟩ := Bool.and_eq_true_iff.mp hnames
    have hquote : ∀ written more, readFrom r (.tag written) ('"' :: more) =
        readFrom r (.value (written ++ ['"'])) more := by
      intro written more
      rw [readFrom, if_neg (by decide), if_neg (by decide), if_pos rfl]
    have hvalue : ∀ c ∈ escape apostrophe value, isBracket c = false :=
      fun c hc => isBracket_of_mem_escape isEscape_apostrophe hc
    rw [List.flatMap_cons, List.append_assoc, writeAttribute_append,
      readFrom_tag (isBracket_of_mem_key hname), hquote, readFrom_value hvalue, ih hnames]
    simp [writeAttribute]

/-! ## Reading elements -/

/-- A tag after some text: first the text is complete, then the tag. -/
theorem readFrom_bracket {r₁ r₂ : Reading} {text written : List Char} {tag : Piece}
    (htext : r.addText text = some r₁)
    (hinside : ∀ more, readFrom r₁ (.tag []) (written ++ more) = readFrom r₁ (.tag written) more)
    (hread : readTag written = some tag) (htag : r₁.addTag tag = some r₂) (rest : List Char) :
    readFrom r (.text text) ('<' :: (written ++ '>' :: rest)) = readFrom r₂ (.text []) rest := by
  rw [readFrom, if_pos rfl, htext, Option.bind_eq_bind, Option.bind_some, hinside, readFrom,
    if_pos rfl, hread, Option.bind_eq_bind, Option.bind_some, htag]
  rfl

theorem addText_nil (r : Reading) : r.addText [] = some r := by
  obtain ⟨elements, nodes⟩ := r
  show some (Reading.mk elements (nodes ++ [])) = some ⟨elements, nodes⟩
  rw [List.append_nil]

theorem addText_escape (r : Reading) (text : String) :
    r.addText (escape apostrophe text) = some (r.add (Node.ofText text)) := by
  rw [Reading.addText, unescape_escape, Option.map_some, String.ofList_toList]

theorem readFrom_opening {r₁ : Reading} {text : List Char} (htext : r.addText text = some r₁)
    {name : String} (hname : isName name = true) {attributes : List (String × String)}
    (h : WellNamed attributes) (rest : List Char) :
    readFrom r (.text text) (writePiece apostrophe (.opening name attributes) ++ rest) =
      readFrom ⟨⟨name, attributes, r₁.nodes⟩ :: r₁.elements, []⟩ (.text []) rest := by
  have hinside : ∀ more, readFrom r₁ (.tag [])
      (name.toList ++ attributes.flatMap (writeAttribute apostrophe) ++ more) =
      readFrom r₁ (.tag (name.toList ++ attributes.flatMap (writeAttribute apostrophe))) more := by
    intro more
    rw [List.append_assoc, readFrom_tag (isBracket_of_isName hname),
      readFrom_attributes h.names, List.nil_append]
  rw [writePiece, List.cons_append, List.append_assoc, List.singleton_append]
  exact readFrom_bracket htext hinside (readTag_opening hname h) rfl rest

theorem readFrom_single {name : String} (hname : isName name = true)
    {attributes : List (String × String)} (h : WellNamed attributes) (rest : List Char) :
    readFrom r (.text []) (writePiece apostrophe (.single name attributes) ++ rest) =
      readFrom (r.add [.element name attributes []]) (.text []) rest := by
  have hslash : ∀ c ∈ ['/'], isBracket c = false := List.forall_mem_singleton.mpr (by decide)
  have hinside : ∀ more, readFrom r (.tag [])
      (name.toList ++ (attributes.flatMap (writeAttribute apostrophe) ++ ['/']) ++ more) =
      readFrom r (.tag (name.toList ++ (attributes.flatMap (writeAttribute apostrophe) ++ ['/'])))
        more := by
    intro more
    rw [List.append_assoc, List.append_assoc, readFrom_tag (isBracket_of_isName hname),
      readFrom_attributes h.names, readFrom_tag hslash, List.nil_append, List.append_assoc]
  have hwritten : writePiece apostrophe (.single name attributes) ++ rest =
      '<' :: (name.toList ++ (attributes.flatMap (writeAttribute apostrophe) ++ ['/']) ++
        '>' :: rest) := by
    simp [writePiece]
  rw [hwritten]
  exact readFrom_bracket (addText_nil r) hinside (readTag_single hname h) rfl rest

/-- A closing tag completes the innermost element. -/
theorem readFrom_closing {name : String} (hname : isName name = true)
    {attributes : List (String × String)} {before nodes : List Node} {elements : List OpenElement}
    {text : List Char} {more : List Node}
    (htext : (Reading.mk (⟨name, attributes, before⟩ :: elements) nodes).addText text =
      some ⟨⟨name, attributes, before⟩ :: elements, more⟩) (rest : List Char) :
    readFrom ⟨⟨name, attributes, before⟩ :: elements, nodes⟩ (.text text)
        (writePiece apostrophe (.closing name) ++ rest) =
      readFrom ⟨elements, before ++ [.element name attributes more]⟩ (.text []) rest := by
  have hslash : ∀ c ∈ '/' :: name.toList, isBracket c = false :=
    List.forall_mem_cons.mpr ⟨by decide, isBracket_of_isName hname⟩
  have hwritten : writePiece apostrophe (.closing name) ++ rest =
      '<' :: ('/' :: name.toList ++ '>' :: rest) := by
    simp [writePiece]
  have htag : Reading.addTag ⟨⟨name, attributes, before⟩ :: elements, more⟩ (.closing name) =
      some ⟨elements, before ++ [.element name attributes more]⟩ := if_pos rfl
  rw [hwritten]
  exact readFrom_bracket htext (readFrom_tag hslash []) (readTag_closing hname) htag rest

/-- Pieces that are read as nodes between two tags, whatever has been read before and is read
after them. -/
def Reads (markup : Markup) (nodes : List Node) : Prop :=
  ∀ (r : Reading) (rest : List Char),
    readFrom r (.text []) (markup.flatMap (writePiece apostrophe) ++ rest) =
      readFrom (r.add nodes) (.text []) rest

namespace Reads

variable {markup more : Markup} {nodes others : List Node}

theorem nil : Reads [] [] := by
  intro r rest
  rw [Reading.add, List.append_nil]
  rfl

theorem append (h : Reads markup nodes) (hmore : Reads more others) :
    Reads (markup ++ more) (nodes ++ others) := by
  intro r rest
  rw [List.flatMap_append, List.append_assoc, h, hmore, Reading.add, Reading.add, Reading.add,
    List.append_assoc]

theorem single {name : String} (hname : isName name = true)
    {attributes : List (String × String)} (h : WellNamed attributes) :
    Reads [.single name attributes] [.element name attributes []] := by
  intro r rest
  rw [List.flatMap_singleton]
  exact readFrom_single hname h rest

/-- An element around pieces that are read as nodes. -/
theorem element {name : String} (hname : isName name = true)
    {attributes : List (String × String)} (hattributes : WellNamed attributes)
    (h : Reads markup nodes) :
    Reads (Markup.element name attributes markup) [.element name attributes nodes] := by
  intro r rest
  rw [Markup.element, List.flatMap_cons, List.append_assoc,
    readFrom_opening (addText_nil r) hname hattributes, List.flatMap_append, List.append_assoc, h,
    List.flatMap_singleton]
  exact readFrom_closing hname (addText_nil _) rest

/-- An element around data. -/
theorem element_data {name : String} (hname : isName name = true)
    {attributes : List (String × String)} (hattributes : WellNamed attributes) (text : String) :
    Reads (Markup.element name attributes [.data text])
      [.element name attributes (Node.ofText text)] := by
  intro r rest
  have hplain : ∀ c ∈ escape apostrophe text, isBracket c = false :=
    fun c hc => isBracket_of_mem_escape isEscape_apostrophe hc
  have hwritten : (Markup.element name attributes [.data text]).flatMap (writePiece apostrophe) ++
      rest = writePiece apostrophe (.opening name attributes) ++ (escape apostrophe text ++
        (writePiece apostrophe (.closing name) ++ rest)) := by
    simp [Markup.element, writePiece]
  rw [hwritten, readFrom_opening (addText_nil r) hname hattributes, readFrom_text hplain]
  exact readFrom_closing hname (addText_escape _ text) rest

theorem flatMap {α : Type} {f : α → Markup} {g : α → List Node} {items : List α}
    (h : ∀ item ∈ items, Reads (f item) (g item)) :
    Reads (items.flatMap f) (items.flatMap g) := by
  induction items with
  | nil => exact nil
  | cons item rest ih =>
    obtain ⟨hitem, hrest⟩ := List.forall_mem_cons.mp h
    exact append hitem (ih hrest)

theorem readNodes_write (h : Reads markup nodes) :
    readNodes (write apostrophe markup) = some nodes := by
  have hread := h ⟨[], []⟩ []
  rw [List.append_nil, readFrom, addText_nil] at hread
  rw [readNodes, write, String.toList_ofList, hread]
  rfl

end Reads

end Markup

end Sargam.Export
