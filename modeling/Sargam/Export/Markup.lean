/-!
# Markup

A marked-up text is a list of pieces: tags, fixed text, and data. Data and the values of
attributes are escaped when the pieces are written, so nothing that comes from the music can
be taken for a tag.

* `Piece`, `Markup`: a piece, and a text as the list of its pieces.
* `Markup.element`: an element around a text.
* `Markup.write`: the text of the pieces.
-/

namespace Sargam.Export

/-- A part of a marked-up text. Attributes are names with their values. -/
inductive Piece where
  /-- Fixed text, written as it is; it holds none of the characters that are escaped in data,
  the apostrophe apart. -/
  | fixed (text : String)
  /-- Text from outside, written escaped. -/
  | data (text : String)
  | opening (name : String) (attributes : List (String × String))
  | closing (name : String)
  /-- An element without content. -/
  | single (name : String) (attributes : List (String × String))
  deriving DecidableEq, Repr

/-- A marked-up text. -/
abbrev Markup := List Piece

namespace Markup

/-! ## Escaping -/

/-- A character of data, where `apostrophe` stands for the apostrophe. -/
def escapeChar (apostrophe : String) (c : Char) : List Char :=
  if c = '&' then "&amp;".toList
  else if c = '<' then "&lt;".toList
  else if c = '>' then "&gt;".toList
  else if c = '"' then "&quot;".toList
  else if c = '\x27' then apostrophe.toList
  else [c]

/-- Data in which no character can be taken for markup. -/
def escape (apostrophe : String) (text : String) : List Char :=
  text.toList.flatMap (escapeChar apostrophe)

/-! ## Writing -/

/-- An attribute of a tag. -/
def writeAttribute (apostrophe : String) : String × String → List Char
  | (name, value) => ' ' :: (name.toList ++ '=' :: '"' :: (escape apostrophe value ++ ['"']))

/-- The text of a piece. -/
def writePiece (apostrophe : String) : Piece → List Char
  | .fixed text => text.toList
  | .data text => escape apostrophe text
  | .opening name attributes =>
    '<' :: (name.toList ++ attributes.flatMap (writeAttribute apostrophe) ++ ['>'])
  | .closing name => '<' :: '/' :: (name.toList ++ ['>'])
  | .single name attributes =>
    '<' :: (name.toList ++ attributes.flatMap (writeAttribute apostrophe) ++ ['/', '>'])

/-- The text of the pieces. -/
def write (apostrophe : String) (markup : Markup) : String :=
  String.ofList (markup.flatMap (writePiece apostrophe))

/-- An element around a text. -/
def element (name : String) (attributes : List (String × String)) (body : Markup) : Markup :=
  .opening name attributes :: (body ++ [.closing name])

end Markup

end Sargam.Export
