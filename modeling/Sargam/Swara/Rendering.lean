import Sargam.Swara
import Sargam.Text.Visible

/-!
# Swaras as music text

A swara is drawn as the name of its base note with combining marks: a line below for komal, a
stroke or a cap above the first letter for tivra, and one dot above or below the last letter
for each octave. The marks add no visible character.

* `RenderOptions`: which mark stands for tivra, and which letters carry the line of komal.
* `Swara.render`: a swara as music text.
* `renderSequence`: several swaras with a separator between them.
-/

namespace Sargam

/-! ## Marks -/

/-- The line below the letters of a flat note. -/
def komalMark : Char := '\u0332'

/-- The dot of one octave up. -/
def upperDot : Char := '\u0307'

/-- The dot of one octave down. -/
def lowerDot : Char := '\u0323'

/-- What marks a sharp note. -/
inductive TivraGlyph where
  | verticalLine | circumflex
  deriving DecidableEq, Repr

/-- The mark of a sharp note, over its first letter. -/
def TivraGlyph.mark : TivraGlyph → Char
  | .verticalLine => '\u030d'
  | .circumflex => '\u0302'

/-- Which letters of a flat note are underlined. -/
inductive KomalStyle where
  | finalLetter | everyLetter
  deriving DecidableEq, Repr

/-- How swaras are drawn. -/
structure RenderOptions where
  tivraGlyph : TivraGlyph := .verticalLine
  komalStyle : KomalStyle := .finalLetter
  deriving DecidableEq, Repr

/-! ## Drawing -/

namespace Swara

/-- The letters of a name with the mark of a modifier. -/
def markedName (options : RenderOptions) (modifier : Modifier) (name : List Char) : List Char :=
  match modifier, name with
  | .shuddha, name => name
  | .tivra, [] => []
  | .tivra, first :: rest => first :: options.tivraGlyph.mark :: rest
  | .komal, name =>
    match options.komalStyle with
    | .finalLetter => name ++ [komalMark]
    | .everyLetter => name.flatMap (fun letter => [letter, komalMark])

/-- The dots of an octave. -/
def octaveDots (octave : Int) : List Char :=
  List.replicate octave.natAbs (if 0 < octave then upperDot else lowerDot)

/-- The characters of a swara as music text. -/
def renderChars (options : RenderOptions) (s : Swara) : List Char :=
  markedName options s.modifier s.base.name.toList ++ octaveDots s.octave

/-- A swara as music text. -/
def render (options : RenderOptions) (s : Swara) : String := String.ofList (renderChars options s)

end Swara

/-- Swaras as music text, with a separator between them. -/
def renderSequence (options : RenderOptions) (separator : String) (swaras : List Swara) :
    String :=
  separator.intercalate (swaras.map (Swara.render options))

end Sargam
