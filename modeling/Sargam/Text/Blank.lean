/-!
# Blanks and words

A blank is a character with the Unicode property White_Space. Typed music is read as its
words: the longest runs of characters that are no blanks.

* `isBlank`: whether a character is a blank.
* `words`: the words of a text, in order.
* `trim`: a text without the blanks at its ends.
* `wordChars_append_cons`: a blank separates words.
-/

namespace Sargam.Text

/-- The 25 characters with the property White_Space. -/
def blanks : List Char :=
  ['\x09', '\x0a', '\x0b', '\x0c', '\x0d', '\x20', '\x85', '\xa0', '\u1680', '\u2000',
    '\u2001', '\u2002', '\u2003', '\u2004', '\u2005', '\u2006', '\u2007', '\u2008',
    '\u2009', '\u200a', '\u2028', '\u2029', '\u202f', '\u205f', '\u3000']

/-- Whether a character is a blank. -/
def isBlank (c : Char) : Bool := blanks.contains c

/-- The runs of non-blank characters of a character list. -/
def wordChars (cs : List Char) : List (List Char) :=
  (cs.splitOnP isBlank).filter (fun word => !word.isEmpty)

/-- The words of a text. -/
def words (text : String) : List String := (wordChars text.toList).map String.ofList

/-- A character list without the blanks at its ends. -/
def trimChars (cs : List Char) : List Char :=
  ((cs.dropWhile isBlank).reverse.dropWhile isBlank).reverse

/-- A text without the blanks at its ends. -/
def trim (text : String) : String := String.ofList (trimChars text.toList)

/-! ## Words of joined texts -/

theorem wordChars_nil : wordChars [] = [] := rfl

/-- A blank separates the words before it from the words after it. -/
theorem wordChars_append_cons (before after : List Char) {c : Char} (h : isBlank c = true) :
    wordChars (before ++ c :: after) = wordChars before ++ wordChars after := by
  simp [wordChars, List.splitOnP_append_cons before after h]

/-- A character list without blanks is one word, unless it is empty. -/
theorem wordChars_eq_singleton {cs : List Char} (hne : cs ≠ [])
    (h : ∀ c ∈ cs, isBlank c = false) : wordChars cs = [cs] := by
  simp [wordChars, List.splitOnP_eq_singleton h, hne]

end Sargam.Text
