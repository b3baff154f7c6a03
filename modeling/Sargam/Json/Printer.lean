import Sargam.Json

/-!
# Writing JSON

A value is written with the line breaks of a style; all else about its text is fixed. In a
quoted text only the quote, the backslash and the characters below U+0020 are escaped.

* `Json.quoted`: a text in quotes.
* `Json.Style`: what stands between the parts of a list or an object.
* `Json.indented`, `Json.oneLine`: two spaces for each level of nesting, or no blanks at all.
* `Json.write`: the text of a value.
-/

namespace Sargam.Json

/-! ## Quoted texts -/

/-- The four lower-case hexadecimal digits of a code point below U+10000. -/
def hexDigits (n : Nat) : List Char :=
  [n / 4096 % 16, n / 256 % 16, n / 16 % 16, n % 16].map Nat.digitChar

/-- A character as it stands in a quoted text. -/
def escape (c : Char) : List Char :=
  if c = '"' then ['\\', '"']
  else if c = '\\' then ['\\', '\\']
  else if c = '\x08' then ['\\', 'b']
  else if c = '\x0c' then ['\\', 'f']
  else if c = '\n' then ['\\', 'n']
  else if c = '\r' then ['\\', 'r']
  else if c = '\t' then ['\\', 't']
  else if c.toNat < 0x20 then '\\' :: 'u' :: hexDigits c.toNat
  else [c]

/-- A text in quotes. -/
def quoted (text : String) : List Char := '"' :: (text.toList.flatMap escape ++ ['"'])

/-! ## Values -/

/-- How the parts of a list or an object are set apart. -/
structure Style where
  /-- What stands before a part, or before the closing bracket, at a depth of nesting. -/
  lineBreak : Nat → List Char
  /-- What stands between a field's name and its value. -/
  colon : List Char

/-- Each part on a line of its own, two spaces deeper than what holds it. -/
def indented : Style := ⟨fun depth => '\n' :: List.replicate (2 * depth) ' ', [':', ' ']⟩

/-- All on one line, without blanks. -/
def oneLine : Style := ⟨fun _ => [], [':']⟩

mutual

/-- The text of a value that stands at a depth of nesting. -/
def writeAt (style : Style) (depth : Nat) : Json → List Char
  | .null => "null".toList
  | .bool true => "true".toList
  | .bool false => "false".toList
  | .number value => value.repr.toList
  | .real literal => literal.toList
  | .text value => quoted value
  | .array [] => ['[', ']']
  | .array (item :: items) =>
    '[' :: (style.lineBreak (depth + 1) ++ writeAt style (depth + 1) item
      ++ writeItems style (depth + 1) items ++ style.lineBreak depth ++ [']'])
  | .object [] => ['\x7b', '\x7d']
  | .object ((key, value) :: fields) =>
    '\x7b' :: (style.lineBreak (depth + 1) ++ quoted key ++ style.colon
      ++ writeAt style (depth + 1) value ++ writeFields style (depth + 1) fields
      ++ style.lineBreak depth ++ ['\x7d'])

/-- The items of a list after its first one. -/
def writeItems (style : Style) (depth : Nat) : List Json → List Char
  | [] => []
  | item :: items =>
    ',' :: (style.lineBreak depth ++ writeAt style depth item ++ writeItems style depth items)

/-- The fields of an object after its first one. -/
def writeFields (style : Style) (depth : Nat) : List (String × Json) → List Char
  | [] => []
  | (key, value) :: fields =>
    ',' :: (style.lineBreak depth ++ quoted key ++ style.colon ++ writeAt style depth value
      ++ writeFields style depth fields)

end

/-- The text of a value. -/
def write (style : Style) (value : Json) : String := String.ofList (writeAt style 0 value)

end Sargam.Json
