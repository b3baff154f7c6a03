import Sargam.Json

/-!
# Reading JSON

A text is read from its front: each reader gives the value it found and the characters that
follow it. Blanks may stand before every part of a value and after the whole.

* `Json.readQuoted`: the rest of a quoted text.
* `Json.readNumber`: an integer, or a real kept as it is written.
* `Json.readValue`: a value.
* `Json.parse`: the value that a whole text is written for.
-/

namespace Sargam.Json

/-- The blanks between the parts of a value. -/
def isSpacing (c : Char) : Bool := c = ' ' || c = '\n' || c = '\r' || c = '\t'

/-- What follows the blanks at the front. -/
def skipSpacing (cs : List Char) : List Char := cs.dropWhile isSpacing

/-! ## Quoted texts -/

/-- The value of a hexadecimal digit in either case. -/
def hexValue? (c : Char) : Option Nat :=
  if c.isDigit then some (c.toNat - 48)
  else if 'a' ≤ c ∧ c ≤ 'f' then some (c.toNat - 87)
  else if 'A' ≤ c ∧ c ≤ 'F' then some (c.toNat - 55)
  else none

/-- The number that four hexadecimal digits write. -/
def readHex : List Char → Option (Nat × List Char)
  | a :: b :: c :: d :: rest => do
    let a ← hexValue? a
    let b ← hexValue? b
    let c ← hexValue? c
    let d ← hexValue? d
    return (4096 * a + 256 * b + 16 * c + d, rest)
  | _ => none

/-- The character that a numbered escape stands for. A character above U+FFFF is written as
two numbers, and one of the two alone stands for none. -/
def readNumbered (cs : List Char) : Option (Char × List Char) := do
  let (high, rest) ← readHex cs
  if 0xD800 ≤ high ∧ high < 0xDC00 then
    match rest with
    | '\\' :: 'u' :: rest =>
      let (low, rest) ← readHex rest
      if 0xDC00 ≤ low ∧ low < 0xE000 then
        return (Char.ofNat (0x10000 + 0x400 * (high - 0xD800) + (low - 0xDC00)), rest)
      else none
    | _ => none
  else if 0xDC00 ≤ high ∧ high < 0xE000 then none
  else return (Char.ofNat high, rest)

/-- The character that stands after a backslash. -/
def readEscape : List Char → Option (Char × List Char)
  | '"' :: rest => some ('"', rest)
  | '\\' :: rest => some ('\\', rest)
  | '/' :: rest => some ('/', rest)
  | 'b' :: rest => some ('\x08', rest)
  | 'f' :: rest => some ('\x0c', rest)
  | 'n' :: rest => some ('\n', rest)
  | 'r' :: rest => some ('\r', rest)
  | 't' :: rest => some ('\t', rest)
  | 'u' :: rest => readNumbered rest
  | _ => none

/-- The characters up to the closing quote, at most `fuel` of them. -/
def readQuoted : Nat → List Char → Option (List Char × List Char)
  | 0, _ => none
  | _, [] => none
  | fuel + 1, c :: rest =>
    if c = '"' then some ([], rest)
    else if c = '\\' then do
      let (d, rest) ← readEscape rest
      let (chars, rest) ← readQuoted fuel rest
      return (d :: chars, rest)
    else if c.toNat < 0x20 then none
    else do
      let (chars, rest) ← readQuoted fuel rest
      return (c :: chars, rest)

/-! ## Numbers -/

/-- A run of at least one digit. -/
def readDigits (cs : List Char) : Option (List Char × List Char) :=
  match cs.takeWhile Char.isDigit with
  | [] => none
  | digits => some (digits, cs.dropWhile Char.isDigit)

/-- The decimal places after a point, if there is one. -/
def readPlaces : List Char → Option (List Char × List Char)
  | '.' :: rest => (readDigits rest).map fun (digits, rest) => ('.' :: digits, rest)
  | rest => some ([], rest)

/-- The exponent, if there is one. -/
def readExponent : List Char → Option (List Char × List Char)
  | c :: rest =>
    if c = 'e' ∨ c = 'E' then
      match rest with
      | '+' :: rest => (readDigits rest).map fun (digits, rest) => (c :: '+' :: digits, rest)
      | '-' :: rest => (readDigits rest).map fun (digits, rest) => (c :: '-' :: digits, rest)
      | rest => (readDigits rest).map fun (digits, rest) => (c :: digits, rest)
    else some ([], c :: rest)
  | [] => some ([], [])

/-- A number without its sign. No digit may follow a leading zero. -/
def readMagnitude (cs : List Char) : Option ((List Char × List Char) × List Char) := do
  let (digits, rest) ← readDigits cs
  if digits.head? = some '0' ∧ digits ≠ ['0'] then none
  else
    let (places, rest) ← readPlaces rest
    let (exponent, rest) ← readExponent rest
    return ((digits, places ++ exponent), rest)

/-- A number: an integer where there are neither decimal places nor an exponent. -/
def readNumber (cs : List Char) : Option (Json × List Char) :=
  match cs with
  | '-' :: cs => do
    let ((digits, tail), rest) ← readMagnitude cs
    match tail with
    | [] => return (.number (-(Nat.ofDigitChars 10 digits 0 : Int)), rest)
    | tail => return (.real (String.ofList ('-' :: (digits ++ tail))), rest)
  | cs => do
    let ((digits, tail), rest) ← readMagnitude cs
    match tail with
    | [] => return (.number (Nat.ofDigitChars 10 digits 0), rest)
    | tail => return (.real (String.ofList (digits ++ tail)), rest)

/-! ## Values -/

/-- A field's name, its colon and the characters of its value. -/
def readName (cs : List Char) : Option (String × List Char) :=
  match skipSpacing cs with
  | '"' :: rest => do
    let (name, rest) ← readQuoted rest.length rest
    match skipSpacing rest with
    | ':' :: rest => return (String.ofList name, rest)
    | _ => none
  | _ => none

mutual

/-- A value. Each step into a part of it, or on to its next part, takes one unit of `fuel`. -/
def readValue : Nat → List Char → Option (Json × List Char)
  | 0, _ => none
  | fuel + 1, cs =>
    match skipSpacing cs with
    | 'n' :: 'u' :: 'l' :: 'l' :: rest => some (.null, rest)
    | 't' :: 'r' :: 'u' :: 'e' :: rest => some (.bool true, rest)
    | 'f' :: 'a' :: 'l' :: 's' :: 'e' :: rest => some (.bool false, rest)
    | '"' :: rest => do
      let (value, rest) ← readQuoted rest.length rest
      return (.text (String.ofList value), rest)
    | '[' :: rest =>
      match skipSpacing rest with
      | ']' :: rest => some (.array [], rest)
      | rest => do
        let (item, rest) ← readValue fuel rest
        let (items, rest) ← readItems fuel rest
        return (.array (item :: items), rest)
    | '\x7b' :: rest =>
      match skipSpacing rest with
      | '\x7d' :: rest => some (.object [], rest)
      | rest => do
        let (name, rest) ← readName rest
        let (value, rest) ← readValue fuel rest
        let (fields, rest) ← readFields fuel rest
        return (.object ((name, value) :: fields), rest)
    | rest => readNumber rest

/-- The items of a list after its first one, up to the closing bracket. -/
def readItems : Nat → List Char → Option (List Json × List Char)
  | 0, _ => none
  | fuel + 1, cs =>
    match skipSpacing cs with
    | ']' :: rest => some ([], rest)
    | ',' :: rest => do
      let (item, rest) ← readValue fuel rest
      let (items, rest) ← readItems fuel rest
      return (item :: items, rest)
    | _ => none

/-- The fields of an object after its first one, up to the closing bracket. -/
def readFields : Nat → List Char → Option (List (String × Json) × List Char)
  | 0, _ => none
  | fuel + 1, cs =>
    match skipSpacing cs with
    | '\x7d' :: rest => some ([], rest)
    | ',' :: rest => do
      let (name, rest) ← readName rest
      let (value, rest) ← readValue fuel rest
      let (fields, rest) ← readFields fuel rest
      return ((name, value) :: fields, rest)
    | _ => none

end

/-- The value that a text is written for, or `none` if it is no JSON text. A value has no more
parts than its text has characters. -/
def parse (text : String) : Option Json :=
  let cs := text.toList
  match readValue (cs.length + 1) cs with
  | some (value, rest) => if (skipSpacing rest).isEmpty then some value else none
  | none => none

end Sargam.Json
