/-!
# Lower case

Names are compared in lower case. The names that there are to compare with are ASCII, so only
the characters matter whose lower-case form is an ASCII letter: the capitals `A` to `Z` and the
Kelvin sign. Any other character stays as it is and equals no letter of a name.

* `lower`: a text in lower case, as far as that is ASCII.
-/

namespace Sargam.Text

/-- The ASCII lower-case form of a character, if it has one, or the character itself. -/
def lowerChar (c : Char) : Char := if c = '\u212a' then 'k' else c.toLower

/-- A text with every character in its ASCII lower-case form, if it has one. -/
def lower (text : String) : String := String.ofList (text.toList.map lowerChar)

end Sargam.Text
