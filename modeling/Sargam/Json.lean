/-!
# JSON values

The values of the data format in which layouts are exported and settings are given.

* `Json`: a value. A number is an integer, or a `real` kept as it is written.
* `Json.get?`: the value of a field.
* `Json.natUpTo?`, `Json.text?`, `Json.bool?`, `Json.items?`: a value of one wanted kind.
* `Json.choice?`: the name of one choice out of several.
* `Json.optional`: a field that may be missing or null.
-/

namespace Sargam

/-- A JSON value. -/
inductive Json where
  | null
  | bool (value : Bool)
  | number (value : Int)
  | real (literal : String)
  | text (value : String)
  | array (items : List Json)
  | object (fields : List (String × Json))
  deriving Inhabited

namespace Json

/-- A natural number as a value. -/
def nat (n : Nat) : Json := .number n

/-- A value that may be absent; what is absent is null. -/
def ofOption : Option Json → Json
  | none => .null
  | some value => value

/-- The list of the values of some items. -/
def arrayOf {α : Type} (encode : α → Json) (items : List α) : Json := .array (items.map encode)

/-- The value of a field. A field that occurs more than once has its last value. -/
def get? (key : String) : Json → Option Json
  | .object fields => (fields.reverse.find? (fun field => field.1 == key)).map Prod.snd
  | _ => none

/-- A natural number that is at most `limit`. -/
def natUpTo? (limit : Nat) : Json → Option Nat
  | .number (.ofNat n) => if n ≤ limit then some n else none
  | _ => none

/-- A text. -/
def text? : Json → Option String
  | .text value => some value
  | _ => none

/-- A truth value. -/
def bool? : Json → Option Bool
  | .bool value => some value
  | _ => none

/-- The name of a choice. A choice is written as its name, or as an object whose one field has
that name and is null, because a choice carries nothing besides its name. -/
def choice? : Json → Option String
  | .text name => some name
  | .object [(name, .null)] => some name
  | _ => none

/-- The items of a list, each read by `decode`; one that cannot be read spoils the list. -/
def items? {α : Type} (decode : Json → Option α) : Json → Option (List α)
  | .array items => items.mapM decode
  | _ => none

/-- A field that has to be there. -/
def required {α : Type} (decode : Json → Option α) (key : String) (value : Json) : Option α :=
  value.get? key >>= decode

/-- A field that may be missing or null, which both read as `none`. -/
def optional {α : Type} (decode : Json → Option α) (key : String) (value : Json) :
    Option (Option α) :=
  match value.get? key with
  | none => some none
  | some .null => some none
  | some found => (decode found).map some

end Json

end Sargam
