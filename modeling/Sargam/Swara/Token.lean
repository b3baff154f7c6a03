import Sargam.Swara
import Sargam.Text.Alphabetic

/-!
# Tokens

A swara is typed as a token: the name of its base note, the suffix of its modifier, and its
octave with a sign unless it is the middle one, as in `RE_k+1`. Reading is more liberal than
writing: a zero octave may be spelled out and leading zeros are allowed.

* `Token.Parts`, `Token.split`: the parts of a token, before any of them is checked.
* `Token.parse`: the swara that a token stands for.
* `Swara.token`: the token of a swara.
-/

namespace Sargam

namespace Token

/-! ## Parts -/

/-- What a token says, lawful or not. -/
structure Parts where
  name : String
  modifier : Modifier
  octave : Int
  deriving DecidableEq, Repr

/-- Why a text has no parts. -/
inductive Malformation where
  | secondModifier
  | octaveSuffix (suffix : String)
  | unexpected (rest : String)
  deriving DecidableEq, Repr

/-- The wording of a malformation. -/
def Malformation.reason : Malformation → String
  | .secondModifier => "more than one modifier"
  | .octaveSuffix suffix => s!"octave suffix '{suffix}' must be a sign followed by digits"
  | .unexpected rest => s!"unexpected '{rest}'"

/-- The greatest octave number that is told apart; greater ones count as this one. -/
def octaveLimit : Nat := 2147483647

/-- The octave that a sign and digits write. The digits must end the token. -/
def readOctave (sign : Char) (digits : List Char) : Except Malformation Int :=
  if digits.isEmpty || !digits.all Char.isDigit then
    .error (.octaveSuffix (String.ofList (sign :: digits)))
  else
    let magnitude : Nat := min (Nat.ofDigitChars 10 digits 0) octaveLimit
    .ok (if sign = '-' then -(magnitude : Int) else magnitude)

/-- The modifier and octave that follow a name. `modifier` is the one read so far. -/
def readSuffix (modifier : Modifier) : List Char → Except Malformation (Modifier × Int)
  | [] => .ok (modifier, 0)
  | '_' :: 'k' :: rest =>
    if modifier = .shuddha then readSuffix .komal rest else .error .secondModifier
  | '_' :: 't' :: rest =>
    if modifier = .shuddha then readSuffix .tivra rest else .error .secondModifier
  | c :: rest =>
    if c = '+' ∨ c = '-' then (readOctave c rest).map (fun octave => (modifier, octave))
    else .error (.unexpected (String.ofList (c :: rest)))

/-- The parts of a token. Its name is the longest run of alphabetic characters at its front,
in any script; whether a note has that name is not asked. -/
def splitChars (cs : List Char) : Except Malformation Parts :=
  (readSuffix .shuddha (cs.dropWhile Text.isAlphabetic)).map fun (modifier, octave) =>
    ⟨String.ofList (cs.takeWhile Text.isAlphabetic), modifier, octave⟩

/-- The parts of a token. -/
def split (token : String) : Except Malformation Parts := splitChars token.toList

/-! ## Reading -/

/-- Why a token stands for no swara. -/
inductive Fault where
  | malformed (malformation : Malformation)
  | unknownNote (name : String)
  | unlawful (fault : Swara.Fault)
  deriving DecidableEq, Repr

/-- The wording of a fault. -/
def Fault.message : Fault → String
  | .malformed malformation => s!"malformed token: {malformation.reason}"
  | .unknownNote name => s!"unknown note '{name}'"
  | .unlawful fault => fault.message

/-- The swara with the parts of a token. -/
def Parts.swara (parts : Parts) : Except Fault Swara :=
  match BaseNote.ofName? parts.name with
  | none => .error (.unknownNote parts.name)
  | some base => (Swara.make base parts.modifier parts.octave).mapError .unlawful

/-- The swara that a token stands for. A malformed token is reported as such, whatever its
name is. -/
def parse (token : String) : Except Fault Swara :=
  match split token with
  | .error malformation => .error (.malformed malformation)
  | .ok parts => parts.swara

end Token

/-! ## Writing -/

/-- An octave with its sign; the middle octave is not written. -/
def Swara.octaveSuffix (octave : Int) : String :=
  if octave = 0 then "" else if 0 < octave then "+" ++ octave.repr else octave.repr

/-- The token of a swara. -/
def Swara.token (s : Swara) : String :=
  s.base.name ++ s.modifier.suffix ++ octaveSuffix s.octave

end Sargam
