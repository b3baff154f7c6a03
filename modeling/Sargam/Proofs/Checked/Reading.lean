import Sargam.Proofs.Checked.Operations
import Sargam.Proofs.TokenGrammar
import Sargam.Report

/-!
# Reading and drawing with checked operations

A token is cut after its name and after the sign of its octave, by numbers of bytes, and the
octave is negated as a signed word. The letters of a name are drawn up to the last one. All of
this is defined for every text and every swara: the cuts come right after characters that have
been looked at, a magnitude is not the least signed word, and no name is empty.

* `readOctave_eq_some`, `readSuffix_eq_some`, `parseToken_eq_some`: tokens.
* `readAll_eq_some`, `parseSequence_eq_some`, `parseCell_eq_some`: words and typed text.
* `renderSwara_eq_some`, `renderCell_eq_some`: music text.
* `report_eq_some`: reports.
-/

namespace Sargam.Checked

/-! ## Tokens -/

/-- The number of bytes up to the first character that is not alphabetic, where `bytes` of them
have been passed already. -/
def nameEnd (bytes : Nat) : List Char → Nat
  | [] => bytes
  | c :: cs => if Text.isAlphabetic c then nameEnd (bytes + c.utf8Size) cs else bytes

/-- The octave of a suffix, which is cut after its sign. -/
def readOctave (suffix : List Char) : Option (Except Token.Malformation Int) := do
  let (sign, digits) ← splitAt 1 suffix
  if digits.isEmpty || !digits.all Char.isDigit then
    return .error (.octaveSuffix (String.ofList suffix))
  else
    let magnitude : Nat := min (Nat.ofDigitChars 10 digits 0) Token.octaveLimit
    if sign = ['-'] then return .ok (← negate magnitude) else return .ok magnitude

def readSuffix (modifier : Modifier) :
    List Char → Option (Except Token.Malformation (Modifier × Int))
  | [] => some (.ok (modifier, 0))
  | '_' :: 'k' :: rest =>
    if modifier = .shuddha then readSuffix .komal rest else some (.error .secondModifier)
  | '_' :: 't' :: rest =>
    if modifier = .shuddha then readSuffix .tivra rest else some (.error .secondModifier)
  | c :: rest => do
    if c = '+' ∨ c = '-' then
      return (← readOctave (c :: rest)).map fun octave => (modifier, octave)
    else return .error (.unexpected (String.ofList (c :: rest)))

/-- The parts of a token, which is cut after its name. -/
def splitToken (cs : List Char) : Option (Except Token.Malformation Token.Parts) := do
  let (name, rest) ← splitAt (nameEnd 0 cs) cs
  return (← readSuffix .shuddha rest).map fun (modifier, octave) =>
    ⟨String.ofList name, modifier, octave⟩

def parseToken (token : String) : Option (Except Token.Fault Swara) := do
  match ← splitToken token.toList with
  | .error malformation => return .error (.malformed malformation)
  | .ok parts => return parts.swara

theorem nameEnd_eq (bytes : Nat) (cs : List Char) :
    nameEnd bytes cs = bytes + byteCount (cs.takeWhile Text.isAlphabetic) := by
  induction cs generalizing bytes with
  | nil => rfl
  | cons c cs ih =>
    rw [nameEnd, List.takeWhile_cons]
    split
    · rw [ih, Nat.add_assoc]
      rfl
    · rfl

/-- The cut after the name comes between two characters, of whatever sizes they are. -/
theorem splitAt_nameEnd (cs : List Char) :
    splitAt (nameEnd 0 cs) cs =
      some (cs.takeWhile Text.isAlphabetic, cs.dropWhile Text.isAlphabetic) := by
  have h := splitAt_byteCount (cs.takeWhile Text.isAlphabetic) (cs.dropWhile Text.isAlphabetic)
  rwa [List.takeWhile_append_dropWhile, ← Nat.zero_add (byteCount _), ← nameEnd_eq] at h

theorem readOctave_eq_some {c : Char} (h : c = '+' ∨ c = '-') (digits : List Char) :
    readOctave (c :: digits) = some (Token.readOctave c digits) := by
  -- A sign is a single byte, so the cut after one byte is the cut after it.
  have hsize : byteCount [c] = 1 := by rcases h with rfl | rfl <;> rfl
  have hsplit : splitAt 1 (c :: digits) = some ([c], digits) := by
    rw [← hsize]
    exact splitAt_byteCount [c] digits
  simp only [readOctave, Token.readOctave, hsplit, negate_natCast, Option.bind_eq_bind,
    Option.bind_some, Option.pure_def, List.cons.injEq, and_true]
  split
  · rfl
  · split <;> rfl

theorem readSuffix_eq_some (modifier : Modifier) (cs : List Char) :
    readSuffix modifier cs = some (Token.readSuffix modifier cs) := by
  fun_induction Token.readSuffix modifier cs with
  | case1 modifier => rfl
  | case2 rest ih => simpa [readSuffix] using ih
  | case3 modifier rest h => simp [readSuffix, h]
  | case4 rest ih => simpa [readSuffix] using ih
  | case5 modifier rest h => simp [readSuffix, h]
  | case6 modifier c rest hkomal htivra h =>
    simp [readSuffix, h, readOctave_eq_some h]
  | case7 modifier c rest hkomal htivra h =>
    simp [readSuffix, h]

theorem parseToken_eq_some (token : String) : parseToken token = some (Token.parse token) := by
  have hsplit : splitToken token.toList = some (Token.split token) := by
    simp only [splitToken, splitAt_nameEnd, readSuffix_eq_some, Option.bind_eq_bind,
      Option.bind_some]
    rfl
  rw [parseToken, Token.parse, hsplit]
  cases Token.split token <;> rfl

/-! ## Words -/

variable {α : Type}

/-- What a reader makes of words, the first of which has the given place: the words that it
refuses, and what it reads of the others. -/
def readFrom (read : String → Option (Except Token.Fault α)) (position : Nat) :
    List String → Option (List Rejection × List α)
  | [] => some ([], [])
  | token :: rest => do
    let outcome ← read token
    let (refused, accepted) ← readFrom read (position + 1) rest
    match outcome with
    | .error fault => return (⟨position, token, fault⟩ :: refused, accepted)
    | .ok a => return (refused, a :: accepted)

def readAll (read : String → Option (Except Token.Fault α)) (tokens : List String) :
    Option (Except (List Rejection) (List α)) := do
  match ← readFrom read 1 tokens with
  | ([], accepted) => return .ok accepted
  | (refused, _) => return .error refused

def parseSequence (text : String) : Option (Except (List Rejection) (List Swara)) :=
  readAll parseToken (Text.words text)

def parseCell (text : String) : Option (Except (List Rejection) CellContent) := do
  let typed := Text.trim text
  if typed = CellContent.sustainSign then return .ok .sustain
  else return (← parseSequence typed).map CellContent.ofSwaras

def wordContent (word : String) : Option (Except Token.Fault CellContent) := do
  if word = CellContent.sustainSign then return .ok .sustain
  else return (← parseToken word).map fun swara => .swaras [swara]

variable {checked : String → Option (Except Token.Fault α)} {read : String → Except Token.Fault α}

theorem readFrom_eq_some (h : ∀ token, checked token = some (read token)) (position : Nat)
    (tokens : List String) :
    readFrom checked position tokens =
      some (rejections read position tokens, accepted read tokens) := by
  induction tokens generalizing position with
  | nil => rfl
  | cons token rest ih =>
    rw [readFrom, h, ih]
    cases hread : read token with
    | error fault => simp [rejections, accepted, hread, Except.toOption]
    | ok a => simp [rejections, accepted, hread, Except.toOption]

theorem readAll_eq_some (h : ∀ token, checked token = some (read token)) (tokens : List String) :
    readAll checked tokens = some (Sargam.readAll read tokens) := by
  rw [readAll, readFrom_eq_some h, Sargam.readAll]
  cases rejections read 1 tokens <;> rfl

theorem parseSequence_eq_some (text : String) :
    parseSequence text = some (Sargam.parseSequence text) :=
  readAll_eq_some parseToken_eq_some _

theorem parseCell_eq_some (text : String) : parseCell text = some (CellContent.parse text) := by
  simp only [parseCell, CellContent.parse, parseSequence_eq_some]
  split <;> rfl

theorem wordContent_eq_some (word : String) :
    wordContent word = some (CellContent.ofWord word) := by
  simp only [wordContent, CellContent.ofWord, parseToken_eq_some]
  split <;> rfl

/-! ## Music text -/

/-- The marks of a letter, where `last` letters come before the last one of the name. -/
def letterMarks (options : RenderOptions) (modifier : Modifier) (last index : Nat) : List Char :=
  match modifier with
  | .shuddha => []
  | .tivra => if index = 0 then [options.tivraGlyph.mark] else []
  | .komal => if index = last ∨ options.komalStyle = .everyLetter then [komalMark] else []

/-- The letters of a name from an index on, each with its marks. -/
def markedLetters (options : RenderOptions) (modifier : Modifier) (last index : Nat) :
    List Char → List Char
  | [] => []
  | letter :: rest =>
    letter :: (letterMarks options modifier last index
      ++ markedLetters options modifier last (index + 1) rest)

def renderSwara (options : RenderOptions) (s : Swara) : Option String := do
  let name := s.base.name.toList
  -- There would be no last letter of an empty name.
  let last ← sub name.length 1
  return String.ofList
    (markedLetters options s.modifier last 0 name ++ Swara.octaveDots s.octave)

def renderSequence (options : RenderOptions) (separator : String) (swaras : List Swara) :
    Option String := do
  return separator.intercalate (← swaras.mapM (renderSwara options))

def renderCell (options : RenderOptions) : CellContent → Option String
  | .empty => some ""
  | .sustain => some CellContent.sustainSign
  | .swaras group => renderSequence options " " group

theorem markedLetters_eq (options : RenderOptions) (base : BaseNote) (modifier : Modifier) :
    markedLetters options modifier (base.name.toList.length - 1) 0 base.name.toList =
      Swara.markedName options modifier base.name.toList := by
  obtain ⟨glyph, style⟩ := options
  cases base <;> cases modifier <;> cases style <;> rfl

theorem renderSwara_eq_some (options : RenderOptions) (s : Swara) :
    renderSwara options s = some (s.render options) := by
  have hname : 1 ≤ s.base.name.toList.length := by
    cases s.base <;> decide
  simp only [renderSwara, sub_eq_some hname, Option.bind_eq_bind, Option.bind_some,
    markedLetters_eq]
  rfl

theorem renderSequence_eq_some (options : RenderOptions) (separator : String)
    (swaras : List Swara) :
    renderSequence options separator swaras =
      some (Sargam.renderSequence options separator swaras) := by
  rw [renderSequence, mapM_eq_some fun s _ => renderSwara_eq_some options s]
  rfl

theorem renderCell_eq_some (options : RenderOptions) (content : CellContent) :
    renderCell options content = some (content.render options) := by
  cases content with
  | empty => rfl
  | sustain => rfl
  | swaras group => exact renderSequence_eq_some options " " group

/-! ## Reports -/

def swaraView (options : RenderOptions) (s : Swara) : Option SwaraView := do
  let rendered ← renderSwara options s
  return ⟨s.base, s.modifier, s.octave, s.base.svarName, s.base.degree, s.token, rendered⟩

def report (options : RenderOptions) (separator text : String) : Option Report := do
  match ← parseSequence text with
  | .ok swaras =>
    let rendered ← renderSequence options separator swaras
    let views ← swaras.mapM (swaraView options)
    return ⟨true, some rendered, views, []⟩
  | .error refused => return ⟨false, none, [], refused⟩

theorem swaraView_eq_some (options : RenderOptions) (s : Swara) :
    swaraView options s = some (SwaraView.ofSwara options s) := by
  rw [swaraView, renderSwara_eq_some]
  rfl

theorem report_eq_some (options : RenderOptions) (separator text : String) :
    report options separator text = some (Report.ofText options separator text) := by
  rw [report, Report.ofText, parseSequence_eq_some]
  cases Sargam.parseSequence text with
  | error refused => rfl
  | ok swaras =>
    simp only [Option.bind_eq_bind, Option.bind_some, renderSequence_eq_some,
      mapM_eq_some fun s _ => swaraView_eq_some options s]
    rfl

end Sargam.Checked
