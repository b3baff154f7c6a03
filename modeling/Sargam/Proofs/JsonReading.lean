import Sargam.Json.Printer
import Sargam.Json.Reader

/-!
# Reading JSON that was written

A value is read back from its text whatever follows it, as long as the text of a number cannot
go on there. Nothing that is written begins with a blank, so the blanks of a style are skipped
where they are, and an escape is read as one character whatever the next one is. The fuel of a
reader is enough because a text has at least one character for each part of its value.

* `Json.Style.IsBlank`: styles that set the parts apart with blanks only.
* `Json.Exact`: values without reals, whose texts are kept as they are and need not be numbers.
* `Json.readQuoted_escape`, `Json.readNumber_repr`: quoted texts and integers.
* `Json.Reads`: values that are read back at any depth; `Json.reads_of_exact`.
* `Json.parse_write`: what was written is parsed as the same value.
-/

namespace Sargam.Json

/-! ## Blanks -/

/-- The parts of a list or an object are set apart with blanks only. -/
structure Style.IsBlank (style : Style) : Prop where
  lineBreak : ∀ depth, ∀ c ∈ style.lineBreak depth, isSpacing c = true
  colon : ∃ blanks, style.colon = ':' :: blanks ∧ ∀ c ∈ blanks, isSpacing c = true

theorem isBlank_indented : indented.IsBlank where
  lineBreak depth c hc := by
    rcases List.mem_cons.mp hc with rfl | hc
    · rfl
    · rw [List.eq_of_mem_replicate hc]
      rfl
  colon := ⟨[' '], rfl, List.forall_mem_singleton.mpr rfl⟩

variable {blanks cs rest : List Char} {fuel : Nat}

theorem skipSpacing_append (h : ∀ c ∈ blanks, isSpacing c = true) :
    skipSpacing (blanks ++ cs) = skipSpacing cs :=
  List.dropWhile_append_of_pos h

theorem skipSpacing_cons {c : Char} (h : isSpacing c = false) :
    skipSpacing (c :: cs) = c :: cs := by
  rw [skipSpacing, List.dropWhile_cons_of_neg (by rw [h]; exact Bool.false_ne_true)]

theorem readName_append (h : ∀ c ∈ blanks, isSpacing c = true) :
    readName (blanks ++ cs) = readName cs := by
  rw [readName, readName, skipSpacing_append h]

theorem readValue_append (h : ∀ c ∈ blanks, isSpacing c = true) :
    readValue fuel (blanks ++ cs) = readValue fuel cs := by
  cases fuel with
  | zero => rfl
  | succ fuel => rw [readValue, readValue, skipSpacing_append h]

theorem readItems_append (h : ∀ c ∈ blanks, isSpacing c = true) :
    readItems fuel (blanks ++ cs) = readItems fuel cs := by
  cases fuel with
  | zero => rfl
  | succ fuel => rw [readItems, readItems, skipSpacing_append h]

theorem readFields_append (h : ∀ c ∈ blanks, isSpacing c = true) :
    readFields fuel (blanks ++ cs) = readFields fuel cs := by
  cases fuel with
  | zero => rfl
  | succ fuel => rw [readFields, readFields, skipSpacing_append h]

/-! ## Quoted texts -/

theorem hexValue?_digitChar : ∀ n < 16, hexValue? n.digitChar = some n := by decide

theorem readHex_hexDigits {n : Nat} (h : n < 65536) :
    readHex (hexDigits n ++ rest) = some (n, rest) := by
  have hvalue :
      4096 * (n / 4096 % 16) + 256 * (n / 256 % 16) + 16 * (n / 16 % 16) + n % 16 = n := by
    omega
  simp only [hexDigits, List.map_cons, List.map_nil, List.cons_append, List.nil_append, readHex,
    hexValue?_digitChar _ (Nat.mod_lt _ (by decide : 16 > 0)), Option.bind_eq_bind,
    Option.bind_some, hvalue]
  rfl

theorem readNumbered_hexDigits {c : Char} (h : c.toNat < 0x20) :
    readNumbered (hexDigits c.toNat ++ rest) = some (c, rest) := by
  rw [readNumbered, readHex_hexDigits (by omega)]
  have hhigh : ¬ (0xD800 ≤ c.toNat ∧ c.toNat < 0xDC00) := by omega
  have hlow : ¬ (0xDC00 ≤ c.toNat ∧ c.toNat < 0xE000) := by omega
  simp only [Option.bind_eq_bind, Option.bind_some, hhigh, hlow, if_false, Char.ofNat_toNat]
  rfl

/-- A character stands for itself, or is read after a backslash. -/
theorem escape_cases (c : Char) :
    (escape c = [c] ∧ c ≠ '"' ∧ c ≠ '\\' ∧ ¬ c.toNat < 0x20) ∨
      ∃ after, escape c = '\\' :: after ∧ ∀ rest, readEscape (after ++ rest) = some (c, rest) := by
  by_cases hquote : c = '"'
  · subst hquote
    exact .inr ⟨['"'], rfl, fun _ => rfl⟩
  by_cases hbackslash : c = '\\'
  · subst hbackslash
    exact .inr ⟨['\\'], rfl, fun _ => rfl⟩
  by_cases hlow : c.toNat < 0x20
  · refine .inr ?_
    unfold escape
    rw [if_neg hquote, if_neg hbackslash]
    split
    · rename_i h
      exact ⟨['b'], rfl, fun _ => by rw [h]; rfl⟩
    split
    · rename_i h
      exact ⟨['f'], rfl, fun _ => by rw [h]; rfl⟩
    split
    · rename_i h
      exact ⟨['n'], rfl, fun _ => by rw [h]; rfl⟩
    split
    · rename_i h
      exact ⟨['r'], rfl, fun _ => by rw [h]; rfl⟩
    split
    · rename_i h
      exact ⟨['t'], rfl, fun _ => by rw [h]; rfl⟩
    · exact ⟨'u' :: hexDigits c.toNat, rfl, fun _ => readNumbered_hexDigits hlow⟩
  · refine .inl ⟨?_, hquote, hbackslash, hlow⟩
    have hne : ∀ d : Char, d.toNat < 0x20 → c ≠ d := fun d hd h => hlow (h ▸ hd)
    rw [escape, if_neg hquote, if_neg hbackslash, if_neg (hne _ (by decide)),
      if_neg (hne _ (by decide)), if_neg (hne _ (by decide)), if_neg (hne _ (by decide)),
      if_neg (hne _ (by decide)), if_neg hlow]

/-- A written character is read as one character. -/
theorem readQuoted_escape (fuel : Nat) (c : Char) (rest : List Char) :
    readQuoted (fuel + 1) (escape c ++ rest) =
      (readQuoted fuel rest).map fun (chars, rest) => (c :: chars, rest) := by
  rcases escape_cases c with ⟨hescape, hquote, hbackslash, hlow⟩ | ⟨after, hescape, hread⟩
  · rw [hescape, List.singleton_append, readQuoted, if_neg hquote, if_neg hbackslash,
      if_neg hlow]
    cases readQuoted fuel rest <;> rfl
  · rw [hescape, List.cons_append, readQuoted, if_neg (by decide), if_pos rfl, hread]
    simp only [Option.bind_eq_bind, Option.bind_some]
    cases readQuoted fuel rest <;> rfl

theorem length_escape_pos (c : Char) : 0 < (escape c).length := by
  rcases escape_cases c with ⟨hescape, -⟩ | ⟨after, hescape, -⟩ <;>
    rw [hescape] <;> exact Nat.succ_pos _

/-- A quoted text is read back up to its closing quote. -/
theorem readQuoted_quoted {text : List Char} (h : text.length < fuel) :
    readQuoted fuel (text.flatMap escape ++ '"' :: rest) = some (text, rest) := by
  induction text generalizing fuel with
  | nil =>
    obtain ⟨fuel, rfl⟩ := Nat.exists_eq_add_one.mpr (Nat.zero_lt_of_lt h)
    rfl
  | cons c text ih =>
    obtain ⟨fuel, rfl⟩ := Nat.exists_eq_add_one.mpr (Nat.zero_lt_of_lt h)
    rw [List.flatMap_cons, List.append_assoc, readQuoted_escape,
      ih (Nat.lt_of_succ_lt_succ h)]
    rfl

theorem length_le_length_flatMap_escape (text : List Char) :
    text.length ≤ (text.flatMap escape).length := by
  induction text with
  | nil => exact Nat.le_refl _
  | cons c text ih =>
    have := length_escape_pos c
    rw [List.flatMap_cons, List.length_append, List.length_cons]
    omega

/-- A quoted text is long enough to be read with its own length as fuel. -/
theorem readQuoted_length (text rest : List Char) :
    readQuoted (text.flatMap escape ++ '"' :: rest).length (text.flatMap escape ++ '"' :: rest) =
      some (text, rest) := by
  refine readQuoted_quoted ?_
  have := length_le_length_flatMap_escape text
  rw [List.length_append, List.length_cons]
  omega

theorem quoted_append (text : String) (rest : List Char) :
    quoted text ++ rest = '"' :: (text.toList.flatMap escape ++ '"' :: rest) := by
  rw [quoted, List.cons_append, List.append_assoc]
  rfl

theorem readValue_quoted (fuel : Nat) (text : String) (rest : List Char) :
    readValue (fuel + 1) (quoted text ++ rest) = some (.text text, rest) := by
  rw [quoted_append, readValue, skipSpacing_cons rfl]
  simp only [readQuoted_length, Option.bind_eq_bind, Option.bind_some, String.ofList_toList]
  rfl

theorem readName_quoted (name : String) (rest : List Char) :
    readName (quoted name ++ ':' :: rest) = some (name, rest) := by
  rw [quoted_append, readName, skipSpacing_cons rfl]
  simp only [readQuoted_length, Option.bind_eq_bind, Option.bind_some, String.ofList_toList,
    skipSpacing_cons (show isSpacing ':' = false from rfl)]
  rfl

/-! ## Integers -/

/-- What a number may be followed by without going on there. -/
def EndsNumber : List Char → Prop
  | [] => True
  | c :: _ => c.isDigit = false ∧ c ≠ '.' ∧ c ≠ 'e' ∧ c ≠ 'E'

theorem head?_toDigits {n : Nat} (h : 0 < n) : (Nat.toDigits 10 n).head? ≠ some '0' := by
  induction n using Nat.strongRecOn with
  | _ n ih =>
    rw [Nat.toDigits_eq_if (by decide)]
    split
    · rename_i hlt
      have hdigit : ∀ m < 10, 0 < m → some (Nat.digitChar m) ≠ some '0' := by decide
      exact hdigit n hlt h
    · have hhead := ih (n / 10) (by omega) (by omega)
      obtain ⟨first, digits, hdigits⟩ :=
        List.exists_cons_of_ne_nil (Nat.toDigits_ne_nil (n := n / 10) (b := 10))
      rw [hdigits] at hhead ⊢
      exact hhead

theorem EndsNumber.takeWhile (h : EndsNumber rest) :
    rest.takeWhile Char.isDigit = [] ∧ rest.dropWhile Char.isDigit = rest := by
  cases rest with
  | nil => exact ⟨rfl, rfl⟩
  | cons c rest =>
    have hdigit : ¬ c.isDigit = true := by simp [h.1]
    exact ⟨List.takeWhile_cons_of_neg hdigit, List.dropWhile_cons_of_neg hdigit⟩

theorem EndsNumber.readPlaces (h : EndsNumber rest) : readPlaces rest = some ([], rest) := by
  unfold Json.readPlaces
  split
  · exact absurd rfl h.2.1
  · rfl

theorem EndsNumber.readExponent (h : EndsNumber rest) :
    readExponent rest = some ([], rest) := by
  cases rest with
  | nil => rfl
  | cons c rest =>
    have hletter : ¬ (c = 'e' ∨ c = 'E') := not_or.mpr h.2.2
    unfold Json.readExponent
    exact if_neg hletter

theorem readDigits_toDigits (n : Nat) (hrest : EndsNumber rest) :
    readDigits (Nat.toDigits 10 n ++ rest) = some (Nat.toDigits 10 n, rest) := by
  have hdigits : ∀ c ∈ Nat.toDigits 10 n, c.isDigit = true := fun c hc =>
    Nat.isDigit_of_mem_toDigits (by decide) (by decide) hc
  obtain ⟨htake, hdrop⟩ := hrest.takeWhile
  rw [readDigits, List.takeWhile_append_of_pos hdigits, List.dropWhile_append_of_pos hdigits,
    htake, hdrop, List.append_nil]
  split
  · rename_i hnil
    exact absurd hnil Nat.toDigits_ne_nil
  · rfl

/-- A numeral has no leading zero. -/
theorem readMagnitude_toDigits (n : Nat) (hrest : EndsNumber rest) :
    readMagnitude (Nat.toDigits 10 n ++ rest) = some ((Nat.toDigits 10 n, []), rest) := by
  have hzero : ¬ ((Nat.toDigits 10 n).head? = some '0' ∧ Nat.toDigits 10 n ≠ ['0']) := by
    rintro ⟨hhead, hne⟩
    rcases Nat.eq_zero_or_pos n with rfl | hpos
    · exact hne (Nat.toDigits_zero 10)
    · exact head?_toDigits hpos hhead
  simp only [readMagnitude, readDigits_toDigits n hrest, Option.bind_eq_bind, Option.bind_some,
    if_neg hzero, hrest.readPlaces, hrest.readExponent]
  rfl

/-- The text of an integer begins with its sign or with a digit. -/
theorem repr_cases (n : Int) :
    (∃ m : Nat, n = -m ∧ n.repr.toList = '-' :: Nat.toDigits 10 m) ∨
      ∃ m : Nat, n = m ∧ n.repr.toList = Nat.toDigits 10 m := by
  cases n with
  | ofNat m => exact .inr ⟨m, rfl, Nat.toList_repr⟩
  | negSucc m =>
    refine .inl ⟨m + 1, rfl, ?_⟩
    have hrepr : (Int.negSucc m).repr = "-" ++ (m + 1).repr := rfl
    rw [hrepr, String.toList_append, Nat.toList_repr]
    rfl

theorem readNumber_repr (n : Int) (hrest : EndsNumber rest) :
    readNumber (n.repr.toList ++ rest) = some (.number n, rest) := by
  rcases repr_cases n with ⟨m, rfl, hrepr⟩ | ⟨m, rfl, hrepr⟩
  · simp only [hrepr, List.cons_append, readNumber, readMagnitude_toDigits m hrest,
      Option.bind_eq_bind, Option.bind_some, Nat.ofDigitChars_ten_toDigits]
    rfl
  · obtain ⟨first, digits, hdigits⟩ :=
      List.exists_cons_of_ne_nil (Nat.toDigits_ne_nil (n := m) (b := 10))
    have hfirst : first ≠ '-' := by
      rintro rfl
      have hdigit : ('-' : Char).isDigit = true :=
        Nat.isDigit_of_mem_toDigits (by decide) (by decide) (hdigits ▸ List.mem_cons_self)
      cases hdigit
    have hread := readMagnitude_toDigits m hrest
    rw [hrepr, readNumber]
    · simp only [hread, Option.bind_eq_bind, Option.bind_some, Nat.ofDigitChars_ten_toDigits]
      rfl
    · intro cs hcons
      rw [hdigits, List.cons_append] at hcons
      exact hfirst (List.cons.inj hcons).1

/-! ## Values -/

/-- A value without reals. -/
inductive Exact : Json → Prop
  | null : Exact .null
  | bool (value : Bool) : Exact (.bool value)
  | number (value : Int) : Exact (.number value)
  | text (value : String) : Exact (.text value)
  | array (items : List Json) (h : ∀ item ∈ items, Exact item) : Exact (.array items)
  | object (fields : List (String × Json)) (h : ∀ field ∈ fields, Exact field.2) :
    Exact (.object fields)

/-- A value that is read back from its text at any depth, with the length of the text as fuel. -/
def Reads (style : Style) (value : Json) : Prop :=
  ∀ depth fuel rest, (writeAt style depth value).length ≤ fuel → EndsNumber rest →
    readValue fuel (writeAt style depth value ++ rest) = some (value, rest)

theorem isSpacing_of_isDigit {c : Char} (h : c.isDigit = true) : isSpacing c = false := by
  rw [Bool.eq_false_iff]
  intro hspacing
  simp only [isSpacing, Bool.or_eq_true, decide_eq_true_eq] at hspacing
  rcases hspacing with ((rfl | rfl) | rfl) | rfl <;> cases h

theorem EndsNumber.append (h : ∀ c ∈ blanks, isSpacing c = true) (hrest : EndsNumber rest) :
    EndsNumber (blanks ++ rest) := by
  cases blanks with
  | nil => exact hrest
  | cons c blanks =>
    have hc := h c List.mem_cons_self
    simp only [isSpacing, Bool.or_eq_true, decide_eq_true_eq] at hc
    rcases hc with ((rfl | rfl) | rfl) | rfl <;> exact ⟨rfl, by decide⟩

/-- The text of an integer begins with neither a blank nor a bracket. -/
theorem exists_repr_eq_cons (n : Int) :
    ∃ c tail, n.repr.toList = c :: tail ∧ (c = '-' ∨ c.isDigit = true) := by
  rcases repr_cases n with ⟨m, -, hrepr⟩ | ⟨m, -, hrepr⟩
  · exact ⟨'-', _, hrepr, .inl rfl⟩
  · obtain ⟨first, digits, hdigits⟩ :=
      List.exists_cons_of_ne_nil (Nat.toDigits_ne_nil (n := m) (b := 10))
    have hfirst : first.isDigit = true :=
      Nat.isDigit_of_mem_toDigits (by decide) (by decide) (hdigits ▸ List.mem_cons_self)
    exact ⟨first, digits, hrepr.trans hdigits, .inr hfirst⟩

/-- What is written begins with something that neither is skipped nor ends a list. -/
theorem exists_writeAt_eq_cons {value : Json} (h : Exact value) (style : Style) (depth : Nat) :
    ∃ c tail, writeAt style depth value = c :: tail ∧ isSpacing c = false ∧ c ≠ ']' := by
  cases h with
  | null => exact ⟨_, _, rfl, rfl, by decide⟩
  | bool value => cases value <;> exact ⟨_, _, rfl, rfl, by decide⟩
  | number value =>
    obtain ⟨c, tail, hrepr, hc⟩ := exists_repr_eq_cons value
    refine ⟨c, tail, by rw [writeAt, hrepr], ?_⟩
    rcases hc with rfl | hdigit
    · exact ⟨rfl, by decide⟩
    · refine ⟨isSpacing_of_isDigit hdigit, ?_⟩
      rintro rfl
      cases hdigit
  | text value => exact ⟨_, _, rfl, rfl, by decide⟩
  | array items h => cases items <;> exact ⟨_, _, rfl, rfl, by decide⟩
  | object fields h => cases fields <;> exact ⟨_, _, rfl, rfl, by decide⟩

/-! ### Parts of lists and objects -/

variable {style : Style}

/-- What follows an item, or the last one, ends the text of a number. -/
theorem endsNumber_writeItems (depth : Nat) (items : List Json) (hrest : EndsNumber rest) :
    EndsNumber (writeItems style depth items ++ rest) := by
  cases items with
  | nil => exact hrest
  | cons item items => exact ⟨rfl, by decide⟩

theorem endsNumber_writeFields (depth : Nat) (fields : List (String × Json))
    (hrest : EndsNumber rest) : EndsNumber (writeFields style depth fields ++ rest) := by
  cases fields with
  | nil => exact hrest
  | cons field fields => exact ⟨rfl, by decide⟩

theorem readItems_writeItems (hstyle : style.IsBlank) {items : List Json}
    (hitems : ∀ item ∈ items, Reads style item) {depth : Nat}
    (hblanks : ∀ c ∈ blanks, isSpacing c = true)
    (hfuel : (writeItems style depth items).length < fuel) :
    readItems fuel (writeItems style depth items ++ (blanks ++ ']' :: rest)) =
      some (items, rest) := by
  induction items generalizing fuel with
  | nil =>
    obtain ⟨fuel, rfl⟩ := Nat.exists_eq_add_one.mpr (Nat.zero_lt_of_lt hfuel)
    rw [writeItems, List.nil_append, readItems_append hblanks, readItems, skipSpacing_cons rfl]
    rfl
  | cons item items ih =>
    obtain ⟨fuel, rfl⟩ :=
      Nat.exists_eq_add_one.mpr (Nat.zero_lt_of_lt hfuel)
    obtain ⟨hitem, hitems⟩ := List.forall_mem_cons.mp hitems
    simp only [writeItems, List.length_cons, List.length_append] at hfuel
    have hends : EndsNumber (writeItems style depth items ++ (blanks ++ ']' :: rest)) :=
      endsNumber_writeItems depth items (.append hblanks ⟨rfl, by decide⟩)
    have hread := hitem depth fuel _ (by omega) hends
    have hrest : readItems fuel (writeItems style depth items ++ (blanks ++ ']' :: rest)) =
        some (items, rest) := ih hitems (by omega)
    simp only [writeItems, List.cons_append, List.append_assoc, readItems,
      skipSpacing_cons (show isSpacing ',' = false from rfl),
      readValue_append (hstyle.lineBreak depth), hread, hrest, Option.bind_eq_bind,
      Option.bind_some]
    rfl

theorem readFields_writeFields (hstyle : style.IsBlank) {fields : List (String × Json)}
    (hfields : ∀ field ∈ fields, Reads style field.2) {depth : Nat}
    (hblanks : ∀ c ∈ blanks, isSpacing c = true)
    (hfuel : (writeFields style depth fields).length < fuel) :
    readFields fuel (writeFields style depth fields ++ (blanks ++ '\x7d' :: rest)) =
      some (fields, rest) := by
  obtain ⟨between, hcolon, hbetween⟩ := hstyle.colon
  induction fields generalizing fuel with
  | nil =>
    obtain ⟨fuel, rfl⟩ := Nat.exists_eq_add_one.mpr (Nat.zero_lt_of_lt hfuel)
    rw [writeFields, List.nil_append, readFields_append hblanks, readFields, skipSpacing_cons rfl]
    rfl
  | cons field fields ih =>
    obtain ⟨name, value⟩ := field
    obtain ⟨fuel, rfl⟩ :=
      Nat.exists_eq_add_one.mpr (Nat.zero_lt_of_lt hfuel)
    obtain ⟨hvalue, hfields⟩ := List.forall_mem_cons.mp hfields
    simp only [writeFields, List.length_cons, List.length_append] at hfuel
    have hends : EndsNumber (writeFields style depth fields ++ (blanks ++ '\x7d' :: rest)) :=
      endsNumber_writeFields depth fields (.append hblanks ⟨rfl, by decide⟩)
    have hread := hvalue depth fuel _ (by dsimp only; omega) hends
    have hrest : readFields fuel (writeFields style depth fields ++
        (blanks ++ '\x7d' :: rest)) = some (fields, rest) := ih hfields (by omega)
    dsimp only at hread
    simp only [writeFields, List.cons_append, List.append_assoc, readFields, hcolon,
      skipSpacing_cons (show isSpacing ',' = false from rfl),
      readName_append (hstyle.lineBreak depth), readName_quoted, readValue_append hbetween, hread,
      hrest, Option.bind_eq_bind, Option.bind_some]
    rfl

/-! ### Whole values -/

theorem readValue_array {c : Char} {tail : List Char} (hblanks : ∀ c ∈ blanks, isSpacing c = true)
    (hcs : cs = c :: tail) (hspacing : isSpacing c = false) (hc : c ≠ ']') :
    readValue (fuel + 1) ('[' :: (blanks ++ cs)) = do
      let (item, rest) ← readValue fuel cs
      let (items, rest) ← readItems fuel rest
      return (.array (item :: items), rest) := by
  have hskip : skipSpacing (blanks ++ cs) = cs := by
    rw [skipSpacing_append hblanks, hcs, skipSpacing_cons hspacing]
  rw [readValue, skipSpacing_cons rfl]
  simp only [hskip]
  split
  · exact absurd (List.cons.inj hcs).1.symm hc
  · rfl

theorem readValue_object (hblanks : ∀ c ∈ blanks, isSpacing c = true) (name : String)
    (cs : List Char) :
    readValue (fuel + 1) ('\x7b' :: (blanks ++ (quoted name ++ ':' :: cs))) = do
      let (value, rest) ← readValue fuel cs
      let (fields, rest) ← readFields fuel rest
      return (.object ((name, value) :: fields), rest) := by
  have hskip : skipSpacing (blanks ++ (quoted name ++ ':' :: cs)) = quoted name ++ ':' :: cs := by
    rw [skipSpacing_append hblanks, quoted_append, skipSpacing_cons rfl]
  rw [readValue, skipSpacing_cons rfl]
  simp only [hskip]
  split
  · rename_i hbracket
    rw [quoted_append] at hbracket
    exact absurd (List.cons.inj hbracket).1 (by decide)
  · rw [readName_quoted]
    rfl

theorem reads_number (value : Int) : Reads style (.number value) := by
  intro depth fuel rest hfuel hrest
  obtain ⟨c, tail, hrepr, hc⟩ := exists_repr_eq_cons value
  have hread := readNumber_repr value hrest
  rw [writeAt] at hfuel ⊢
  rw [hrepr] at hfuel hread ⊢
  obtain ⟨fuel, rfl⟩ := Nat.exists_eq_add_one.mpr (Nat.zero_lt_of_lt hfuel)
  have hspacing : isSpacing c = false := by
    rcases hc with rfl | hdigit
    · rfl
    · exact isSpacing_of_isDigit hdigit
  rw [readValue, List.cons_append, skipSpacing_cons hspacing]
  -- None of the other kinds of values begins with a sign or a digit.
  split <;> first
    | exact hread
    | (rename_i hcons
       rw [(List.cons.inj hcons).1] at hc
       exact absurd hc (by decide))

theorem reads_array (hstyle : style.IsBlank) {items : List Json}
    (hexact : ∀ item ∈ items, Exact item) (hitems : ∀ item ∈ items, Reads style item) :
    Reads style (.array items) := by
  intro depth fuel rest hfuel hrest
  cases items with
  | nil =>
    obtain ⟨fuel, rfl⟩ := Nat.exists_eq_add_one.mpr (Nat.zero_lt_of_lt hfuel)
    rfl
  | cons item items =>
    obtain ⟨hitem, hitems⟩ := List.forall_mem_cons.mp hitems
    obtain ⟨c, tail, hcons, hspacing, hc⟩ :=
      exists_writeAt_eq_cons (hexact item List.mem_cons_self) style (depth + 1)
    simp only [writeAt, List.length_cons, List.length_append] at hfuel
    obtain ⟨fuel, rfl⟩ := Nat.exists_eq_add_one.mpr (Nat.zero_lt_of_lt hfuel)
    have hends : EndsNumber (writeItems style (depth + 1) items ++
        (style.lineBreak depth ++ ']' :: rest)) :=
      endsNumber_writeItems _ items (.append (hstyle.lineBreak depth) ⟨rfl, by decide⟩)
    have hread := hitem (depth + 1) fuel _ (by omega) hends
    have hrest : readItems fuel (writeItems style (depth + 1) items ++
        (style.lineBreak depth ++ ']' :: rest)) = some (items, rest) :=
      readItems_writeItems hstyle hitems (hstyle.lineBreak depth) (by omega)
    simp only [writeAt, List.cons_append, List.append_assoc, List.nil_append]
    rw [readValue_array (hstyle.lineBreak (depth + 1)) (hcons ▸ List.cons_append) hspacing hc,
      hread]
    simp only [Option.bind_eq_bind, Option.bind_some, hrest]
    rfl

theorem reads_object (hstyle : style.IsBlank) {fields : List (String × Json)}
    (hfields : ∀ field ∈ fields, Reads style field.2) : Reads style (.object fields) := by
  intro depth fuel rest hfuel hrest
  obtain ⟨between, hcolon, hbetween⟩ := hstyle.colon
  cases fields with
  | nil =>
    obtain ⟨fuel, rfl⟩ := Nat.exists_eq_add_one.mpr (Nat.zero_lt_of_lt hfuel)
    rfl
  | cons field fields =>
    obtain ⟨name, value⟩ := field
    obtain ⟨hvalue, hfields⟩ := List.forall_mem_cons.mp hfields
    simp only [writeAt, List.length_cons, List.length_append] at hfuel
    obtain ⟨fuel, rfl⟩ := Nat.exists_eq_add_one.mpr (Nat.zero_lt_of_lt hfuel)
    have hends : EndsNumber (writeFields style (depth + 1) fields ++
        (style.lineBreak depth ++ '\x7d' :: rest)) :=
      endsNumber_writeFields _ fields (.append (hstyle.lineBreak depth) ⟨rfl, by decide⟩)
    have hread := hvalue (depth + 1) fuel _ (by dsimp only; omega) hends
    have hrest : readFields fuel (writeFields style (depth + 1) fields ++
        (style.lineBreak depth ++ '\x7d' :: rest)) = some (fields, rest) :=
      readFields_writeFields hstyle hfields (hstyle.lineBreak depth) (by omega)
    dsimp only at hread
    simp only [writeAt, hcolon, List.cons_append, List.append_assoc, List.nil_append]
    rw [readValue_object (hstyle.lineBreak (depth + 1)), readValue_append hbetween, hread]
    simp only [Option.bind_eq_bind, Option.bind_some, hrest]
    rfl

/-- A value without reals is read back. -/
theorem reads_of_exact (hstyle : style.IsBlank) {value : Json} (h : Exact value) :
    Reads style value := by
  induction h with
  | null =>
    intro depth fuel rest hfuel hrest
    obtain ⟨fuel, rfl⟩ := Nat.exists_eq_add_one.mpr (Nat.zero_lt_of_lt hfuel)
    rfl
  | bool value =>
    intro depth fuel rest hfuel hrest
    cases value <;>
      obtain ⟨fuel, rfl⟩ :=
        Nat.exists_eq_add_one.mpr (Nat.zero_lt_of_lt hfuel) <;>
      rfl
  | number value => exact reads_number value
  | text value =>
    intro depth fuel rest hfuel hrest
    obtain ⟨fuel, rfl⟩ := Nat.exists_eq_add_one.mpr (Nat.zero_lt_of_lt hfuel)
    exact readValue_quoted fuel value rest
  | array items hexact ih => exact reads_array hstyle hexact ih
  | object fields hexact ih => exact reads_object hstyle ih

/-- A value without reals is what its text is parsed as. -/
theorem parse_write (hstyle : style.IsBlank) {value : Json} (h : Exact value) :
    parse (write style value) = some value := by
  have hread := reads_of_exact hstyle h 0 ((writeAt style 0 value).length + 1) []
    (Nat.le_succ _) trivial
  rw [List.append_nil] at hread
  simp only [parse, write, String.toList_ofList, hread]
  rfl

end Sargam.Json
