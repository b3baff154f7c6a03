/-!
# Visible characters

A combining mark is drawn over the character before it and takes no column of its own. All
column counts of the library are counts of visible characters.

* `isCombiningMark`: whether a character is a combining mark.
* `visibleLength`: the number of visible characters of a text.
* `takeVisible`: the first visible characters of a text, each with the marks it carries.
* `centre`: a text in the middle of a column of given width.
-/

namespace Sargam.Text

/-- Whether a character is a combining mark, that is, lies in U+0300 to U+036F. -/
def isCombiningMark (c : Char) : Bool := 0x300 ≤ c.toNat && c.toNat ≤ 0x36F

/-- Whether a character takes a column. -/
def isVisible (c : Char) : Bool := !isCombiningMark c

/-- The number of visible characters of a character list. -/
def visibleCount (cs : List Char) : Nat := cs.countP isVisible

/-- The number of visible characters of a text. -/
def visibleLength (text : String) : Nat := visibleCount text.toList

/-- The longest initial part with at most `count` visible characters. -/
def takeVisible : Nat → List Char → List Char
  | _, [] => []
  | count, c :: cs =>
    if isVisible c then
      match count with
      | 0 => []
      | count + 1 => c :: takeVisible count cs
    else c :: takeVisible count cs

/-- A character list shortened to fit a column: one that would leave no visible column free
is cut two columns short of the width and ends in an ellipsis. -/
def fit (width : Nat) (cs : List Char) : List Char :=
  if visibleCount cs < width then cs else takeVisible (width - 2) cs ++ ['…']

/-- A character list in the middle of a column; an odd space goes to its right. -/
def centreChars (width : Nat) (cs : List Char) : List Char :=
  let fitted := fit width cs
  let pad := width - visibleCount fitted
  List.replicate (pad / 2) ' ' ++ fitted ++ List.replicate (pad - pad / 2) ' '

/-- A text in the middle of a column of `width` visible characters. -/
def centre (width : Nat) (text : String) : String := String.ofList (centreChars width text.toList)

/-! ## Counting -/

@[simp] theorem visibleCount_nil : visibleCount [] = 0 := rfl

theorem visibleCount_cons (c : Char) (cs : List Char) :
    visibleCount (c :: cs) = visibleCount cs + if isVisible c = true then 1 else 0 :=
  List.countP_cons

@[simp] theorem visibleCount_append (as bs : List Char) :
    visibleCount (as ++ bs) = visibleCount as + visibleCount bs := by
  simp [visibleCount]

/-- The part taken has the wanted number of visible characters, or all there are. -/
theorem visibleCount_takeVisible (count : Nat) (cs : List Char) :
    visibleCount (takeVisible count cs) = min count (visibleCount cs) := by
  induction cs generalizing count with
  | nil => simp [takeVisible]
  | cons c cs ih =>
    unfold takeVisible
    by_cases hc : isVisible c = true
    · cases count with
      | zero => simp [hc]
      | succ count =>
        simp only [visibleCount] at ih ⊢
        simp [hc, ih]
    · simp only [visibleCount] at ih ⊢
      simp [hc, ih]

end Sargam.Text
