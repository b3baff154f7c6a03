import Sargam.Export.Svg
import Sargam.Grid

/-!
# Operations that can be undefined

A difference of counts, an item of a list, a segment of a list and the two parts of a text exist
for some arguments only, and a machine word holds numbers up to a size. Here each of these
operations has a result only where it is defined. What is built from them has a result only if
all of them are defined on the way: a checked definition takes the steps of the one without
checks, and its lemma `_eq_some` says that it always has the same result. Counts of what is in
memory are not bounded.

* `sub`, `div`, `word`, `negate`: arithmetic.
* `write`, `slice`, `splitAt`: lists, and texts that are cut after a number of bytes.
* `mapM_eq_some`: what is defined for each item of a list is defined for the list.
-/

namespace Sargam.Checked

variable {α β : Type}

/-! ## Numbers -/

/-- A difference of counts, if it is one. -/
def sub (a b : Nat) : Option Nat := if b ≤ a then some (a - b) else none

/-- A quotient, unless it is by zero. -/
def div (a b : Nat) : Option Nat := if b = 0 then none else some (a / b)

/-- A number, if a word of 32 bits can hold it. -/
def word (n : Nat) : Option Nat := if n < Export.Svg.wordSize then some n else none

/-- The opposite of a signed word of 32 bits. The least one has none. -/
def negate (n : Int) : Option Int := if n = -2147483648 then none else some (-n)

theorem sub_eq_some {a b : Nat} (h : b ≤ a) : sub a b = some (a - b) := if_pos h

theorem div_eq_some {a b : Nat} (h : b ≠ 0) : div a b = some (a / b) := if_neg h

theorem word_eq_some {n : Nat} (h : n < 4294967296) : word n = some n := if_pos h

theorem negate_natCast (n : Nat) : negate n = some (-(n : Int)) := if_neg (by omega)

/-! ## Lists -/

/-- A list with another item at an index. -/
def write (items : List α) (index : Nat) (item : α) : Option (List α) :=
  if index < items.length then some (items.set index item) else none

/-- The items from `first` up to `last`, exclusive. -/
def slice (items : List α) (first last : Nat) : Option (List α) :=
  if first ≤ last ∧ last ≤ items.length then some (segment items first last) else none

theorem write_eq_some {items : List α} {index : Nat} (h : index < items.length) (item : α) :
    write items index item = some (items.set index item) := if_pos h

theorem slice_eq_some {items : List α} {first last : Nat} (hfirst : first ≤ last)
    (hlast : last ≤ items.length) : slice items first last = some (segment items first last) :=
  if_pos ⟨hfirst, hlast⟩

/-- What is defined for each item of a list is defined for the list. -/
theorem mapM_eq_some {f : α → Option β} {g : α → β} {items : List α}
    (h : ∀ a ∈ items, f a = some (g a)) : items.mapM f = some (items.map g) := by
  induction items with
  | nil => rfl
  | cons a rest ih =>
    obtain ⟨ha, hrest⟩ := List.forall_mem_cons.mp h
    rw [List.mapM_cons, ha, ih hrest]
    rfl

/-! ## Texts -/

/-- The number of bytes of a text. -/
def byteCount (cs : List Char) : Nat := cs.foldr (fun c bytes => c.utf8Size + bytes) 0

/-- A text cut after a number of bytes, which must not end within a character. -/
def splitAt : Nat → List Char → Option (List Char × List Char)
  | 0, cs => some ([], cs)
  | _ + 1, [] => none
  | bytes + 1, c :: cs => do
    let left ← sub (bytes + 1) c.utf8Size
    let (before, after) ← splitAt left cs
    return (c :: before, after)

/-- A text can be cut after any of its characters. -/
theorem splitAt_byteCount (before after : List Char) :
    splitAt (byteCount before) (before ++ after) = some (before, after) := by
  induction before with
  | nil => cases after <;> rfl
  | cons c before ih =>
    obtain ⟨bytes, hbytes⟩ : ∃ bytes, byteCount (c :: before) = bytes + 1 :=
      Nat.exists_eq_add_one.mpr (Nat.add_pos_left c.utf8Size_pos _)
    have hleft : bytes + 1 - c.utf8Size = byteCount before := by
      rw [← hbytes]
      exact Nat.add_sub_cancel_left _ _
    have hle : c.utf8Size ≤ bytes + 1 := hbytes ▸ Nat.le_add_right _ _
    rw [hbytes, List.cons_append, splitAt, sub_eq_some hle, hleft]
    simp only [Option.bind_eq_bind, Option.bind_some, ih]
    rfl

/-- A letter of three bytes cannot be cut after the first of them. -/
example : splitAt 1 ['स', 'ा'] = none := by decide

end Sargam.Checked
