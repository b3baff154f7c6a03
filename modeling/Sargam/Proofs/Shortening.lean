import Sargam.Text.Visible

/-!
# Shortened texts

A text is shortened by its visible characters. Marks are not counted, so those that follow the last
visible character that is kept are kept with it. What decides is that an initial part of the text
belongs to the shortened text exactly if it does not have too many visible characters: that the cut
stands before no mark, when nothing is cut, and what a second cut does are read off this.

* `prefix_takeVisible_iff`: the initial parts of a shortened text.
* `LongestPart`: the longest initial part of a text among those with one number of visible
  characters. What follows it begins with a visible character.
* `takeVisible_takeVisible`: a text that is shortened again.
* `filter_takeVisible`: marks can be taken away before a text is shortened or after.
* `takeVisible_separates_no_mark`: a shortened text, for every text and every count.
-/

namespace Sargam.Text

/-! ## Initial parts -/

/-- The initial parts of a shortened text are those of the text that are not too wide. -/
theorem prefix_takeVisible_iff (count : Nat) (cs part : List Char) :
    part <+: takeVisible count cs ↔ part <+: cs ∧ visibleCount part ≤ count := by
  fun_induction takeVisible count cs generalizing part with
  | case1 count =>
    rw [List.prefix_nil]
    constructor
    · rintro rfl
      exact ⟨rfl, Nat.zero_le count⟩
    · exact And.left
  | case2 c cs hc =>
    -- The first character is one too many, so of all initial parts only the empty one is left.
    cases part with
    | nil => simp
    | cons d part =>
      rw [List.prefix_nil, List.cons_prefix_cons, visibleCount_cons]
      constructor
      · exact nofun
      · rintro ⟨⟨rfl, -⟩, hle⟩
        rw [if_pos hc] at hle
        omega
  | case3 c cs hc count ih =>
    cases part with
    | nil => simp
    | cons d part =>
      rw [List.cons_prefix_cons, List.cons_prefix_cons, ih, visibleCount_cons, and_assoc]
      refine and_congr_right ?_
      rintro rfl
      rw [if_pos hc, Nat.add_le_add_iff_right]
  | case4 count c cs hc ih =>
    cases part with
    | nil => simp
    | cons d part =>
      rw [List.cons_prefix_cons, List.cons_prefix_cons, ih, visibleCount_cons, and_assoc]
      refine and_congr_right ?_
      rintro rfl
      rw [if_neg hc, Nat.add_zero]

theorem takeVisible_prefix_self (count : Nat) (cs : List Char) : takeVisible count cs <+: cs :=
  ((prefix_takeVisible_iff count cs _).mp List.prefix_rfl).1

/-- The longest initial part of a text with a given number of visible characters: it is one, and
all others are initial parts of it. -/
structure LongestPart (size : Nat) (text part : List Char) : Prop where
  initial : part <+: text
  visibleCount_eq : visibleCount part = size
  longest : ∀ other, other <+: text → visibleCount other = size → other <+: part

theorem longestPart_takeVisible (count : Nat) (cs : List Char) :
    LongestPart (min count (visibleCount cs)) cs (takeVisible count cs) where
  initial := takeVisible_prefix_self count cs
  visibleCount_eq := visibleCount_takeVisible count cs
  longest other hother hsize := by
    rw [prefix_takeVisible_iff, hsize]
    exact ⟨hother, Nat.min_le_left count _⟩

/-- A mark after the longest part would belong to it. -/
theorem LongestPart.isVisible_of_append {size : Nat} {text part rest : List Char} {c : Char}
    (h : LongestPart size text part) (happend : text = part ++ c :: rest) :
    isVisible c = true := by
  by_cases hc : isVisible c = true
  · exact hc
  · exfalso
    have hinitial : part ++ [c] <+: text := ⟨rest, by simp [happend]⟩
    have hsize : visibleCount (part ++ [c]) = size := by
      rw [visibleCount_append, visibleCount_cons, if_neg hc, h.visibleCount_eq]
      rfl
    have hlength := (h.longest _ hinitial hsize).length_le
    rw [List.length_append, List.length_singleton] at hlength
    omega

/-! ## Shortening -/

theorem takeVisible_eq_self_iff (count : Nat) (cs : List Char) :
    takeVisible count cs = cs ↔ visibleCount cs ≤ count := by
  constructor
  · intro hself
    have hcount := visibleCount_takeVisible count cs
    rw [hself] at hcount
    omega
  · intro hle
    have hinitial := (prefix_takeVisible_iff count cs cs).mpr ⟨List.prefix_rfl, hle⟩
    exact (takeVisible_prefix_self count cs).eq_of_length_le hinitial.length_le

theorem takeVisible_takeVisible (first second : Nat) (cs : List Char) :
    takeVisible second (takeVisible first cs) = takeVisible (min first second) cs := by
  have hparts : ∀ part, part <+: takeVisible second (takeVisible first cs) ↔
      part <+: takeVisible (min first second) cs := by
    intro part
    simp only [prefix_takeVisible_iff, and_assoc, Nat.le_min]
  have hleft := (hparts _).mp List.prefix_rfl
  have hright := (hparts _).mpr List.prefix_rfl
  exact hleft.eq_of_length_le hright.length_le

theorem filter_takeVisible (count : Nat) (cs : List Char) :
    (takeVisible count cs).filter isVisible = takeVisible count (cs.filter isVisible) := by
  induction cs generalizing count with
  | nil => rfl
  | cons c cs ih =>
    by_cases hc : isVisible c = true
    · cases count with
      | zero => simp [takeVisible, hc]
      | succ count => simp [takeVisible, hc, ih]
    · simp [takeVisible, hc, ih]

/-- **Shortening separates no mark from its letter.** A shortened text is the longest initial part
of the text among those with as many visible characters as were asked for, or as there are, and
what follows it does not begin with a mark. It is the whole text exactly if the text has no more
visible characters than that. Shortened twice, a text is shortened to the smaller number, and its
marks can be taken away before it is shortened or after. -/
theorem takeVisible_separates_no_mark (count : Nat) (text : List Char) :
    LongestPart (min count (visibleCount text)) text (takeVisible count text) ∧
    (∀ c rest, text = takeVisible count text ++ c :: rest → isCombiningMark c = false) ∧
    (takeVisible count text = text ↔ visibleCount text ≤ count) ∧
    (∀ other, takeVisible other (takeVisible count text) = takeVisible (min count other) text) ∧
    (takeVisible count text).filter isVisible = takeVisible count (text.filter isVisible) := by
  have hlongest := longestPart_takeVisible count text
  refine ⟨hlongest, fun c rest happend => ?_, takeVisible_eq_self_iff count text,
    fun other => takeVisible_takeVisible count other text, filter_takeVisible count text⟩
  have hvisible := hlongest.isVisible_of_append happend
  simpa [isVisible] using hvisible

/-- A mark that stands on nothing, R with two marks, E with one, and GA: cut after E, all marks up
to there are kept. -/
theorem takeVisible_separates_no_mark_at_letters :
    let kept := ['\u0307', 'R', '\u0332', '\u0307', 'E', '\u0332']
    let text := kept ++ ['G', 'A']
    takeVisible 2 text = kept ∧ ['\u0307', 'R', '\u0332', '\u0307', 'E'] <+: takeVisible 2 text ∧
      isCombiningMark 'G' = false ∧ takeVisible 4 text = text ∧
      takeVisible 0 (takeVisible 2 text) = ['\u0307'] ∧
      (takeVisible 2 text).filter isVisible = ['R', 'E'] := by
  intro kept text
  have hkept : takeVisible 2 text = kept := by decide
  obtain ⟨hlongest, hnext, -, htwice, hfilter⟩ := takeVisible_separates_no_mark 2 text
  obtain ⟨-, -, hwhole, -⟩ := takeVisible_separates_no_mark 4 text
  refine ⟨hkept, ?_, ?_, ?_, ?_, ?_⟩
  · exact hlongest.longest _ (by decide) (by decide)
  · exact hnext 'G' ['A'] (by rw [hkept])
  · exact hwhole.mpr (by decide)
  · exact (htwice 0).trans (by decide)
  · exact hfilter.trans (by decide)

end Sargam.Text
