import Sargam.Proofs.RoundTrip
import Sargam.Proofs.WellFormed
import Sargam.Taal.Vibhag

/-!
# Vibhags and marks of a taal

A matra lies in the vibhag that begins at or before it and ends at or after it. That is how a
vibhag is counted off; it is found by taking the sizes of vibhags away one by one. A mark is
chosen by what the matra is, sam before khali before tali, and its glyph tells which one it is.

* `matrasBefore`: how many matras the vibhags before a given one have together.
* `groupOf?_eq_some_iff`, `vibhagOf?_eq_some`: the vibhag that is found is the one counted off.
* `marker?_eq_sam_iff`, `marker?_eq_khali_iff`, `marker?_eq_tali_iff`: when a matra has a mark.
* `symbol_eq_glyph_iff`, `symbol_eq_empty_iff`: the symbol of a matra tells its mark.
-/

namespace Sargam

namespace Taal

/-! ## Counting matras -/

/-- The matras of the vibhags before the one with an index, counted from 0. -/
def matrasBefore (vibhags : List Nat) (index : Nat) : Nat := (vibhags.take index).sum

@[simp] theorem matrasBefore_zero (vibhags : List Nat) : matrasBefore vibhags 0 = 0 := by
  simp [matrasBefore]

@[simp] theorem matrasBefore_cons_succ (size : Nat) (vibhags : List Nat) (index : Nat) :
    matrasBefore (size :: vibhags) (index + 1) = size + matrasBefore vibhags index := by
  simp [matrasBefore]

theorem matrasBefore_add_le {vibhags : List Nat} {index size : Nat}
    (h : vibhags[index]? = some size) : matrasBefore vibhags index + size ≤ vibhags.sum := by
  induction vibhags generalizing index with
  | nil => cases h
  | cons first rest ih =>
    cases index with
    | zero =>
      cases h
      simp
    | succ index =>
      have hrest := ih h
      simp only [matrasBefore_cons_succ, List.sum_cons]
      omega

/-- The group of the `n`-th member is the one before which fewer than `n` members stand, and
after which at least `n` have been counted. -/
theorem groupOf?_eq_some_iff {first n found : Nat} {sizes : List Nat} (hn : 0 < n) :
    groupOf? first n sizes = some found ↔
      ∃ index size, found = first + index ∧ sizes[index]? = some size ∧
        matrasBefore sizes index < n ∧ n ≤ matrasBefore sizes index + size := by
  induction sizes generalizing first n with
  | nil => simp [groupOf?]
  | cons size rest ih =>
    unfold groupOf?
    split
    · rename_i hle
      constructor
      · intro h
        cases h
        exact ⟨0, size, rfl, rfl, by simpa using hn, by simpa using hle⟩
      · rintro ⟨index, other, rfl, hother, hlt, -⟩
        cases index with
        | zero => rfl
        | succ index =>
          rw [matrasBefore_cons_succ] at hlt
          omega
    · rename_i hgt
      rw [ih (by omega)]
      constructor
      · rintro ⟨index, other, rfl, hother, hlt, hle⟩
        refine ⟨index + 1, other, by omega, hother, ?_, ?_⟩
        · rw [matrasBefore_cons_succ]
          omega
        · rw [matrasBefore_cons_succ]
          omega
      · rintro ⟨index, other, rfl, hother, hlt, hle⟩
        cases index with
        | zero =>
          cases hother
          rw [matrasBefore_zero] at hle
          omega
        | succ index =>
          rw [matrasBefore_cons_succ] at hlt hle
          exact ⟨index, other, by omega, hother, by omega, by omega⟩

theorem sum_vibhagStructure (t : Taal) : t.vibhagStructure.sum = t.totalMatras :=
  (matraCount_eq_sum _).symm.trans t.consistent.vibhags_sum

theorem vibhag_pos (t : Taal) {index size : Nat} (h : t.vibhagStructure[index]? = some size) :
    0 < size := by
  refine Nat.pos_of_ne_zero fun hzero => t.consistent.vibhags_pos ?_
  rw [hzero] at h
  exact List.mem_of_getElem? h

theorem inCycle_iff {t : Taal} {matra : Nat} :
    t.inCycle matra = true ↔ 1 ≤ matra ∧ matra ≤ t.totalMatras := by
  rw [Definition.inCycle, decide_eq_true_eq]

/-- The vibhag of a matra, from how many matras stand before it. -/
theorem vibhagOf?_eq_some {t : Taal} {index size offset : Nat}
    (hsize : t.vibhagStructure[index]? = some size) (hoffset : offset < size) :
    t.vibhagOf? (1 + matrasBefore t.vibhagStructure index + offset) = some (index + 1) := by
  have hle := matrasBefore_add_le hsize
  rw [sum_vibhagStructure] at hle
  rw [vibhagOf?, if_pos (inCycle_iff.mpr (by omega)), groupOf?_eq_some_iff (by omega)]
  exact ⟨index, size, by omega, hsize, by omega, by omega⟩

theorem vibhagOf?_pos {t : Taal} {matra vibhag : Nat} (h : t.vibhagOf? matra = some vibhag) :
    0 < vibhag := by
  unfold vibhagOf? at h
  split at h
  · rename_i hcycle
    have hpos := (inCycle_iff.mp hcycle).1
    obtain ⟨index, -, rfl, -⟩ := (groupOf?_eq_some_iff hpos).mp h
    omega
  · cases h

/-! ## Marks -/

variable {t : Taal} {matra : Nat}

theorem isSam_iff : t.isSam matra = true ↔ matra = t.sam := decide_eq_true_iff

theorem isKhali_iff : t.isKhali matra = true ↔ matra ∈ t.khali := decide_eq_true_iff

theorem isTali_iff : t.isTali matra = true ↔ matra ∈ t.tali := decide_eq_true_iff

theorem marker?_eq_sam_iff : t.marker? matra = some .sam ↔ matra = t.sam := by
  unfold marker?
  split
  · rename_i hsam
    exact iff_of_true rfl (isSam_iff.mp hsam)
  · rename_i hsam
    refine iff_of_false ?_ fun h => hsam (isSam_iff.mpr h)
    split
    · simp
    · split <;> simp

theorem marker?_eq_khali_iff :
    t.marker? matra = some .khali ↔ matra ∈ t.khali ∧ matra ≠ t.sam := by
  unfold marker?
  split
  · rename_i hsam
    exact iff_of_false (by simp) fun h => h.2 (isSam_iff.mp hsam)
  · rename_i hsam
    split
    · rename_i hkhali
      exact iff_of_true rfl ⟨isKhali_iff.mp hkhali, fun h => hsam (isSam_iff.mpr h)⟩
    · rename_i hkhali
      refine iff_of_false ?_ fun h => hkhali (isKhali_iff.mpr h.1)
      split <;> simp

theorem marker?_eq_tali_iff {vibhag : Nat} :
    t.marker? matra = some (.tali vibhag) ↔ t.vibhagOf? matra = some vibhag ∧
      matra ∈ t.tali ∧ matra ∉ t.khali ∧ matra ≠ t.sam := by
  unfold marker?
  split
  · rename_i hsam
    exact iff_of_false (by simp) fun h => h.2.2.2 (isSam_iff.mp hsam)
  · rename_i hsam
    split
    · rename_i hkhali
      exact iff_of_false (by simp) fun h => h.2.2.1 (isKhali_iff.mp hkhali)
    · rename_i hkhali
      split
      · rename_i htali
        have hplain : matra ∈ t.tali ∧ matra ∉ t.khali ∧ matra ≠ t.sam :=
          ⟨isTali_iff.mp htali, fun h => hkhali (isKhali_iff.mpr h),
            fun h => hsam (isSam_iff.mpr h)⟩
        simp [hplain]
      · rename_i htali
        exact iff_of_false (by simp) fun h => htali (isTali_iff.mpr h.2.1)

end Taal

/-! ## Symbols -/

namespace Marker

theorem repr_ne {text : String} (h : text.toList.any Char.isDigit = false) (n : Nat) :
    n.repr ≠ text := by
  rintro rfl
  obtain ⟨hne, hdigits, -⟩ := Token.placeValue_repr n
  obtain ⟨c, rest, hcons⟩ := List.exists_cons_of_ne_nil hne
  have hdigit := hdigits c (hcons ▸ List.mem_cons_self)
  rw [hcons, List.any_cons, hdigit] at h
  cases h

theorem repr_inj {m n : Nat} (h : m.repr = n.repr) : m = n := by
  have hvalue := congrArg (fun text : String => Token.placeValue text.toList) h
  simpa only [(Token.placeValue_repr _).2.2] using hvalue

theorem glyph_ne_empty (marker : Marker) : marker.glyph ≠ "" := by
  cases marker with
  | sam => decide
  | khali => decide
  | tali vibhag => exact repr_ne rfl vibhag

/-- Marks have different glyphs, as long as no vibhag has the number 0. -/
theorem glyph_inj {a b : Marker} (ha : a ≠ .tali 0) (hb : b ≠ .tali 0) :
    a.glyph = b.glyph ↔ a = b := by
  have hsam : ∀ n : Nat, n.repr ≠ Marker.sam.glyph := repr_ne rfl
  have hkhali : ∀ n : Nat, Marker.tali n ≠ .tali 0 → n.repr ≠ Marker.khali.glyph := by
    intro n hn h
    exact hn (congrArg Marker.tali (repr_inj (n := 0) h))
  constructor
  · intro h
    cases a with
    | sam =>
      cases b with
      | sam => rfl
      | khali => exact absurd h (by decide)
      | tali n => exact absurd h.symm (hsam n)
    | khali =>
      cases b with
      | sam => exact absurd h (by decide)
      | khali => rfl
      | tali n => exact absurd h.symm (hkhali n hb)
    | tali m =>
      cases b with
      | sam => exact absurd h (hsam m)
      | khali => exact absurd h (hkhali m ha)
      | tali n => exact congrArg Marker.tali (repr_inj h)
  · rintro rfl
    rfl

end Marker

namespace Taal

variable {t : Taal} {matra : Nat}

theorem symbol_eq_empty_iff : t.symbol matra = "" ↔ t.marker? matra = none := by
  unfold symbol
  cases t.marker? matra with
  | none => simp
  | some marker => simp [marker.glyph_ne_empty]

theorem symbol_eq_glyph_iff (marker : Marker) (h : marker ≠ .tali 0) :
    t.symbol matra = marker.glyph ↔ t.marker? matra = some marker := by
  unfold symbol
  cases hmarker : t.marker? matra with
  | none => simp [marker.glyph_ne_empty.symm]
  | some found =>
    have hfound : found ≠ .tali 0 := by
      rintro rfl
      exact Nat.lt_irrefl 0 (vibhagOf?_pos (marker?_eq_tali_iff.mp hmarker).1)
    rw [Option.some.injEq]
    exact Marker.glyph_inj hfound h

end Taal

end Sargam
