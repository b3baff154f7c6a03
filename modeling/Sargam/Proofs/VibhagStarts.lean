import Sargam.Proofs.Vibhags

/-!
# Where vibhags begin

The first matras of the vibhags are found by adding sizes up, and the vibhag of a matra by taking
sizes away. Both are about one division of the cycle: a vibhag goes from its first matra up to the
next one's. Going through the cycle, the vibhag stays the same from one matra to the next until
another one begins, and then it is the next one. The last matra of a vibhag and the first of the
one after it are where the two could part.

* `Taal.getElem?_vibhagStarts`: the first matra of a vibhag, from the vibhags before it.
* `Taal.vibhagOf?_eq_some_iff`, `Taal.vibhagOf?_eq_none_iff`: the vibhag of a matra.
* `Taal.mem_vibhagStarts_iff`: a matra is a first one exactly if it is that of its own vibhag.
* `Taal.vibhagOf?_pred`: the vibhag of the matra before a matra.
* `Taal.vibhags_divide_cycle`: the division.
-/

namespace Sargam.Taal

/-! ## Sums of sizes -/

theorem matrasBefore_succ {sizes : List Nat} {index size : Nat} (h : sizes[index]? = some size) :
    matrasBefore sizes (index + 1) = matrasBefore sizes index + size := by
  rw [matrasBefore, List.take_add_one, List.sum_append, h]
  simp [matrasBefore]

theorem matrasBefore_le (sizes : List Nat) {index later : Nat} (h : index ≤ later) :
    matrasBefore sizes index ≤ matrasBefore sizes later := by
  obtain ⟨more, rfl⟩ := Nat.exists_eq_add_of_le h
  rw [matrasBefore, matrasBefore, List.take_add, List.sum_append]
  omega

theorem length_startsFrom (next : Nat) (sizes : List Nat) :
    (startsFrom next sizes).length = sizes.length := by
  induction sizes generalizing next with
  | nil => rfl
  | cons size rest ih => rw [startsFrom, List.length_cons, ih, List.length_cons]

theorem getElem?_startsFrom (next : Nat) (sizes : List Nat) (index : Nat) :
    (startsFrom next sizes)[index]? =
      sizes[index]?.map fun _ => next + matrasBefore sizes index := by
  induction sizes generalizing next index with
  | nil => rfl
  | cons size rest ih =>
    cases index with
    | zero => rfl
    | succ index =>
      rw [startsFrom, List.getElem?_cons_succ, List.getElem?_cons_succ, ih, matrasBefore_cons_succ,
        Nat.add_assoc]

/-- No group is found exactly for members after the last one. -/
theorem groupOf?_eq_none_iff {first n : Nat} {sizes : List Nat} (hn : 0 < n) :
    groupOf? first n sizes = none ↔ sizes.sum < n := by
  induction sizes generalizing first n with
  | nil => exact iff_of_true rfl hn
  | cons size rest ih =>
    unfold groupOf?
    rw [List.sum_cons]
    split
    · exact iff_of_false (Option.some_ne_none first) (by omega)
    · rw [ih (by omega)]
      omega

/-! ## Vibhags of matras -/

variable {t : Taal} {m v : Nat}

theorem getElem?_vibhagStarts (index : Nat) : t.vibhagStarts[index]? =
    t.vibhagStructure[index]?.map fun _ => 1 + matrasBefore t.vibhagStructure index :=
  getElem?_startsFrom 1 t.vibhagStructure index

theorem vibhagOf?_eq_some_iff : t.vibhagOf? m = some v ↔
    ∃ index size, v = index + 1 ∧ t.vibhagStructure[index]? = some size ∧
      matrasBefore t.vibhagStructure index < m ∧
      m ≤ matrasBefore t.vibhagStructure index + size := by
  have hgroup : ∀ index, v = 1 + index ↔ v = index + 1 := by omega
  unfold vibhagOf?
  split
  · rename_i hcycle
    rw [groupOf?_eq_some_iff (inCycle_iff.mp hcycle).1]
    simp only [hgroup]
  · rename_i hcycle
    refine iff_of_false nofun ?_
    rintro ⟨index, size, -, hsize, hlt, hle⟩
    have htotal := matrasBefore_add_le hsize
    rw [sum_vibhagStructure] at htotal
    exact hcycle (inCycle_iff.mpr (by omega))

theorem vibhagOf?_eq_none_iff : t.vibhagOf? m = none ↔ m = 0 ∨ t.totalMatras < m := by
  unfold vibhagOf?
  split
  · rename_i hcycle
    have hrange := inCycle_iff.mp hcycle
    rw [groupOf?_eq_none_iff hrange.1, sum_vibhagStructure]
    omega
  · rename_i hcycle
    rw [inCycle_iff] at hcycle
    exact iff_of_true rfl (by omega)

/-- A later matra lies in the same vibhag or in a later one. -/
theorem vibhagOf?_le {n w : Nat} (hle : m ≤ n) (hv : t.vibhagOf? m = some v)
    (hw : t.vibhagOf? n = some w) : v ≤ w := by
  obtain ⟨i, -, rfl, -, hlt, -⟩ := vibhagOf?_eq_some_iff.mp hv
  obtain ⟨j, size, rfl, hsize, -, hlast⟩ := vibhagOf?_eq_some_iff.mp hw
  refine Nat.succ_le_succ (Nat.le_of_not_lt fun hji => ?_)
  have hbefore := matrasBefore_le t.vibhagStructure (Nat.succ_le_of_lt hji)
  rw [Nat.succ_eq_add_one, matrasBefore_succ hsize] at hbefore
  omega

theorem vibhagOf?_start {index size : Nat} (h : t.vibhagStructure[index]? = some size) :
    t.vibhagOf? (1 + matrasBefore t.vibhagStructure index) = some (index + 1) :=
  vibhagOf?_eq_some h (t.vibhag_pos h)

/-- A matra is the first one of a vibhag exactly if it is the first one of its own. -/
theorem mem_vibhagStarts_iff {index : Nat} (h : t.vibhagOf? m = some (index + 1)) :
    m ∈ t.vibhagStarts ↔ m = 1 + matrasBefore t.vibhagStructure index := by
  constructor
  · intro hmem
    obtain ⟨other, hother⟩ := List.getElem?_of_mem hmem
    rw [getElem?_vibhagStarts] at hother
    obtain ⟨size, hsize, rfl⟩ := Option.map_eq_some_iff.mp hother
    rw [vibhagOf?_start hsize] at h
    rw [Nat.succ.inj (Option.some.inj h)]
  · rintro rfl
    obtain ⟨other, size, hindex, hsize, -⟩ := vibhagOf?_eq_some_iff.mp h
    obtain rfl := Nat.succ.inj hindex
    have hstart := getElem?_vibhagStarts (t := t) index
    rw [hsize] at hstart
    exact List.mem_of_getElem? hstart

theorem vibhagOf?_of_mem_vibhagStarts (h : m ∈ t.vibhagStarts) :
    ∃ index, t.vibhagOf? m = some (index + 1) := by
  obtain ⟨index, hindex⟩ := List.getElem?_of_mem h
  rw [getElem?_vibhagStarts] at hindex
  obtain ⟨size, hsize, rfl⟩ := Option.map_eq_some_iff.mp hindex
  exact ⟨index, vibhagOf?_start hsize⟩

/-- The matra before a matra lies in the vibhag before if a vibhag begins between them, and in the
same one otherwise. -/
theorem vibhagOf?_pred {index : Nat} (hm : 1 < m) (h : t.vibhagOf? m = some (index + 1)) :
    t.vibhagOf? (m - 1) = some (if m ∈ t.vibhagStarts then index else index + 1) := by
  have hstart := mem_vibhagStarts_iff h
  obtain ⟨other, size, hindex, hsize, hlt, hle⟩ := vibhagOf?_eq_some_iff.mp h
  obtain rfl := Nat.succ.inj hindex
  split
  · -- The vibhag before ends with this matra, and is not empty.
    rename_i hmem
    have hfirst := hstart.mp hmem
    cases index with
    | zero =>
      rw [matrasBefore_zero] at hfirst
      omega
    | succ before =>
      have hlength := (List.getElem?_eq_some_iff.mp hsize).1
      have hbefore := List.getElem?_eq_getElem (Nat.lt_of_succ_lt hlength)
      have hpos := t.vibhag_pos hbefore
      rw [matrasBefore_succ hbefore] at hfirst
      exact vibhagOf?_eq_some_iff.mpr ⟨before, _, rfl, hbefore, by omega, by omega⟩
  · rename_i hmem
    rw [hstart] at hmem
    exact vibhagOf?_eq_some_iff.mpr ⟨index, size, rfl, hsize, by omega, by omega⟩

/-- From a matra to the next the vibhag rises by one or not at all. -/
theorem vibhagOf?_step {w : Nat} (hv : t.vibhagOf? (m - 1) = some v)
    (hw : t.vibhagOf? m = some w) : m ≠ 1 ∧ w = if m ∈ t.vibhagStarts then v + 1 else v := by
  have hm : 1 < m := by
    have hnone : ¬ (m - 1 = 0 ∨ t.totalMatras < m - 1) := by
      rw [← vibhagOf?_eq_none_iff, hv]
      exact Option.some_ne_none v
    omega
  obtain ⟨index, -, rfl, -⟩ := vibhagOf?_eq_some_iff.mp hw
  rw [vibhagOf?_pred hm hw, Option.some.injEq] at hv
  refine ⟨Nat.ne_of_gt hm, ?_⟩
  rw [← hv]
  split <;> rfl

/-! ## The division of a cycle -/

theorem pairwise_vibhagStarts (t : Taal) : t.vibhagStarts.Pairwise (· < ·) := by
  rw [List.pairwise_iff_getElem]
  intro i j hi hj hij
  have hlower := getElem?_vibhagStarts (t := t) i
  have hupper := getElem?_vibhagStarts (t := t) j
  rw [List.getElem?_eq_getElem hi] at hlower
  rw [List.getElem?_eq_getElem hj] at hupper
  obtain ⟨size, hsize, hlower⟩ := Option.map_eq_some_iff.mp hlower.symm
  obtain ⟨-, -, hupper⟩ := Option.map_eq_some_iff.mp hupper.symm
  have hpos := t.vibhag_pos hsize
  have hbefore := matrasBefore_le t.vibhagStructure (Nat.succ_le_of_lt hij)
  rw [Nat.succ_eq_add_one, matrasBefore_succ hsize] at hbefore
  omega

/-- A cycle that is divided by its vibhags, from the first matra of each up to that of the next. -/
structure DividedByVibhags (t : Taal) : Prop where
  vibhag_iff : ∀ m v, t.vibhagOf? m = some v ↔ 1 ≤ v ∧ v ≤ t.vibhagCount ∧
    ∃ start size, t.vibhagStarts[v - 1]? = some start ∧ t.vibhagStructure[v - 1]? = some size ∧
      start ≤ m ∧ m < start + size
  outside_iff : ∀ m, t.vibhagOf? m = none ↔ m = 0 ∨ t.totalMatras < m
  starts_rising : t.vibhagStarts.Pairwise (· < ·)
  starts_head : t.vibhagStarts.head? = some 1
  starts_length : t.vibhagStarts.length = t.vibhagCount
  le_of_le : ∀ m n v w, m ≤ n → t.vibhagOf? m = some v → t.vibhagOf? n = some w → v ≤ w
  exists_matra : ∀ v, 1 ≤ v → v ≤ t.vibhagCount → ∃ m, t.vibhagOf? m = some v
  rises_iff : ∀ m, (∃ v w, t.vibhagOf? (m - 1) = some v ∧ t.vibhagOf? m = some w ∧ v < w) ↔
    m ∈ t.vibhagStarts ∧ m ≠ 1
  rises_by_one : ∀ m v w, t.vibhagOf? (m - 1) = some v → t.vibhagOf? m = some w → v < w →
    w = v + 1

/-- **Vibhags divide a cycle.** The vibhag that a matra lies in is the one that begins at or before
it and ends at or after it, and only numbers that are no matras lie in none. Through the cycle it
rises by one where a vibhag begins, and nowhere else. -/
theorem vibhags_divide_cycle (t : Taal) : t.DividedByVibhags where
  vibhag_iff m v := by
    rw [vibhagOf?_eq_some_iff, vibhagCount]
    constructor
    · rintro ⟨index, size, rfl, hsize, hlt, hle⟩
      have hstart := getElem?_vibhagStarts (t := t) index
      rw [hsize, Option.map_some] at hstart
      have hlength := (List.getElem?_eq_some_iff.mp hsize).1
      exact ⟨by omega, by omega, _, size, hstart, hsize, by omega, by omega⟩
    · rintro ⟨hpos, -, start, size, hstart, hsize, hle, hlt⟩
      rw [getElem?_vibhagStarts, hsize, Option.map_some, Option.some.injEq] at hstart
      exact ⟨v - 1, size, by omega, hsize, by omega, by omega⟩
  outside_iff m := vibhagOf?_eq_none_iff
  starts_rising := t.pairwise_vibhagStarts
  starts_head := by
    obtain ⟨size, rest, hcons⟩ := List.exists_cons_of_ne_nil t.consistent.vibhags_ne_nil
    rw [vibhagStarts, hcons]
    rfl
  starts_length := length_startsFrom 1 t.vibhagStructure
  le_of_le m n v w := vibhagOf?_le
  exists_matra v hpos hle := by
    have hsize := List.getElem?_eq_getElem (l := t.vibhagStructure) (i := v - 1) (by
      rw [vibhagCount] at hle
      omega)
    have hstart := vibhagOf?_start hsize
    rw [Nat.sub_add_cancel hpos] at hstart
    exact ⟨_, hstart⟩
  rises_iff m := by
    constructor
    · rintro ⟨v, w, hv, hw, hlt⟩
      obtain ⟨hne, hstep⟩ := vibhagOf?_step hv hw
      refine ⟨?_, hne⟩
      split at hstep
      · assumption
      · omega
    · rintro ⟨hmem, hne⟩
      obtain ⟨index, hindex⟩ := vibhagOf?_of_mem_vibhagStarts hmem
      have hpos : m ≠ 0 := by
        rintro rfl
        rw [vibhagOf?_eq_none_iff.mpr (.inl rfl)] at hindex
        cases hindex
      have hpred := vibhagOf?_pred (by omega) hindex
      rw [if_pos hmem] at hpred
      exact ⟨index, index + 1, hpred, hindex, Nat.lt_succ_self index⟩
  rises_by_one m v w hv hw hlt := by
    obtain ⟨-, hstep⟩ := vibhagOf?_step hv hw
    split at hstep
    · exact hstep
    · omega

end Sargam.Taal
