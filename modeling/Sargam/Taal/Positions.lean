/-!
# Sets of positions

A set of matra numbers as the rising list of its members, so that equal sets are equal values
and the members have an order in which they are reported.

* `Positions`, `Positions.ofList`: a set, and the set of the members of a list.
* `Positions.mem_ofList`: the set of a list has the members of the list.
* `Positions.ext_mem`: sets with the same members are equal.
-/

namespace Sargam

/-- A set of matra numbers. -/
structure Positions where
  /-- The members in rising order. -/
  toList : List Nat
  rising : toList.Pairwise (· < ·)
  deriving DecidableEq

namespace Positions

/-- A rising list with one more member. -/
def insertRising (p : Nat) : List Nat → List Nat
  | [] => [p]
  | q :: rest =>
    if p < q then p :: q :: rest
    else if p = q then q :: rest
    else q :: insertRising p rest

theorem mem_insertRising {p q : Nat} {ps : List Nat} :
    q ∈ insertRising p ps ↔ q = p ∨ q ∈ ps := by
  induction ps with
  | nil => simp [insertRising]
  | cons r rest ih =>
    unfold insertRising
    split
    · simp
    · split
      · subst p
        simp
      · simp only [List.mem_cons, ih]
        constructor
        · rintro (h | h | h) <;> simp [h]
        · rintro (h | h | h) <;> simp [h]

theorem rising_insertRising (p : Nat) {ps : List Nat} (h : ps.Pairwise (· < ·)) :
    (insertRising p ps).Pairwise (· < ·) := by
  induction ps with
  | nil => simp [insertRising]
  | cons r rest ih =>
    have hr : ∀ q ∈ rest, r < q := (List.pairwise_cons.mp h).1
    unfold insertRising
    split
    · rename_i hlt
      refine List.Pairwise.cons (fun q hq => ?_) h
      rcases List.mem_cons.mp hq with rfl | hq
      · exact hlt
      · exact Nat.lt_trans hlt (hr q hq)
    · split
      · exact h
      · refine List.Pairwise.cons (fun q hq => ?_) (ih h.of_cons)
        rcases mem_insertRising.mp hq with rfl | hq
        · omega
        · exact hr q hq

/-- The empty set. -/
def empty : Positions := ⟨[], List.Pairwise.nil⟩

instance : Inhabited Positions := ⟨empty⟩

/-- A set with one more member. -/
def insert (p : Nat) (ps : Positions) : Positions :=
  ⟨insertRising p ps.toList, rising_insertRising p ps.rising⟩

/-- The set of the members of a list, in whatever order and however often they stand there. -/
def ofList (ps : List Nat) : Positions := ps.foldr insert empty

instance : Membership Nat Positions := ⟨fun ps p => p ∈ ps.toList⟩

instance (p : Nat) (ps : Positions) : Decidable (p ∈ ps) :=
  inferInstanceAs (Decidable (p ∈ ps.toList))

theorem mem_ofList {p : Nat} {ps : List Nat} : p ∈ ofList ps ↔ p ∈ ps := by
  induction ps with
  | nil => exact Iff.rfl
  | cons q rest ih =>
    exact mem_insertRising.trans ((or_congr Iff.rfl ih).trans List.mem_cons.symm)

/-- Rising lists with the same members are equal. -/
theorem eq_of_rising {ps qs : List Nat} (hp : ps.Pairwise (· < ·)) (hq : qs.Pairwise (· < ·))
    (h : ∀ p, p ∈ ps ↔ p ∈ qs) : ps = qs := by
  induction ps generalizing qs with
  | nil =>
    cases qs with
    | nil => rfl
    | cons q qs => exact absurd ((h q).mpr List.mem_cons_self) List.not_mem_nil
  | cons p ps ih =>
    cases qs with
    | nil => exact absurd ((h p).mp List.mem_cons_self) List.not_mem_nil
    | cons q qs =>
      have hps := (List.pairwise_cons.mp hp).1
      have hqs := (List.pairwise_cons.mp hq).1
      have hpq : p = q := by
        rcases List.mem_cons.mp ((h p).mp List.mem_cons_self) with heq | hmem
        · exact heq
        · rcases List.mem_cons.mp ((h q).mpr List.mem_cons_self) with heq | hmem'
          · exact heq.symm
          · exact absurd (hqs p hmem) (Nat.lt_asymm (hps q hmem'))
      subst hpq
      refine congrArg (p :: ·) (ih hp.of_cons hq.of_cons fun r => ⟨fun hr => ?_, fun hr => ?_⟩)
      · rcases List.mem_cons.mp ((h r).mp (List.mem_cons_of_mem _ hr)) with rfl | hmem
        · exact absurd (hps r hr) (Nat.lt_irrefl r)
        · exact hmem
      · rcases List.mem_cons.mp ((h r).mpr (List.mem_cons_of_mem _ hr)) with rfl | hmem
        · exact absurd (hqs r hr) (Nat.lt_irrefl r)
        · exact hmem

/-- Sets with the same members are equal. -/
theorem ext_mem {a b : Positions} (h : ∀ p, p ∈ a ↔ p ∈ b) : a = b := by
  have heq := eq_of_rising a.rising b.rising h
  cases a
  cases b
  cases heq
  rfl

/-- The set of a list depends only on its members. -/
theorem ofList_congr {ps qs : List Nat} (h : ∀ p, p ∈ ps ↔ p ∈ qs) : ofList ps = ofList qs :=
  ext_mem fun p => mem_ofList.trans ((h p).trans mem_ofList.symm)

end Positions

end Sargam
