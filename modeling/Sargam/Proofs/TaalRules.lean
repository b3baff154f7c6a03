import Sargam.Proofs.Outcome
import Sargam.Proofs.WellFormed

/-!
# Rules for taals

A definition is refused for one reason, and there may be many. The rules are in an order, and the
reason that is given is that of the first rule that is broken. A rule on a set of positions is
broken by any member outside of the cycle, and the one that is named is the least. Sets are made
of lists, and neither the order nor the number of times that a position is listed is kept.

* `Taal.Definition.Breaks`: the rules that a definition breaks, by their places in the order.
* `Taal.Definition.breaks_iff`: what a rule finds is what the check at its place finds.
* `Taal.Definition.firstBroken_iff`: what is wrong with a definition is the first broken rule.
* `Taal.ofDefinition_names_first_broken_rule`: which definitions are accepted, and why the others
  are not.
-/

namespace Sargam.Taal

/-! ## Positions -/

/-- The first member of a rising list that is as wanted is the least one. -/
theorem find?_rising_eq_some_iff {ps : List Nat} (h : ps.Pairwise (· < ·)) {wanted : Nat → Bool}
    {p : Nat} : ps.find? wanted = some p ↔
      p ∈ ps ∧ wanted p = true ∧ ∀ q ∈ ps, wanted q = true → p ≤ q := by
  have hleast : ∀ p, ps.find? wanted = some p → ∀ q ∈ ps, wanted q = true → p ≤ q := by
    intro p hfind q hq hwanted
    obtain ⟨-, before, after, rfl, hbefore⟩ := List.find?_eq_some_iff_append.mp hfind
    rcases List.mem_append.mp hq with hq | hq
    · have hnot := hbefore q hq
      rw [hwanted] at hnot
      cases hnot
    · rcases List.mem_cons.mp hq with rfl | hq
      · exact Nat.le_refl q
      · have hafter := (List.pairwise_cons.mp (List.pairwise_append.mp h).2.1).1
        exact Nat.le_of_lt (hafter q hq)
  constructor
  · intro hfind
    exact ⟨List.mem_of_find?_eq_some hfind, List.find?_some hfind, hleast p hfind⟩
  · rintro ⟨hp, hwanted, hp_le⟩
    cases hfind : ps.find? wanted with
    | none => exact absurd hwanted (List.find?_eq_none.mp hfind p hp)
    | some q =>
      have hle := hleast q hfind p hp hwanted
      have hge := hp_le q (List.mem_of_find?_eq_some hfind) (List.find?_some hfind)
      rw [Nat.le_antisymm hle hge]

namespace Definition

variable {d : Definition}

/-- The least member of a set that is not the number of a matra. -/
def LeastOutside (d : Definition) (ps : Positions) (p : Nat) : Prop :=
  p ∈ ps ∧ ¬ (1 ≤ p ∧ p ≤ d.totalMatras) ∧
    ∀ q ∈ ps, ¬ (1 ≤ q ∧ q ≤ d.totalMatras) → p ≤ q

theorem outside?_eq_some_iff {ps : Positions} {p : Nat} :
    d.outside? ps = some p ↔ d.LeastOutside ps p := by
  have hwanted : ∀ q, (!d.inCycle q) = true ↔ ¬ (1 ≤ q ∧ q ≤ d.totalMatras) := by
    intro q
    rw [inCycle, Bool.not_eq_true', decide_eq_false_iff_not]
  rw [outside?, find?_rising_eq_some_iff ps.rising]
  simp only [hwanted]
  exact Iff.rfl

/-! ## Broken rules -/

/-- The rules that a definition breaks, each with its place among the rules and with the reason
that is given for it. -/
inductive Breaks (d : Definition) : Nat → String → Prop
  | total : d.totalMatras = 0 → Breaks d 0 "total matras must be positive"
  | sizes : d.vibhagStructure = [] ∨ 0 ∈ d.vibhagStructure →
      Breaks d 1 s!"vibhag structure {listText d.vibhagStructure} must contain only positive sizes"
  | sum {count : Nat} : d.vibhagStructure.sum = count → count ≠ d.totalMatras → Breaks d 2
      s!"vibhag structure {listText d.vibhagStructure} sums to {count}, not {d.totalMatras} matras"
  | sam : ¬ (1 ≤ d.sam ∧ d.sam ≤ d.totalMatras) →
      Breaks d 3 s!"sam position {d.sam} out of range (1-{d.totalMatras})"
  | khali {p : Nat} : d.LeastOutside d.khali p →
      Breaks d 4 s!"khali position {p} out of range (1-{d.totalMatras})"
  | tali {p : Nat} : d.LeastOutside d.tali p →
      Breaks d 5 s!"tali position {p} out of range (1-{d.totalMatras})"
  | samNotKhali : d.samIsKhali = true → d.sam ∉ d.khali →
      Breaks d 6 "declared sam-on-khali but sam is not a khali position"
  | samIsKhali : d.samIsKhali = false → d.sam ∈ d.khali →
      Breaks d 6 s!"sam position {d.sam} is also a khali position"
  | bols {bols : List String} : d.bols = some bols → bols.length ≠ d.totalMatras →
      Breaks d 7 s!"{bols.length} bols for {d.totalMatras} matras"

/-- The reason that is given for the first of the rules that a definition breaks. -/
def FirstBroken (d : Definition) (reason : String) : Prop :=
  ∃ place, d.Breaks place reason ∧ ∀ other text, d.Breaks other text → place ≤ other

theorem samFault?_eq_some_iff {fault : Fault} : d.samFault? = some fault ↔
    (d.samIsKhali = true ∧ d.sam ∉ d.khali ∧ fault = .samNotKhali) ∨
      (d.samIsKhali = false ∧ d.sam ∈ d.khali ∧ fault = .samIsKhali d.sam) := by
  unfold samFault?
  by_cases hmem : d.sam ∈ d.khali
  · cases d.samIsKhali <;> simp [hmem, eq_comm]
  · cases d.samIsKhali <;> simp [hmem, eq_comm]

theorem bolFault?_eq_some_iff {fault : Fault} : d.bolFault? = some fault ↔
    ∃ bols, d.bols = some bols ∧ bols.length ≠ d.totalMatras ∧
      fault = .bolCount bols.length d.totalMatras := by
  unfold bolFault?
  cases d.bols with
  | none => simp
  | some bols => simp [eq_comm]

/-- What a rule says of a definition is what the check at its place finds. -/
theorem breaks_iff {place : Nat} {reason : String} : d.Breaks place reason ↔
    ∃ fault, d.checks[place]? = some (some fault) ∧ fault.reason = reason := by
  have hsum := matraCount_eq_sum d.vibhagStructure
  constructor
  · intro h
    cases h with
    | total h => exact ⟨.noMatras, congrArg some (if_pos h), rfl⟩
    | sizes h => exact ⟨.emptyVibhag d.vibhagStructure, congrArg some (if_pos h), rfl⟩
    | sum hcount h =>
      obtain rfl := hsum.trans hcount
      exact ⟨.vibhagSum d.vibhagStructure d.totalMatras, congrArg some (if_neg h), rfl⟩
    | sam h =>
      have houtside : ¬ d.inCycle d.sam = true := by rwa [inCycle, decide_eq_true_eq]
      exact ⟨.samOutside d.sam d.totalMatras, congrArg some (if_neg houtside), rfl⟩
    | @khali p h =>
      have hfound := congrArg (Option.map (Fault.khaliOutside · d.totalMatras))
        (outside?_eq_some_iff.mpr h)
      exact ⟨.khaliOutside p d.totalMatras, congrArg some hfound, rfl⟩
    | @tali p h =>
      have hfound := congrArg (Option.map (Fault.taliOutside · d.totalMatras))
        (outside?_eq_some_iff.mpr h)
      exact ⟨.taliOutside p d.totalMatras, congrArg some hfound, rfl⟩
    | samNotKhali hmarked hmem =>
      exact ⟨.samNotKhali,
        congrArg some (samFault?_eq_some_iff.mpr (.inl ⟨hmarked, hmem, rfl⟩)), rfl⟩
    | samIsKhali hmarked hmem =>
      exact ⟨.samIsKhali d.sam,
        congrArg some (samFault?_eq_some_iff.mpr (.inr ⟨hmarked, hmem, rfl⟩)), rfl⟩
    | @bols bols hbols hlength =>
      exact ⟨.bolCount bols.length d.totalMatras,
        congrArg some (bolFault?_eq_some_iff.mpr ⟨bols, hbols, hlength, rfl⟩), rfl⟩
  · rintro ⟨fault, hcheck, rfl⟩
    match place with
    | 0 =>
      obtain ⟨h, hfault⟩ := Option.ite_none_right_eq_some.mp (Option.some.inj hcheck)
      cases hfault
      exact .total h
    | 1 =>
      obtain ⟨h, hfault⟩ := Option.ite_none_right_eq_some.mp (Option.some.inj hcheck)
      cases hfault
      exact .sizes h
    | 2 =>
      obtain ⟨h, hfault⟩ := Option.ite_none_left_eq_some.mp (Option.some.inj hcheck)
      cases hfault
      exact .sum hsum.symm h
    | 3 =>
      obtain ⟨h, hfault⟩ := Option.ite_none_left_eq_some.mp (Option.some.inj hcheck)
      cases hfault
      rw [inCycle, decide_eq_true_eq] at h
      exact .sam h
    | 4 =>
      obtain ⟨p, hp, rfl⟩ := Option.map_eq_some_iff.mp (Option.some.inj hcheck)
      exact .khali (outside?_eq_some_iff.mp hp)
    | 5 =>
      obtain ⟨p, hp, rfl⟩ := Option.map_eq_some_iff.mp (Option.some.inj hcheck)
      exact .tali (outside?_eq_some_iff.mp hp)
    | 6 =>
      rcases samFault?_eq_some_iff.mp (Option.some.inj hcheck) with
        ⟨hmarked, hmem, rfl⟩ | ⟨hmarked, hmem, rfl⟩
      · exact .samNotKhali hmarked hmem
      · exact .samIsKhali hmarked hmem
    | 7 =>
      obtain ⟨bols, hbols, hlength, rfl⟩ := bolFault?_eq_some_iff.mp (Option.some.inj hcheck)
      exact .bols hbols hlength
    | _ + 8 => cases hcheck

/-! ## The first broken rule -/

/-- What the first check with a finding finds, by its place. -/
theorem findSome?_id_eq_some_iff {checks : List (Option Fault)} {fault : Fault} :
    checks.findSome? id = some fault ↔ ∃ place : Nat, checks[place]? = some (some fault) ∧
      ∀ (other : Nat) (found : Fault), checks[other]? = some (some found) → place ≤ other := by
  rw [List.findSome?_eq_some_iff]
  constructor
  · rintro ⟨before, _, after, rfl, rfl, hbefore⟩
    refine ⟨before.length, by simp, fun other found hother => Nat.le_of_not_lt fun hlt => ?_⟩
    rw [List.getElem?_append_left hlt] at hother
    have hnone := hbefore _ (List.mem_of_getElem? hother)
    cases hnone
  · rintro ⟨place, hplace, hfirst⟩
    obtain ⟨hlt, hfault⟩ := List.getElem?_eq_some_iff.mp hplace
    refine ⟨checks.take place, some fault, checks.drop (place + 1), ?_, rfl, fun check hcheck => ?_⟩
    · rw [← hfault, ← List.drop_eq_getElem_cons hlt, List.take_append_drop]
    · obtain ⟨other, hother, hcheck⟩ := List.mem_take_iff_getElem.mp hcheck
      cases check with
      | none => rfl
      | some found =>
        have hle := hfirst other found (List.getElem?_eq_some_iff.mpr ⟨by omega, hcheck⟩)
        omega

theorem firstBroken_iff {reason : String} :
    d.FirstBroken reason ↔ ∃ fault, d.fault? = some fault ∧ fault.reason = reason := by
  simp only [fault?, findSome?_id_eq_some_iff]
  constructor
  · rintro ⟨place, hbroken, hfirst⟩
    obtain ⟨fault, hplace, hreason⟩ := breaks_iff.mp hbroken
    refine ⟨fault, ⟨place, hplace, fun other found hother => ?_⟩, hreason⟩
    exact hfirst other found.reason (breaks_iff.mpr ⟨found, hother, rfl⟩)
  · rintro ⟨fault, ⟨place, hplace, hfirst⟩, hreason⟩
    refine ⟨place, breaks_iff.mpr ⟨fault, hplace, hreason⟩, fun other text hother => ?_⟩
    obtain ⟨found, hfound, -⟩ := breaks_iff.mp hother
    exact hfirst other found hfound

end Definition

/-! ## Accepted definitions -/

variable {d : Definition}

theorem ofDefinition_eq_error_iff {i : Inconsistency} :
    ofDefinition d = .error i ↔ i.taal = d.name ∧ d.fault? = some i.fault := by
  unfold ofDefinition
  split
  · rename_i h
    refine iff_of_false nofun ?_
    rw [h]
    exact fun hfault => nomatch hfault.2
  · rename_i fault h
    obtain ⟨name, found⟩ := i
    rw [h, Except.error.injEq, Inconsistency.mk.injEq, Option.some.injEq, eq_comm (a := d.name)]

theorem exists_ofDefinition_iff : (∃ t, ofDefinition d = .ok t) ↔ d.Consistent := by
  simp only [ofDefinition_eq_ok_iff]
  constructor
  · rintro ⟨t, hconsistent, -⟩
    exact hconsistent
  · intro hconsistent
    exact ⟨⟨d, hconsistent⟩, hconsistent, rfl⟩

/-- **Refusals name the first broken rule.** A definition is accepted, and kept as it is, exactly if
its parts fit together. Any other is refused by its name for the first rule that it breaks. It makes
no difference to an outline in which order its positions are listed, or how often. -/
theorem ofDefinition_names_first_broken_rule :
    (∀ d : Definition,
      ((∃ t, ofDefinition d = .ok t) ↔
        0 < d.totalMatras ∧
        (d.vibhagStructure ≠ [] ∧ ∀ size ∈ d.vibhagStructure, 0 < size) ∧
        d.vibhagStructure.sum = d.totalMatras ∧
        (1 ≤ d.sam ∧ d.sam ≤ d.totalMatras) ∧
        (∀ p ∈ d.khali, 1 ≤ p ∧ p ≤ d.totalMatras) ∧
        (∀ p ∈ d.tali, 1 ≤ p ∧ p ≤ d.totalMatras) ∧
        (d.sam ∈ d.khali ↔ d.samIsKhali = true) ∧
        ∀ bols, d.bols = some bols → bols.length = d.totalMatras) ∧
      (∀ t, ofDefinition d = .ok t → t.toDefinition = d) ∧
      ∀ name reason, (∃ i, ofDefinition d = .error i ∧ i.taal = name ∧ i.fault.reason = reason) ↔
        name = d.name ∧ d.FirstBroken reason) ∧
    ∀ (o : Outline) (khali tali : List Nat),
      (∀ p, p ∈ khali ↔ p ∈ o.khali) → (∀ p, p ∈ tali ↔ p ∈ o.tali) →
        { o with khali, tali }.build = o.build := by
  refine ⟨fun d => ⟨?_, fun t ht => (ofDefinition_eq_ok_iff.mp ht).2, fun name reason => ?_⟩,
    fun o khali tali hkhali htali => ?_⟩
  · have hcycle : ∀ p, d.inCycle p = true ↔ 1 ≤ p ∧ p ≤ d.totalMatras :=
      fun p => decide_eq_true_iff
    have hsizes : (∀ size ∈ d.vibhagStructure, 0 < size) ↔ 0 ∉ d.vibhagStructure := by
      constructor
      · exact fun h hmem => Nat.lt_irrefl 0 (h 0 hmem)
      · exact fun h size hsize => Nat.pos_of_ne_zero fun hzero => h (hzero ▸ hsize)
    have hmark : (d.sam ∈ d.khali ↔ d.samIsKhali = true) ↔
        decide (d.sam ∈ d.khali) = d.samIsKhali := by
      cases d.samIsKhali <;> simp
    rw [exists_ofDefinition_iff, hsizes, hmark, ← matraCount_eq_sum]
    simp only [← hcycle]
    constructor
    · intro h
      exact ⟨Nat.pos_of_ne_zero h.total_ne_zero, ⟨h.vibhags_ne_nil, h.vibhags_pos⟩, h.vibhags_sum,
        h.sam_inCycle, h.khali_inCycle, h.tali_inCycle, h.sam_khali, h.bols_length⟩
    · rintro ⟨htotal, ⟨hne, hpos⟩, hsum, hsam, hkhali, htali, hmark, hbols⟩
      exact ⟨Nat.ne_of_gt htotal, hne, hpos, hsum, hsam, hkhali, htali, hmark, hbols⟩
  · rw [Definition.firstBroken_iff]
    simp only [ofDefinition_eq_error_iff]
    constructor
    · rintro ⟨⟨taal, fault⟩, ⟨rfl, hfault⟩, rfl, rfl⟩
      exact ⟨rfl, fault, hfault, rfl⟩
    · rintro ⟨rfl, fault, hfault, rfl⟩
      exact ⟨⟨d.name, fault⟩, ⟨rfl, hfault⟩, rfl, rfl⟩
  · have hsame : { o with khali, tali }.toDefinition = o.toDefinition := by
      simp only [Outline.toDefinition, Positions.ofList_congr hkhali, Positions.ofList_congr htali]
    exact congrArg ofDefinition hsame

/-- An outline with positions outside of the cycle in both sets, a first beat that is not the empty
one it is said to be, and too few syllables; and the same outline with its positions listed in
another order and twice. -/
theorem ofDefinition_names_first_broken_rule_odd :
    let o : Outline :=
      { name := "odd"
        displayName := "Odd"
        vibhags := [3, 3]
        khali := [9, 4, 7]
        tali := [0]
        samOnKhali := true
        bols := some [] }
    ((∀ p, p ∈ [7, 9, 7, 4] ↔ p ∈ o.khali) ∧ ∀ p, p ∈ [0, 0] ↔ p ∈ o.tali) ∧
      { o with khali := [7, 9, 7, 4], tali := [0, 0] }.build = o.build ∧
      (∀ t, o.build ≠ .ok t) ∧
      o.toDefinition.FirstBroken "khali position 7 out of range (1-6)" := by
  intro o
  obtain ⟨hrules, hlists⟩ := ofDefinition_names_first_broken_rule
  have hkhali : ∀ p, p ∈ [7, 9, 7, 4] ↔ p ∈ o.khali := by
    intro p
    simp only [o, List.mem_cons, List.not_mem_nil, or_false]
    omega
  have htali : ∀ p, p ∈ [0, 0] ↔ p ∈ o.tali := by
    intro p
    simp only [o, List.mem_cons, List.not_mem_nil, or_false]
    omega
  have hrefused : o.build = .error ⟨"odd", .khaliOutside 7 6⟩ := rfl
  obtain ⟨-, -, hreasons⟩ := hrules o.toDefinition
  refine ⟨⟨hkhali, htali⟩, hlists o [7, 9, 7, 4] [0, 0] hkhali htali, ?_, ?_⟩
  · intro t ht
    rw [hrefused] at ht
    cases ht
  · exact ((hreasons "odd" "khali position 7 out of range (1-6)").mp
      ⟨_, hrefused, rfl, by decide⟩).2

end Sargam.Taal
