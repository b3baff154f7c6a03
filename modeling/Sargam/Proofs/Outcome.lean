/-!
# Outcomes

When an outcome that has been passed on, with its value or its error changed, is a success and
when it is a failure.

* `Except.map_eq_ok_iff`, `Except.mapError_eq_ok_iff`: successes.
* `Except.map_eq_error_iff`, `Except.mapError_eq_error_iff`: failures.
* `Except.exists_getElem?_of_map_eq`: the outcomes of a list that are all successes.
-/

namespace Except

variable {ε δ α β : Type}

theorem map_eq_ok_iff {f : α → β} {x : Except ε α} {b : β} :
    x.map f = .ok b ↔ ∃ a, x = .ok a ∧ f a = b := by
  cases x with
  | error e =>
    constructor
    · intro h
      cases h
    · rintro ⟨a, ha, -⟩
      cases ha
  | ok a =>
    constructor
    · intro h
      exact ⟨a, rfl, Except.ok.inj h⟩
    · rintro ⟨_, ha, rfl⟩
      cases ha
      rfl

theorem map_eq_error_iff {f : α → β} {x : Except ε α} {e : ε} :
    x.map f = .error e ↔ x = .error e := by
  cases x with
  | error other =>
    constructor
    · intro h
      cases h
      rfl
    · intro h
      cases h
      rfl
  | ok a =>
    constructor
    · intro h
      cases h
    · intro h
      cases h

theorem mapError_eq_ok_iff {f : ε → δ} {x : Except ε α} {a : α} :
    x.mapError f = .ok a ↔ x = .ok a := by
  cases x with
  | error e =>
    constructor
    · intro h
      cases h
    · intro h
      cases h
  | ok b =>
    constructor
    · intro h
      cases h
      rfl
    · intro h
      cases h
      rfl

theorem mapError_eq_error_iff {f : ε → δ} {x : Except ε α} {d : δ} :
    x.mapError f = .error d ↔ ∃ e, x = .error e ∧ f e = d := by
  cases x with
  | error e =>
    constructor
    · intro h
      exact ⟨e, rfl, Except.error.inj h⟩
    · rintro ⟨_, he, rfl⟩
      cases he
      rfl
  | ok a =>
    constructor
    · intro h
      cases h
    · rintro ⟨e, he, -⟩
      cases he

/-- Where all outcomes of a list are successes, each item has the value at its own place. -/
theorem exists_getElem?_of_map_eq {f : α → Except ε β} {as : List α} {bs : List β}
    (h : as.map f = bs.map .ok) {index : Nat} {a : α} (ha : as[index]? = some a) :
    ∃ b, bs[index]? = some b ∧ f a = .ok b := by
  have hat := congrArg (·[index]?) h
  simp only [List.getElem?_map, ha, Option.map_some] at hat
  obtain ⟨b, hb, hfa⟩ := Option.map_eq_some_iff.mp hat.symm
  exact ⟨b, hb, hfa.symm⟩

end Except
