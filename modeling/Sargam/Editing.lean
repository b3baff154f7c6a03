/-!
# Editing in place

An editor changes what it holds piece by piece. What has been changed stays changed when a
later piece fails; nothing is taken back. Whether a failed edit leaves everything as it was is
therefore a matter of what it looks at before its first change.

* `Editing`: a change of a value in place, which may fail half way.
* `Editing.left`, `Editing.leftAfter`: what one change or several leave behind.
* `Editing.allOrNothing`: a change that fails before it has changed anything.
* `Editing.leftAfter_induction`: what each change keeps is kept by any number of them.
-/

namespace Sargam

/-- A change of a value in place. If it fails, the value stays as it is at that moment. -/
abbrev Editing (ε σ : Type) : Type → Type := EStateM ε σ

namespace Editing

variable {ε σ ι : Type}

instance decidableEqResult {α : Type} [DecidableEq ε] [DecidableEq σ] [DecidableEq α] :
    DecidableEq (EStateM.Result ε σ α)
  | .ok a s, .ok b t => decidable_of_iff (a = b ∧ s = t) (by simp)
  | .error e s, .error f t => decidable_of_iff (e = f ∧ s = t) (by simp)
  | .ok _ _, .error _ _ => .isFalse nofun
  | .error _ _, .ok _ _ => .isFalse nofun

/-- What a change leaves behind, whether it fails or not. -/
def left (change : Editing ε σ Unit) (s : σ) : σ :=
  match change s with
  | .ok _ left => left
  | .error _ left => left

/-- What several changes leave behind. After one that fails the next one is made all the
same. -/
def leftAfter (perform : ι → Editing ε σ Unit) (s : σ) : List ι → σ
  | [] => s
  | edit :: rest => leftAfter perform ((perform edit).left s) rest

/-- The change into the result of a function; if there is none, nothing is changed. -/
def allOrNothing (result : σ → Except ε σ) : Editing ε σ Unit := fun s =>
  match result s with
  | .ok changed => .ok () changed
  | .error fault => .error fault s

/-! ## What changes leave behind -/

/-- A failed change of this kind has changed nothing. -/
theorem eq_of_allOrNothing_eq_error {result : σ → Except ε σ} {s left : σ} {fault : ε}
    (h : allOrNothing result s = .error fault left) : left = s := by
  unfold allOrNothing at h
  split at h
  · cases h
  · cases h
    rfl

/-- What holds before a change and of its result holds of what the change leaves behind. -/
theorem left_allOrNothing {P : σ → Prop} {result : σ → Except ε σ} {s : σ} (hs : P s)
    (hresult : ∀ changed, result s = .ok changed → P changed) :
    P ((allOrNothing result).left s) := by
  unfold left allOrNothing
  cases h : result s with
  | ok changed => exact hresult changed h
  | error fault => exact hs

/-- What each change keeps is kept by any number of them. -/
theorem leftAfter_induction {P : σ → Prop} {perform : ι → Editing ε σ Unit}
    (hstep : ∀ edit s, P s → P ((perform edit).left s)) {s : σ} (hs : P s) (edits : List ι) :
    P (leftAfter perform s edits) := by
  induction edits generalizing s with
  | nil => exact hs
  | cons edit rest ih => exact ih (hstep edit s hs)

/-- What holds of the results of all-or-nothing changes is kept by any number of them. -/
theorem leftAfter_of_allOrNothing {P : σ → Prop} {perform : ι → Editing ε σ Unit}
    {apply : σ → ι → Except ε σ} (hperform : ∀ edit, perform edit = allOrNothing (apply · edit))
    (happly : ∀ s edit changed, P s → apply s edit = .ok changed → P changed) {s : σ} (hs : P s)
    (edits : List ι) : P (leftAfter perform s edits) := by
  refine leftAfter_induction (fun edit s hs => ?_) hs edits
  rw [hperform]
  exact left_allOrNothing hs fun changed => happly s edit changed hs

end Editing

end Sargam
