import Mathlib.Data.List.Forall2

/-! # Traversals that stop at the first error

A traversal applies a function that may fail to the members of a list in order. It succeeds when
every member does, and then its results are those of the members one by one. Otherwise its error is
that of the first member that fails, whatever comes after it.
-/

namespace FlatSheet.Traversal

variable {ε α β : Type}

/-- A step that follows another one succeeds with what the first one left. -/
theorem bind_eq_ok_iff (outcome : Except ε α) (next : α → Except ε β) (result : β) :
    outcome >>= next = .ok result ↔ ∃ value, outcome = .ok value ∧ next value = .ok result := by
  cases outcome <;> simp [bind, Except.bind]

/-- The error is that of the first step, or of the second one where the first succeeds. -/
theorem bind_eq_error_iff (outcome : Except ε α) (next : α → Except ε β) (fault : ε) :
    outcome >>= next = .error fault ↔
      outcome = .error fault ∨ ∃ value, outcome = .ok value ∧ next value = .error fault := by
  cases outcome <;> simp [bind, Except.bind]

/-- Where there is no error there is a result. -/
theorem exists_eq_ok_iff (outcome : Except ε α) :
    (∃ result, outcome = .ok result) ↔ ∀ fault, outcome ≠ .error fault := by
  cases outcome <;> simp

/-- When all results and errors of a description are those of an outcome, and the description covers
some result or some error, then it tells the outcome exactly. -/
theorem eq_iff_of_covered {outcome : Except ε α} {Result : α → Prop} {Failure : ε → Prop}
    (ok : ∀ result, Result result → outcome = .ok result)
    (error : ∀ fault, Failure fault → outcome = .error fault)
    (covered : (∃ result, Result result) ∨ ∃ fault, Failure fault) :
    (∀ result, outcome = .ok result ↔ Result result) ∧
      ∀ fault, outcome = .error fault ↔ Failure fault := by
  rcases covered with ⟨value, holds⟩ | ⟨cause, holds⟩
  · have same := ok value holds
    refine ⟨fun result => ⟨fun other => ?_, ok result⟩, fun fault => ⟨fun other => ?_, error fault⟩⟩
    · exact Except.ok.inj (same.symm.trans other) ▸ holds
    · exact nomatch same.symm.trans other
  · have same := error cause holds
    refine ⟨fun result => ⟨fun other => ?_, ok result⟩, fun fault => ⟨fun other => ?_, error fault⟩⟩
    · exact nomatch same.symm.trans other
    · exact Except.error.inj (same.symm.trans other) ▸ holds

/-- Wrapping a fault keeps the results. -/
theorem mapError_eq_ok_iff {ζ : Type} (wrap : ε → ζ) (outcome : Except ε α) (result : α) :
    outcome.mapError wrap = .ok result ↔ outcome = .ok result := by
  cases outcome <;> simp [Except.mapError]

/-- A traversal succeeds exactly with the results of all members. -/
theorem mapM_eq_ok_iff (f : α → Except ε β) (items : List α) (results : List β) :
    items.mapM f = .ok results ↔ items.map f = results.map .ok := by
  induction items generalizing results with
  | nil => cases results <;> simp [pure, Except.pure]
  | cons head tail ih =>
    rw [List.mapM_cons, List.map_cons]
    cases first : f head with
    | error fault => cases results <;> simp [bind, Except.bind]
    | ok value =>
      cases rest : tail.mapM f with
      | error fault => cases results <;> simp [bind, Except.bind, ← ih, rest]
      | ok values => cases results <;> simp [bind, Except.bind, pure, Except.pure, ← ih, rest]

/-- A traversal succeeds whenever every member does. -/
theorem exists_mapM_eq_ok_iff (f : α → Except ε β) (items : List α) :
    (∃ results, items.mapM f = .ok results) ↔ ∀ item ∈ items, ∃ result, f item = .ok result := by
  induction items with
  | nil => simp [pure, Except.pure]
  | cons head tail ih =>
    rw [List.forall_mem_cons, ← ih, List.mapM_cons]
    cases first : f head with
    | error fault => simp [bind, Except.bind]
    | ok value =>
      cases rest : tail.mapM f with
      | error fault => simp [bind, Except.bind]
      | ok values => simp [bind, Except.bind, pure, Except.pure]

/-- The error of a traversal is that of its first member that fails. -/
theorem mapM_eq_error_iff (f : α → Except ε β) (items : List α) (fault : ε) :
    items.mapM f = .error fault ↔
      ∃ (index : Nat) (item : α), items[index]? = some item ∧ f item = .error fault ∧
        ∀ earlier < index, ∀ other : α, items[earlier]? = some other →
          ∃ result, f other = .ok result := by
  induction items with
  | nil => simp [pure, Except.pure]
  | cons head tail ih =>
    rw [List.mapM_cons]
    cases first : f head with
    | error cause =>
      constructor
      · intro failed
        refine ⟨0, head, rfl, first.trans (by simpa [bind, Except.bind] using failed), ?_⟩
        intro earlier bound
        omega
      · rintro ⟨index, item, present, failed, before⟩
        cases index with
        | zero =>
          obtain rfl : head = item := by simpa using present
          simpa [bind, Except.bind, failed] using first.symm
        | succ index =>
          obtain ⟨result, succeeded⟩ := before 0 (by omega) head rfl
          rw [first] at succeeded
          contradiction
    | ok value =>
      have forward : (do let values ← tail.mapM f; pure (value :: values)) = .error fault ↔
          tail.mapM f = .error fault := by
        cases rest : tail.mapM f <;> simp [bind, Except.bind, pure, Except.pure]
      refine forward.trans (ih.trans ?_)
      constructor
      · rintro ⟨index, item, present, failed, before⟩
        refine ⟨index + 1, item, present, failed, ?_⟩
        intro earlier bound other atEarlier
        cases earlier with
        | zero =>
          obtain rfl : head = other := by simpa using atEarlier
          exact ⟨value, first⟩
        | succ earlier => exact before earlier (by omega) other atEarlier
      · rintro ⟨index, item, present, failed, before⟩
        cases index with
        | zero =>
          obtain rfl : head = item := by simpa using present
          rw [first] at failed
          contradiction
        | succ index =>
          refine ⟨index, item, present, failed, ?_⟩
          intro earlier bound other atEarlier
          exact before (earlier + 1) (by omega) other atEarlier

end FlatSheet.Traversal
