/-! Steps that may fail, one after the other. -/

namespace CourseRegistry

-- These laws are rewritten with, and never unfolded: comparing what follows a value that is at hand
-- with what follows one that is still to be read would compute with times of day in unary.
section Outcomes

variable {ε α β : Type}

/-- What follows a value goes on with it. -/
@[simp] theorem ok_bind (value : α) (next : α → Except ε β) :
    Except.ok value >>= next = next value := by rfl

/-- Nothing follows an error. -/
@[simp] theorem error_bind (error : ε) (next : α → Except ε β) :
    Except.error error >>= next = .error error := by rfl

/-- What is made of a value is a value. -/
@[simp] theorem map_ok (f : α → β) (value : α) :
    f <$> (Except.ok value : Except ε α) = .ok (f value) := by rfl

/-- A value has no error to speak of. -/
@[simp] theorem mapError_ok {δ : Type} (f : ε → δ) (value : α) :
    (Except.ok value : Except ε α).mapError f = .ok value := by rfl

/-- What needs no step to succeed has its value at hand. -/
@[simp] theorem pure_eq_ok (value : α) : (pure value : Except ε α) = .ok value := by rfl

/-- What is said of an error does not make it a value. -/
theorem mapError_eq_ok {δ : Type} {f : ε → δ} {first : Except ε α} {value : α} :
    first.mapError f = .ok value ↔ first = .ok value := by
  -- Both sides say that there was no error to begin with.
  cases first with
  | error => exact iff_of_false nofun nofun
  | ok => rw [mapError_ok, Except.ok.injEq, Except.ok.injEq]

/-- What follows succeeds only with the value of what comes first. -/
theorem bind_eq_ok {first : Except ε α} {next : α → Except ε β} {result : β} :
    first >>= next = .ok result ↔ ∃ value, first = .ok value ∧ next value = .ok result := by
  -- Only a value has anything that follows it.
  cases first with
  | error => simp
  | ok value => simp

/-- What has no value has failed. -/
theorem exists_error_iff {first : Except ε α} :
    (∃ error, first = .error error) ↔ ∀ value, first ≠ .ok value := by
  cases first with
  | error error => exact iff_of_true ⟨error, rfl⟩ nofun
  | ok value => exact iff_of_false nofun fun none_ok => none_ok value rfl

end Outcomes

end CourseRegistry
