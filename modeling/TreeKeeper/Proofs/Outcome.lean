/-
  Results of computations that may fail: when a chain of two
  steps succeeds, and where it fails.

  Main declarations:
    * `bind_ok`
    * `bind_eq_ok_iff`
    * `map_eq_ok_iff`
    * `mapError_eq_ok_iff`
    * `toOption_eq_some_iff`
    * `bind_eq_error_iff`
    * `map_eq_error_iff`
-/

------------------------------------------------------------
-- Success
------------------------------------------------------------

namespace TreeKeeper

variable {ε α β : Type}

theorem bind_ok
    (a : α)
    (next : α → Except ε β) :
    (.ok a : Except ε α) >>= next = next a :=
  rfl

/- A chain succeeds when both of its steps do. -/
theorem bind_eq_ok_iff
    {first : Except ε α}
    {next : α → Except ε β}
    {b : β} :
    first >>= next = .ok b ↔
      ∃ a, first = .ok a ∧ next a = .ok b := by
  cases first <;> simp [bind, Except.bind]

/- A mapped result is a success of what is mapped. -/
theorem map_eq_ok_iff
    {result : Except ε α}
    {f : α → β}
    {b : β} :
    result.map f = .ok b ↔
      ∃ a, result = .ok a ∧ f a = b := by
  cases result <;> simp [Except.map]

/- Another fault does not change a success. -/
theorem mapError_eq_ok_iff
    {δ : Type}
    {result : Except ε α}
    {f : ε → δ}
    {a : α} :
    result.mapError f = .ok a ↔ result = .ok a := by
  constructor <;>
    intro h <;> cases result <;> cases h <;> rfl

/- What is left without the fault is a success. -/
theorem toOption_eq_some_iff
    {result : Except ε α}
    {a : α} :
    result.toOption = some a ↔ result = .ok a := by
  cases result <;> simp [Except.toOption]

------------------------------------------------------------
-- Failure
------------------------------------------------------------

/- A chain fails at its first or at its second step. -/
theorem bind_eq_error_iff
    {first : Except ε α}
    {next : α → Except ε β}
    {fault : ε} :
    first >>= next = .error fault ↔
      first = .error fault ∨
        ∃ a, first = .ok a ∧ next a = .error fault := by
  cases first <;> simp [bind, Except.bind]

/- A mapped result fails where what is mapped does. -/
theorem map_eq_error_iff
    {result : Except ε α}
    {f : α → β}
    {fault : ε} :
    result.map f = .error fault ↔
      result = .error fault := by
  cases result <;> simp [Except.map]

end TreeKeeper
