/-!
# Outcomes of chained computations

What a computation that may fail was made of, read off from its success.
-/

namespace Denotation

variable {ε α β : Type}

theorem bind_eq_ok_iff {first : Except ε α} {next : α → Except ε β} {result : β} :
    (first >>= next) = .ok result ↔ ∃ value, first = .ok value ∧ next value = .ok result := by
  cases first with
  | error error => simp [bind, Except.bind]
  | ok value => simp [bind, Except.bind]

theorem pure_eq_ok_iff {value result : α} :
    (pure value : Except ε α) = .ok result ↔ value = result := by
  simp [pure, Except.pure]

theorem map_eq_error_iff {first : Except ε α} {change : α → β} {error : ε} :
    first.map change = .error error ↔ first = .error error := by
  cases first with
  | error found => rw [Except.map, Except.error.injEq, Except.error.injEq]
  | ok value => exact iff_of_false nofun nofun

theorem mapError_eq_ok_iff {ε' : Type} {first : Except ε α} {change : ε → ε'} {result : α} :
    first.mapError change = .ok result ↔ first = .ok result := by
  cases first with
  | error error => exact iff_of_false nofun nofun
  | ok value =>
      have unchanged : (Except.ok value : Except ε α).mapError change = .ok value := rfl
      rw [unchanged, Except.ok.injEq, Except.ok.injEq]

/-- Every error with which the computation can fail is one of those allowed. -/
def FailsOnly (Allowed : ε → Prop) (outcome : Except ε α) : Prop :=
  ∀ error, outcome = .error error → Allowed error

namespace FailsOnly

variable {Allowed : ε → Prop}

theorem ok (value : α) : FailsOnly Allowed (.ok value : Except ε α) :=
  fun _ impossible => nomatch impossible

theorem error {error : ε} (allowed : Allowed error) :
    FailsOnly Allowed (.error error : Except ε α) := by
  intro found same
  cases same
  exact allowed

theorem bind {first : Except ε α} {next : α → Except ε β} (firstFails : FailsOnly Allowed first)
    (nextFails : ∀ value, first = .ok value → FailsOnly Allowed (next value)) :
    FailsOnly Allowed (first >>= next) := by
  intro error failed
  cases outcome : first with
  | error cause =>
      rw [outcome] at failed
      cases failed
      exact firstFails error outcome
  | ok value =>
      rw [outcome] at failed
      exact nextFails value outcome error failed

theorem mono {Allowed' : ε → Prop} {outcome : Except ε α} (fails : FailsOnly Allowed outcome)
    (weaker : ∀ error, Allowed error → Allowed' error) : FailsOnly Allowed' outcome :=
  fun error failed => weaker error (fails error failed)

theorem mapError {ε' : Type} {Allowed' : ε' → Prop} {outcome : Except ε α} {change : ε → ε'}
    (fails : FailsOnly Allowed outcome) (carried : ∀ error, Allowed error → Allowed' (change error)) :
    FailsOnly Allowed' (outcome.mapError change) := by
  intro error failed
  cases result : outcome with
  | error cause =>
      rw [result] at failed
      cases failed
      exact carried cause (fails cause result)
  | ok value =>
      rw [result] at failed
      cases failed

end FailsOnly

end Denotation
