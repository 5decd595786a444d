import Denotation.Proofs.Typing.Matching
import Denotation.Proofs.Typing.Simple

/-!
# Compatibility as having a common instance

Two types are compatible exactly if there is a type without variables that is an instance of both.  Each
occurrence of a variable is replaced on its own, so no account of bindings has to be kept: the types are
walked in parallel, and where one of them has a variable, an instance of what the other one has there will
do.  Every type has an instance without variables.

The relation has no direction, then, and on types without variables it is equality.  What an alignment makes
of a type has no more instances than the type itself, so it can lose compatibility and never gains it.
-/

namespace Denotation

namespace Ty

variable {left right special : Ty}

theorem hasVariables_substitute {image : Char → Ty}
    (concrete : ∀ symbol, (image symbol).hasVariables = false) (ty : Ty) :
    (ty.substitute image).hasVariables = false := by
  induction ty with
  | const _ => rfl
  | var symbol => exact concrete symbol
  | fn _ _ domainIH rangeIH => rw [substitute, hasVariables, domainIH, rangeIH, Bool.or_false]

theorem exists_concrete_instance (ty : Ty) :
    ∃ special, special.hasVariables = false ∧ ty.HasInstance special :=
  ⟨ty.substitute fun _ => .entity, hasVariables_substitute (fun _ => rfl) ty,
    hasInstance_substitute ty _⟩

theorem exists_common_instance_of_compatible (fits : left.compatible right = true) :
    ∃ special, special.hasVariables = false ∧ left.HasInstance special ∧ right.HasInstance special := by
  induction left generalizing right with
  | const symbol =>
      cases right with
      | const other =>
          have same : symbol = other := by simpa [compatible] using fits
          subst same
          exact ⟨.const symbol, rfl, .const symbol, .const symbol⟩
      | var other => exact ⟨.const symbol, rfl, .const symbol, .var other _⟩
      | fn _ _ => cases fits
  | var symbol =>
      obtain ⟨special, concrete, isInstance⟩ := exists_concrete_instance right
      exact ⟨special, concrete, .var symbol special, isInstance⟩
  | fn domain range domainIH rangeIH =>
      cases right with
      | const _ => cases fits
      | var other =>
          obtain ⟨special, concrete, isInstance⟩ := exists_concrete_instance (.fn domain range)
          exact ⟨special, concrete, isInstance, .var other special⟩
      | fn domain' range' =>
          rw [compatible, Bool.and_eq_true] at fits
          obtain ⟨inDomain, domainConcrete, ofDomain, ofDomain'⟩ := domainIH fits.1
          obtain ⟨inRange, rangeConcrete, ofRange, ofRange'⟩ := rangeIH fits.2
          have concrete : (fn inDomain inRange).hasVariables = false := by
            rw [hasVariables, domainConcrete, rangeConcrete, Bool.or_false]
          exact ⟨.fn inDomain inRange, concrete, .fn ofDomain ofRange, .fn ofDomain' ofRange'⟩

/-- The common instance may have variables here. -/
theorem compatible_of_common_instance (ofLeft : left.HasInstance special)
    (ofRight : right.HasInstance special) : left.compatible right = true := by
  induction ofLeft generalizing right with
  | const symbol => exact ofRight.compatible
  | var symbol _ => rw [compatible]
  | fn _ _ domainIH rangeIH =>
      cases ofRight with
      | var other _ => rw [compatible_comm, compatible]
      | fn inDomain inRange => rw [compatible, domainIH inDomain, rangeIH inRange, Bool.and_self]

theorem compatible_iff_exists_common_instance :
    left.compatible right = true ↔
      ∃ special, special.hasVariables = false ∧ left.HasInstance special ∧ right.HasInstance special := by
  constructor
  · exact exists_common_instance_of_compatible
  · intro common
    obtain ⟨special, -, ofLeft, ofRight⟩ := common
    exact compatible_of_common_instance ofLeft ofRight

theorem compatible_iff_eq (leftConcrete : left.hasVariables = false)
    (rightConcrete : right.hasVariables = false) : left.compatible right = true ↔ left = right := by
  constructor
  · exact eq_of_compatible leftConcrete rightConcrete
  · intro same
    subst same
    exact compatible_self left

/-- Two types are compatible exactly if a type without variables comes from each of them by replacing every
occurrence of a variable on its own.  So compatibility has no direction, is equality on types without
variables, and holds of two types whenever it holds after one of them was specialized. -/
theorem compatibility_is_common_instance (left right : Ty) :
    (left.compatible right = true ↔
      ∃ special, special.hasVariables = false ∧ left.HasInstance special ∧ right.HasInstance special) ∧
    left.compatible right = right.compatible left ∧
    (left.hasVariables = false → right.hasVariables = false →
      (left.compatible right = true ↔ left = right)) ∧
    ∀ alignment : Alignment, (alignment.apply left).compatible right = true →
      left.compatible right = true :=
  ⟨compatible_iff_exists_common_instance, compatible_comm left right, compatible_iff_eq,
    fun _ => compatible_of_compatible_apply⟩

/-- In `<'a,<'b,'a>>` the two occurrences of `'a` stand for different types where it meets `<e,<t,t>>`, also
after `'b` was made `t`. -/
theorem compatibility_is_common_instance_repeated_variable :
    let repeated : Ty := .fn (.var 'a') (.fn (.var 'b') (.var 'a'))
    let other : Ty := .fn .entity (.fn .truth .truth)
    let alignment := Alignment.ofList [('b', .truth)]
    (alignment.apply repeated).compatible other = true ∧ repeated.compatible other = true ∧
      (∃ special, special.hasVariables = false ∧ repeated.HasInstance special ∧
        other.HasInstance special) ∧
      other.hasVariables = false ∧ Ty.predicate.hasVariables = false ∧
      (other.compatible .predicate = true ↔ other = .predicate) := by
  intro repeated other alignment
  obtain ⟨common, -, -, specialized⟩ := compatibility_is_common_instance repeated other
  obtain ⟨-, -, onConcrete, -⟩ := compatibility_is_common_instance other .predicate
  have applied : (alignment.apply repeated).compatible other = true := by decide
  have fits := specialized alignment applied
  exact ⟨applied, fits, common.mp fits, rfl, rfl, onConcrete rfl rfl⟩

end Ty

end Denotation
