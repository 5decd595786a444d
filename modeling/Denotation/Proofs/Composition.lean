import Mathlib.Data.List.Basic
import Denotation.Composition
import Denotation.Proofs.Typing.Uses

/-!
# Types of composed meanings

Functional application reports the type that it has derived for the meaning it built, lambda abstraction
and the rule for single daughters report one that follows from the daughter's.  Predicate modification
reports `<e,t>` for any two sisters that are compatible with this type, and these need not be predicates:
a sister whose type is a variable cannot be applied at all, and one of the type `<'a,'a>` takes an
entity to an entity.  With any other two sisters the meaning has the reported type.
-/

namespace Denotation

/-- A type of functions that take an entity to what can be a truth value: it is compatible with `<e,t>`,
and its domain and range are not the same variable. -/
def Ty.IsPredicative (ty : Ty) : Prop :=
  predicate.compatible ty = true ∧ ∃ domain range, ty = .fn domain range ∧ domain ≠ range

/-- What a type compatible with `e` is aligned to. -/
theorem Ty.exists_align_entity {domain : Ty} (fits : entity.compatible domain = true) :
    ∃ alignment : Alignment, domain.align entity = .ok alignment ∧
      ∀ symbol, alignment.get? symbol = if domain = .var symbol then some entity else none := by
  cases domain with
  | const symbol =>
      obtain rfl : 'e' = symbol := by simpa [entity, compatible] using fits
      exact ⟨.empty, rfl, fun _ => rfl⟩
  | var symbol =>
      refine ⟨Alignment.empty.insert symbol entity, rfl, fun sought => ?_⟩
      rw [Alignment.get?_insert]
      simp [Alignment.get?_empty]
  | fn _ _ => simp [entity, compatible] at fits

/-- When entities take the place of the domain, only a range that is the same variable becomes a type that
truth values do not have. -/
theorem Ty.truth_compatible_apply_iff {domain range : Ty} {alignment : Alignment}
    (fits : predicate.compatible (.fn domain range) = true)
    (bindings : ∀ symbol, alignment.get? symbol = if domain = .var symbol then some entity else none) :
    truth.compatible (alignment.apply range) = true ↔ domain ≠ range := by
  simp only [predicate, compatible, Bool.and_eq_true] at fits
  obtain ⟨domainFits, rangeFits⟩ := fits
  cases range with
  | const symbol =>
      refine iff_of_true rangeFits ?_
      rintro rfl
      obtain rfl : 't' = symbol := by simpa [truth, compatible] using rangeFits
      revert domainFits
      decide
  | var symbol =>
      rw [Alignment.apply, bindings]
      by_cases same : domain = .var symbol
      · rw [if_pos same]
        exact iff_of_false (by simp [truth, entity, compatible]) fun differ => differ same
      · rw [if_neg same]
        exact iff_of_true rfl same
  | fn _ _ => simp [truth, compatible] at rangeFits

namespace Term

variable {left right sister : Term} {leftTy rightTy ty : Ty} {z : Ident}

theorem exists_typeOf_app_entity {domain range : Ty} (typed : sister.typeOf = .ok (.fn domain range))
    (fits : Ty.entity.compatible domain = true) (isEntity : z.ty = .entity) :
    ∃ alignment : Alignment, (Term.app sister (.ident z)).typeOf = .ok (alignment.apply range) ∧
      ∀ symbol, alignment.get? symbol = if domain = .var symbol then some .entity else none := by
  obtain ⟨alignment, aligned, bindings⟩ := Ty.exists_align_entity fits
  have variableTyped : (Term.ident z).typeOf = .ok .entity := by rw [typeOf, isEntity]
  have fits' : domain.compatible .entity = true := by rw [Ty.compatible_comm, fits]
  refine ⟨alignment, typeOf_app_eq_ok_iff.mpr
    ⟨domain, range, .entity, typed, variableTyped, fits', ?_⟩, bindings⟩
  split
  · exact ⟨alignment, aligned, rfl⟩
  · rename_i concrete
    simp only [Ty.hasVariables, Bool.not_eq_true, Bool.or_eq_false_iff] at concrete
    exact (alignment.apply_of_concrete concrete.2).symm

/-- A sister can be applied to an entity variable to give a truth value exactly if its type is that of a
predicate. -/
theorem exists_typeOf_app_entity_iff (typed : sister.typeOf = .ok ty)
    (fits : Ty.predicate.compatible ty = true) (isEntity : z.ty = .entity) :
    (∃ found, (Term.app sister (.ident z)).typeOf = .ok found ∧ Ty.truth.compatible found = true) ↔
      ty.IsPredicative := by
  constructor
  · rintro ⟨found, applied, foundFits⟩
    obtain ⟨domain, range, _, typed', -⟩ := typeOf_app_eq_ok_iff.mp applied
    cases typed.symm.trans typed'
    have domainFits := (Bool.and_eq_true _ _ ▸ fits).1
    obtain ⟨alignment, applied', bindings⟩ := exists_typeOf_app_entity typed domainFits isEntity
    cases applied.symm.trans applied'
    exact ⟨fits, domain, range, rfl, (Ty.truth_compatible_apply_iff fits bindings).mp foundFits⟩
  · rintro ⟨-, domain, range, rfl, differ⟩
    have domainFits := (Bool.and_eq_true _ _ ▸ fits).1
    obtain ⟨alignment, applied, bindings⟩ := exists_typeOf_app_entity typed domainFits isEntity
    exact ⟨_, applied, (Ty.truth_compatible_apply_iff fits bindings).mpr differ⟩

/-- An abstraction over an entity variable is not specialized. -/
theorem typeOf_lambda_entity (isVar : z.isVar = true) (isEntity : z.ty = .entity) (body : Term)
    {ty : Ty} :
    (Term.lambda z body).typeOf = .ok (.fn .entity ty) ↔ body.typeOf = .ok ty := by
  have unspecialized : usesAlignment z body = .ok .empty := by
    simp [usesAlignment, isEntity, Ty.entity, Ty.hasVariables]
  simp [lambda, typeOf_lambda_eq_ok_iff, isVar, unspecialized, isEntity, Alignment.apply_empty]

theorem typeOf_modification_eq_ok_iff (leftTyped : left.typeOf = .ok leftTy)
    (rightTyped : right.typeOf = .ok rightTy) (leftFits : Ty.predicate.compatible leftTy = true)
    (rightFits : Ty.predicate.compatible rightTy = true) :
    (left.modification right).typeOf = .ok .predicate ↔
      leftTy.IsPredicative ∧ rightTy.IsPredicative := by
  have isEntity : (modificationVariable left right).ty = .entity := rfl
  rw [modification, Ty.predicate, typeOf_lambda_entity rfl isEntity, typeOf_binary_eq_ok_iff,
    exists_typeOf_app_entity_iff leftTyped leftFits isEntity,
    exists_typeOf_app_entity_iff rightTyped rightFits isEntity]
  simp only [and_true]

end Term

/-- The outcome carries this meaning and says that it has this type. -/
def Composition.Reports (composition : Composition) (meaning : Term) (ty : Ty) : Prop :=
  composition.meaning? = some meaning ∧ composition.meaningTy? = some ty

namespace CompositionConfig

variable {config : CompositionConfig} {left right : Term} {leftTy rightTy : Ty}
  {composition : Composition}

theorem functionApplication?_eq_some_iff {side : Side} {function argument : Term}
    {functionTy argumentTy : Ty} :
    functionApplication? side function argument functionTy argumentTy = some composition ↔
      functionTy.accepts argumentTy = true ∧ ∃ ty, (Term.app function argument).typeOf = .ok ty ∧
        .functionApplication side (.app function argument) ty = composition := by
  unfold functionApplication?
  split
  · rename_i accepted
    cases (Term.app function argument).typeOf <;> simp [accepted]
  · rename_i rejected
    simp [rejected]

/-- Which rule may have combined two sisters, and what is known of them then. -/
inductive Combined (config : CompositionConfig) (left right : Term) (leftTy rightTy : Ty) :
    Composition → Prop where
  | leftApplied {ty : Ty} : (Term.app left right).typeOf = .ok ty →
      Combined config left right leftTy rightTy (.functionApplication .left (.app left right) ty)
  | rightApplied {ty : Ty} : (Term.app right left).typeOf = .ok ty →
      Combined config left right leftTy rightTy (.functionApplication .right (.app right left) ty)
  | modified : config.predicateModification = true → Ty.predicate.compatible leftTy = true →
      Ty.predicate.compatible rightTy = true →
      Combined config left right leftTy rightTy
        (.predicateModification (left.modification right) .predicate)
  | undetermined : Combined config left right leftTy rightTy (.undetermined leftTy rightTy)

theorem combined_combine (config : CompositionConfig) (left right : Term) (leftTy rightTy : Ty) :
    config.Combined left right leftTy rightTy (config.combine left right leftTy rightTy) := by
  unfold combine
  split
  · rename_i applied
    obtain ⟨-, ty, typed, rfl⟩ := functionApplication?_eq_some_iff.mp applied
    exact .leftApplied typed
  · split
    · rename_i applied
      obtain ⟨-, ty, typed, rfl⟩ := functionApplication?_eq_some_iff.mp applied
      exact .rightApplied typed
    · split
      · rename_i available
        simp only [Bool.and_eq_true] at available
        exact .modified available.1.1 available.1.2 available.2
      · exact .undetermined

theorem combined_of_resolve (resolved : config.resolve left right = .ok composition) :
    ∃ leftTy rightTy, left.typeOf = .ok leftTy ∧ right.typeOf = .ok rightTy ∧
      config.Combined left right leftTy rightTy composition := by
  simp only [resolve, bind_eq_ok_iff, pure_eq_ok_iff] at resolved
  obtain ⟨leftTy, leftTyped, rightTy, rightTyped, rfl⟩ := resolved
  exact ⟨leftTy, rightTy, leftTyped, rightTyped, combined_combine config left right leftTy rightTy⟩

theorem typeOf_of_resolve {meaning : Term} {ty : Ty}
    (resolved : config.resolve left right = .ok composition)
    (reported : composition.Reports meaning ty) :
    meaning.typeOf = .ok ty ↔
      (composition.rule = .predicateModification →
        ∃ leftTy rightTy, left.typeOf = .ok leftTy ∧ right.typeOf = .ok rightTy ∧
          leftTy.IsPredicative ∧ rightTy.IsPredicative) := by
  obtain ⟨leftTy, rightTy, leftTyped, rightTyped, combined⟩ := combined_of_resolve resolved
  obtain ⟨isMeaning, isTy⟩ := reported
  cases combined with
  | leftApplied typed | rightApplied typed =>
      cases isMeaning
      cases isTy
      exact iff_of_true typed nofun
  | modified _ leftFits rightFits =>
      cases isMeaning
      cases isTy
      rw [Term.typeOf_modification_eq_ok_iff leftTyped rightTyped leftFits rightFits]
      constructor
      · intro predicative _
        exact ⟨leftTy, rightTy, leftTyped, rightTyped, predicative⟩
      · intro predicative
        obtain ⟨_, _, leftTyped', rightTyped', predicative⟩ := predicative rfl
        cases leftTyped.symm.trans leftTyped'
        cases rightTyped.symm.trans rightTyped'
        exact predicative
  | undetermined => cases isMeaning

theorem typeOf_of_abstractOver {index : Nat} {sister meaning : Term} {ty : Ty}
    (abstracted : config.abstractOver index sister = .ok composition)
    (reported : composition.Reports meaning ty) : meaning.typeOf = .ok ty := by
  obtain ⟨sisterTy, sisterTyped, abstracted⟩ := bind_eq_ok_iff.mp abstracted
  obtain ⟨isMeaning, isTy⟩ := reported
  split at abstracted
  · obtain rfl := pure_eq_ok_iff.mp abstracted
    cases isMeaning
    cases isTy
    exact (Term.typeOf_lambda_entity rfl rfl sister).mpr sisterTyped
  · obtain rfl := pure_eq_ok_iff.mp abstracted
    cases isMeaning

end CompositionConfig

theorem typeOf_of_passUp {daughter meaning : Term} {composition : Composition} {ty : Ty}
    (passed : passUp daughter = .ok composition) (reported : composition.Reports meaning ty) :
    meaning.typeOf = .ok ty := by
  obtain ⟨daughterTy, daughterTyped, passed⟩ := bind_eq_ok_iff.mp passed
  obtain rfl := pure_eq_ok_iff.mp passed
  obtain ⟨isMeaning, isTy⟩ := reported
  cases isMeaning
  cases isTy
  exact daughterTyped

/-- The meaning of a composition has the reported type, except that predicate modification needs two
sisters that entities can be given to and that have a truth value then. -/
theorem typeOf_of_composition (config : CompositionConfig) {composition : Composition}
    {meaning : Term} {ty : Ty} (reported : composition.Reports meaning ty) :
    (∀ left right, config.resolve left right = .ok composition →
      (meaning.typeOf = .ok ty ↔
        (composition.rule = .predicateModification →
          ∃ leftTy rightTy, left.typeOf = .ok leftTy ∧ right.typeOf = .ok rightTy ∧
            leftTy.IsPredicative ∧ rightTy.IsPredicative))) ∧
    (∀ index sister, config.abstractOver index sister = .ok composition → meaning.typeOf = .ok ty) ∧
    (∀ daughter, passUp daughter = .ok composition → meaning.typeOf = .ok ty) :=
  ⟨fun _ _ resolved => CompositionConfig.typeOf_of_resolve resolved reported,
    fun _ _ abstracted => CompositionConfig.typeOf_of_abstractOver abstracted reported,
    fun _ passed => typeOf_of_passUp passed reported⟩

/-- A polymorphic predicate of type `<e,'a>` is modified like one of type `<e,t>`. -/
theorem typeOf_of_polymorphic_modification :
    let manager : Term := .ident ⟨.const, "Manager", .predicate⟩
    let special : Term := .ident ⟨.const, "Special", .fn .entity (.var 'a')⟩
    let composition := Composition.predicateModification (manager.modification special) .predicate
    CompositionConfig.resolve {} manager special = .ok composition ∧
      (manager.modification special).typeOf = .ok .predicate := by
  intro manager special composition
  have resolved : CompositionConfig.resolve {} manager special = .ok composition := rfl
  have reported : composition.Reports (manager.modification special) .predicate := ⟨rfl, rfl⟩
  refine ⟨resolved, ((typeOf_of_composition {} reported).1 manager special resolved).mpr fun _ => ?_⟩
  exact ⟨_, _, rfl, rfl, ⟨rfl, _, _, rfl, nofun⟩, ⟨rfl, _, _, rfl, nofun⟩⟩

/-- A type variable is compatible with `<e,t>`, but a sister of that type cannot be applied. -/
theorem typeOf_of_modification_unapplicable :
    let left : Term := .ident ⟨.const, "P", .var 'a'⟩
    let right : Term := .ident ⟨.const, "Q", .var 'b'⟩
    let meaning := left.modification right
    CompositionConfig.resolve {} left right = .ok (.predicateModification meaning .predicate) ∧
      (Composition.predicateModification meaning .predicate).Reports meaning .predicate ∧
      meaning.typeOf = .error (.notAFunction left (.var 'a')) :=
  ⟨rfl, ⟨rfl, rfl⟩, rfl⟩

end Denotation
