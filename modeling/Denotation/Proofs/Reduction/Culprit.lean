import Mathlib.Data.Nat.Basic
import Denotation.Proofs.Reduction.FirstRedex
import Denotation.Proofs.Typing.Uses
import Denotation.Term.Exposure

/-!
# What a type error blames

A type error points at something that can be found in the term.  For most errors this is plain, since
they are raised next to what they report.  Alignment is another matter: taken by itself it fails on types
of different shapes too.  But whenever it is called, the two types have been found compatible before, be it
in the opposite order or, for the uses of a bound variable, while its body was typed.  So all that is left
to fail is a variable that would have to stand for two types, or for a type that contains it.

Reduction checks and aligns in the same way, and where it fails it blames a part of the redex.
-/

namespace Denotation

/-- A variable would have to stand for two different types, or for a larger one that contains it. -/
def AlignmentError.IsGenuine : AlignmentError → Prop
  | .conflictingBinding _ bound found => bound ≠ found
  | .occursCheck symbol ty => ty.mentions symbol = true ∧ ty ≠ .var symbol
  | .shapeMismatch _ _ => False
  | .constantClash _ _ => False

/-- What the error reports is there in the term, and is at fault. -/
def TypeError.HasCulpritIn (term : Term) : TypeError → Prop
  | .mismatch expected found subterm =>
      Term.OccursInside subterm term ∧ subterm.typeOf = .ok found ∧ expected.compatible found = false
  | .notAFunction function found =>
      (∃ argument, Term.OccursIn (.app function argument) term) ∧ function.typeOf = .ok found ∧
        found.isFunction = false
  | .constantBound id => id.kind = .const ∧ ∃ kind body, Term.OccursIn (.binder kind id body) term
  | .unknownIdentifier _ => False
  | .alignment error => error.IsGenuine

section Alignment

variable {alignment : Alignment} {symbol : Char} {ty variableSided concrete : Ty}

theorem Alignment.failsOnly_bind :
    FailsOnly AlignmentError.IsGenuine (alignment.bind symbol ty) := by
  unfold bind
  split
  · split
    · exact .ok alignment
    · rename_i differ
      exact .error differ
  · split
    · rename_i occurs
      exact .error ⟨occurs.2, occurs.1⟩
    · exact .ok _

theorem Alignment.isGenuine_of_meetAll {demands : List Demand} {error : AlignmentError}
    (unrefused : ∀ error, .refuse error ∉ demands)
    (failed : (alignment.meetAll demands).fault = some error) : error.IsGenuine := by
  induction demands generalizing alignment with
  | nil => cases failed
  | cons demand rest restIH =>
      rw [meetAll] at failed
      split at failed
      · exact restIH (fun error member => unrefused error (List.mem_cons_of_mem _ member)) failed
      · rename_i cause unmet
        cases failed
        cases demand with
        | refuse error => exact absurd List.mem_cons_self (unrefused error)
        | bind symbol ty => exact failsOnly_bind error unmet

/-- Compatible types have no different shapes or constants. -/
theorem Alignment.failsOnly_refine (alignment : Alignment)
    (fits : variableSided.compatible concrete = true) :
    FailsOnly AlignmentError.IsGenuine (alignment.refine variableSided concrete).result := by
  intro error failed
  have unrefused := Ty.compatible_iff_forall_refuse_not_mem.mp fits
  have fault : (alignment.refine variableSided concrete).fault = some error :=
    Refinement.result_eq_error_iff.mp failed
  exact isGenuine_of_meetAll unrefused fault

end Alignment

namespace Term

/-- The error reports that a variable cannot be aligned. -/
def IsMisalignment (error : TypeError) : Prop :=
  ∃ cause : AlignmentError, error = .alignment cause ∧ cause.IsGenuine

variable {bound : Ident} {alignment : Alignment} {term function argument : Term} {ty : Ty}

section Uses

variable {variableSided expected found : Ty}

theorem failsOnly_constrain (fits : variableSided.compatible expected = true) :
    FailsOnly IsMisalignment (constrain alignment variableSided expected) := by
  unfold constrain
  split
  · exact .ok alignment
  · exact (alignment.failsOnly_refine fits).mapError fun cause genuine => ⟨cause, rfl, genuine⟩

theorem failsOnly_constrainUse {subterm : Term} (typed : subterm.typeOf = .ok found)
    (fits : expected.compatible found = true) :
    FailsOnly IsMisalignment (constrainUse alignment bound subterm expected) := by
  unfold constrainUse
  split
  · rename_i isUse
    subst isUse
    cases typed
    exact failsOnly_constrain (by rw [Ty.compatible_comm, fits])
  · exact .ok alignment

theorem failsOnly_constrainSide {side other : Term} {sideTy otherTy : Ty}
    (sideTyped : side.typeOf = .ok sideTy) (otherTyped : other.typeOf = .ok otherTy)
    (fits : sideTy.compatible otherTy = true) :
    FailsOnly IsMisalignment (constrainSide alignment bound side other) := by
  unfold constrainSide
  split
  · rename_i isUse
    subst isUse
    cases sideTyped
    rw [otherTyped]
    exact failsOnly_constrain fits
  · exact .ok alignment

theorem failsOnly_constrainArgument {domain range argumentTy : Ty}
    (functionTyped : function.typeOf = .ok (.fn domain range))
    (argumentTyped : argument.typeOf = .ok argumentTy) (fits : domain.compatible argumentTy = true) :
    FailsOnly IsMisalignment (constrainArgument alignment bound function argument) := by
  unfold constrainArgument
  split
  · rename_i isUse
    subst isUse
    cases argumentTyped
    rw [functionTyped]
    exact failsOnly_constrain (by rw [Ty.compatible_comm, fits])
  · exact .ok alignment

theorem failsOnly_constrainFunction {domain range argumentTy : Ty}
    (functionTyped : function.typeOf = .ok (.fn domain range))
    (argumentTyped : argument.typeOf = .ok argumentTy) (fits : domain.compatible argumentTy = true) :
    FailsOnly IsMisalignment (constrainFunction alignment bound function argument) := by
  unfold constrainFunction
  split
  · rename_i isUse
    subst isUse
    simp only [typeOf, Except.ok.injEq] at functionTyped
    rw [functionTyped, argumentTyped]
    exact failsOnly_constrain fits
  · exact .ok alignment

/-- In a term that has a type, every use of a bound variable has passed a check of compatibility. -/
theorem failsOnly_alignUses (typed : term.typeOf = .ok ty) :
    FailsOnly IsMisalignment (term.alignUses bound alignment) := by
  -- The check that typed a node is the one its uses are aligned at, with the two types exchanged where
  -- the variable stands on the side of the found type.
  induction term generalizing alignment ty with
  | ident id => exact .ok alignment
  | binder kind inner body bodyIH =>
      rw [alignUses_binder]
      split
      · exact .ok alignment
      · obtain ⟨bodyTy, bodyTyped⟩ := exists_typeOf_of_mem_parts typed (List.mem_singleton_self body)
        refine .bind ?_ fun _ _ => bodyIH bodyTyped
        split
        · exact .ok alignment
        · rename_i notLambda
          obtain ⟨found, bodyTyped', fits⟩ := exists_truth_of_typeOf_binder notLambda typed
          exact failsOnly_constrainUse bodyTyped' fits
  | not operand operandIH =>
      obtain ⟨⟨found, operandTyped, fits⟩, -⟩ := typeOf_not_eq_ok_iff.mp typed
      exact .bind (failsOnly_constrainUse operandTyped fits) fun _ _ => operandIH operandTyped
  | binary connective left right leftIH rightIH =>
      obtain ⟨⟨leftTy, leftTyped, leftFits⟩, ⟨rightTy, rightTyped, rightFits⟩, -⟩ :=
        typeOf_binary_eq_ok_iff.mp typed
      refine .bind (failsOnly_constrainUse leftTyped leftFits) fun _ _ => ?_
      refine .bind (leftIH leftTyped) fun _ _ => ?_
      exact .bind (failsOnly_constrainUse rightTyped rightFits) fun _ _ => rightIH rightTyped
  | equal left right leftIH rightIH =>
      obtain ⟨leftTy, rightTy, leftTyped, rightTyped, fits, -⟩ := typeOf_equal_eq_ok_iff.mp typed
      have fits' : rightTy.compatible leftTy = true := by rw [Ty.compatible_comm, fits]
      rw [alignUses_equal]
      refine .bind (failsOnly_constrainSide leftTyped rightTyped fits) fun _ _ => ?_
      refine .bind (failsOnly_constrainSide rightTyped leftTyped fits') fun _ _ => ?_
      exact .bind (leftIH leftTyped) fun _ _ => rightIH rightTyped
  | app function argument functionIH argumentIH =>
      obtain ⟨domain, range, argumentTy, functionTyped, argumentTyped, fits, -⟩ :=
        typeOf_app_eq_ok_iff.mp typed
      rw [alignUses_app]
      refine .bind (failsOnly_constrainArgument functionTyped argumentTyped fits) fun _ _ => ?_
      refine .bind (failsOnly_constrainFunction functionTyped argumentTyped fits) fun _ _ => ?_
      exact .bind (functionIH functionTyped) fun _ _ => argumentIH argumentTyped

theorem failsOnly_usesAlignment {body : Term} (typed : body.typeOf = .ok ty) :
    FailsOnly IsMisalignment (usesAlignment bound body) := by
  unfold usesAlignment
  split
  · exact failsOnly_alignUses typed
  · exact .ok Alignment.empty

end Uses

theorem IsMisalignment.hasCulpritIn {error : TypeError} (misaligns : IsMisalignment error) :
    error.HasCulpritIn term := by
  obtain ⟨cause, rfl, genuine⟩ := misaligns
  exact genuine

section Parts

variable {part subterm : Term} {error : TypeError}

theorem OccursInside.of_part (number : Nat) (isPart : term.parts[number]? = some part)
    (occurs : OccursIn subterm part) : OccursInside subterm term := by
  obtain ⟨path, found⟩ := occurs
  exact ⟨number :: path, nofun, by rw [at?_cons, isPart, Option.bind_some, found]⟩

theorem OccursIn.refl (term : Term) : OccursIn term term := ⟨[], rfl⟩

theorem hasCulpritIn_of_part (number : Nat) (isPart : term.parts[number]? = some part)
    (culprit : error.HasCulpritIn part) : error.HasCulpritIn term := by
  cases error with
  | mismatch expected found subterm =>
      obtain ⟨⟨path, -, occurs⟩, unfit⟩ := culprit
      exact ⟨.of_part number isPart ⟨path, occurs⟩, unfit⟩
  | notAFunction function found =>
      obtain ⟨⟨argument, occurs⟩, unfit⟩ := culprit
      exact ⟨⟨argument, .of_part number isPart occurs⟩, unfit⟩
  | constantBound id =>
      obtain ⟨isConst, kind, body, occurs⟩ := culprit
      exact ⟨isConst, kind, body, .of_part number isPart occurs⟩
  | unknownIdentifier name => exact culprit
  | alignment error => exact culprit

theorem hasCulpritIn_of_at? {path : Path} (found : term.at? path = some subterm)
    (culprit : error.HasCulpritIn subterm) : error.HasCulpritIn term := by
  induction path generalizing term with
  | nil =>
      cases found
      exact culprit
  | cons number rest induction =>
      rw [at?_cons] at found
      obtain ⟨part, isPart, below⟩ := Option.bind_eq_some_iff.mp found
      exact hasCulpritIn_of_part number isPart (induction below)

theorem failsOnly_of_part {α : Type} {outcome : Except TypeError α} (number : Nat)
    (isPart : term.parts[number]? = some part)
    (fails : FailsOnly (TypeError.HasCulpritIn part) outcome) :
    FailsOnly (TypeError.HasCulpritIn term) outcome :=
  fails.mono fun _ => hasCulpritIn_of_part number isPart

theorem failsOnly_fit (number : Nat) (isPart : term.parts[number]? = some part) {expected found : Ty}
    (typed : part.typeOf = .ok found) :
    FailsOnly (TypeError.HasCulpritIn term) (fit expected part found) := by
  unfold fit
  split
  · exact .ok ()
  · rename_i unfit
    exact .error ⟨.of_part number isPart (.refl part), typed, Bool.eq_false_iff.mpr unfit⟩

theorem hasCulpritIn_constantBound {kind : BinderKind} {body : Term} (notVar : ¬ bound.isVar = true) :
    (TypeError.constantBound bound).HasCulpritIn (.binder kind bound body) := by
  refine ⟨?_, kind, body, .refl _⟩
  cases isConst : bound.kind with
  | var => simp [Ident.isVar, isConst] at notVar
  | const => rfl

end Parts

theorem failsOnly_applicationType {functionTy argumentTy : Ty}
    (functionTyped : function.typeOf = .ok functionTy)
    (argumentTyped : argument.typeOf = .ok argumentTy) :
    FailsOnly (TypeError.HasCulpritIn (.app function argument))
      (applicationType function argument functionTy argumentTy) := by
  cases functionTy with
  | const symbol => exact .error ⟨⟨argument, .refl _⟩, functionTyped, rfl⟩
  | var symbol => exact .error ⟨⟨argument, .refl _⟩, functionTyped, rfl⟩
  | fn domain range =>
      refine .bind (failsOnly_fit 1 rfl argumentTyped) fun _ fits => ?_
      rw [fit_eq_ok_iff] at fits
      split
      · refine .bind ?_ fun alignment _ => .ok _
        exact (Alignment.empty.failsOnly_refine fits).mapError fun _ genuine => genuine
      · exact .ok range

theorem failsOnly_typeOf (term : Term) : FailsOnly (TypeError.HasCulpritIn term) term.typeOf := by
  induction term with
  | ident id => exact .ok id.ty
  | binder kind bound body bodyIH =>
      have inBody : FailsOnly (TypeError.HasCulpritIn (.binder kind bound body)) body.typeOf :=
        failsOnly_of_part 0 rfl bodyIH
      by_cases isVar : bound.isVar = true
      · cases kind with
        | lambda =>
            rw [typeOf_lambda isVar]
            refine .bind inBody fun bodyTy bodyTyped => ?_
            have uses : FailsOnly IsMisalignment (usesAlignment bound body) :=
              failsOnly_usesAlignment bodyTyped
            exact .bind (uses.mono fun _ misaligns => misaligns.hasCulpritIn) fun _ _ => .ok _
        | existential | universal =>
            rw [typeOf, if_pos isVar]
            refine .bind inBody fun bodyTy bodyTyped => ?_
            exact .bind (failsOnly_fit 0 rfl bodyTyped) fun _ _ => .ok _
        | iota =>
            rw [typeOf_iota isVar]
            refine .bind inBody fun bodyTy bodyTyped => ?_
            refine .bind (failsOnly_fit 0 rfl bodyTyped) fun _ _ => ?_
            have uses : FailsOnly IsMisalignment (usesAlignment bound body) :=
              failsOnly_usesAlignment bodyTyped
            exact .bind (uses.mono fun _ misaligns => misaligns.hasCulpritIn) fun _ _ => .ok _
      · have rejected : (Term.binder kind bound body).typeOf = .error (.constantBound bound) := by
          cases kind <;> exact if_neg isVar
        rw [rejected]
        exact .error (hasCulpritIn_constantBound isVar)
  | not operand operandIH =>
      refine .bind (failsOnly_of_part 0 rfl operandIH) fun operandTy operandTyped => ?_
      exact .bind (failsOnly_fit 0 rfl operandTyped) fun _ _ => .ok _
  | binary connective left right leftIH rightIH =>
      refine .bind (failsOnly_of_part 0 rfl leftIH) fun leftTy leftTyped => ?_
      refine .bind (failsOnly_fit 0 rfl leftTyped) fun _ _ => ?_
      refine .bind (failsOnly_of_part 1 rfl rightIH) fun rightTy rightTyped => ?_
      exact .bind (failsOnly_fit 1 rfl rightTyped) fun _ _ => .ok _
  | equal left right leftIH rightIH =>
      refine .bind (failsOnly_of_part 0 rfl leftIH) fun leftTy leftTyped => ?_
      refine .bind (failsOnly_of_part 1 rfl rightIH) fun rightTy rightTyped => ?_
      exact .bind (failsOnly_fit 1 rfl rightTyped) fun _ _ => .ok _
  | app function argument functionIH argumentIH =>
      refine .bind (failsOnly_of_part 0 rfl functionIH) fun functionTy functionTyped => ?_
      refine .bind (failsOnly_of_part 1 rfl argumentIH) fun argumentTy argumentTyped => ?_
      exact failsOnly_applicationType functionTyped argumentTyped

theorem failsOnly_contract (bound : Ident) (body argument : Term) :
    FailsOnly (TypeError.HasCulpritIn (.app (.binder .lambda bound body) argument))
      (contract bound body argument) := by
  unfold contract
  split
  · refine .bind (failsOnly_of_part 1 rfl (failsOnly_typeOf argument)) fun argumentTy typed => ?_
    refine .bind (failsOnly_fit 1 rfl typed) fun _ fits => ?_
    rw [fit_eq_ok_iff] at fits
    split
    · refine .bind ?_ fun alignment _ => .ok _
      exact (Alignment.empty.failsOnly_refine fits).mapError fun _ genuine => genuine
    · exact .ok _
  · rename_i notVar
    exact .error (hasCulpritIn_of_part 0 rfl (hasCulpritIn_constantBound notVar))

/-- A step fails where its redex cannot be contracted. -/
theorem failsOnly_reduceOnce (term : Term) :
    FailsOnly (fun error => ∃ cause, error = .typing cause ∧ cause.HasCulpritIn term)
      term.reduceOnce := by
  intro error failed
  have reducible : ¬ term.IsNormal := by
    intro normal
    rw [reduceOnce_eq_none_iff.mpr normal] at failed
    cases failed
  obtain ⟨path, redex, isFirst⟩ := exists_isFirstRedex reducible
  obtain ⟨bound, body, argument, rfl⟩ := isRedex_eq_true_iff.mp isFirst.isRedex
  rw [isFirst.reduceOnce_eq, contractAt, map_eq_error_iff] at failed
  have fails : FailsOnly (fun error => ∃ cause, error = .typing cause ∧ cause.HasCulpritIn term)
      ((contract bound body argument).mapError ConversionError.typing) :=
    (failsOnly_contract bound body argument).mapError fun cause culprit =>
      ⟨cause, rfl, hasCulpritIn_of_at? isFirst.found culprit⟩
  exact fails error failed

/-- Every error of typing has its culprit in the term, and so has every error of a reduction step, which
is always one of typing. -/
theorem errors_have_culprits (term : Term) :
    (∀ error, term.typeOf = .error error → error.HasCulpritIn term) ∧
    ∀ error, term.reduceOnce = .error error →
      ∃ cause, error = .typing cause ∧ cause.HasCulpritIn term :=
  ⟨failsOnly_typeOf term, failsOnly_reduceOnce term⟩

/-- In `λx:'a[Happy(x) ∧ ¬x]` the variable is used as an entity and as a truth value, and in
`¬(λx:e[x = j])(p)` the argument is a truth value. -/
theorem errors_have_culprits_in_conflicting_uses :
    let x : Ident := ⟨.var, "x", .var 'a'⟩
    let happy := Term.ident ⟨.const, "Happy", .predicate⟩
    let term := lambda x (.binary .and (.app happy (.ident x)) (.not (.ident x)))
    let error := AlignmentError.conflictingBinding 'a' .entity .truth
    let y : Ident := ⟨.var, "y", .entity⟩
    let j := Term.ident ⟨.const, "j", .entity⟩
    let p := Term.ident ⟨.const, "p", .truth⟩
    let negation := Term.not (.app (lambda y (.equal (.ident y) j)) p)
    term.typeOf = .error (.alignment error) ∧ error.IsGenuine ∧
      negation.reduceOnce = .error (.typing (.mismatch .entity .truth p)) ∧
      (TypeError.mismatch .entity .truth p).HasCulpritIn negation := by
  intro x happy term error y j p negation
  have untyped : term.typeOf = .error (.alignment error) := rfl
  have stuck : negation.reduceOnce = .error (.typing (.mismatch .entity .truth p)) := rfl
  obtain ⟨cause, same, culprit⟩ := (errors_have_culprits negation).2 _ stuck
  cases same
  exact ⟨untyped, (errors_have_culprits term).1 _ untyped, stuck, culprit⟩

end Term

end Denotation
