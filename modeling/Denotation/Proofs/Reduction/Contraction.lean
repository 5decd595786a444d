import Mathlib.Data.Nat.Basic
import Denotation.Proofs.Reduction.FirstRedex
import Denotation.Proofs.Typing.Uses

/-!
# Which redexes can be contracted

Typing and contraction look at a polymorphic bound variable in different ways.  The type of an
abstraction is specialized to the uses of its variable first, and only what they leave open is aligned
with the argument.  Contraction aligns the type of the variable as it stands.  So in a redex that has a
type, a type variable that the uses leave open stands for one type in any case, but one that they fix is
compared with the argument's type only as far as compatibility goes: where the argument's type has
type variables of its own, it can face several types, or one in which it occurs.

This is the only way in which a redex that has a type cannot be contracted.
-/

namespace Denotation

/-- Faced by a type without variables, a variable that stands for such a type already faces only that
one. -/
theorem Ty.facesOne_of_bound {alignment : Alignment} {symbol : Char} {variableSided concrete : Ty}
    (alignmentConcrete : alignment.IsConcrete) (bound : alignment.get? symbol ≠ none)
    (fits : (alignment.apply variableSided).compatible concrete = true)
    (isConcrete : concrete.hasVariables = false) : FacesOne symbol variableSided concrete := by
  obtain ⟨ty, isBound⟩ := Option.ne_none_iff_exists'.mp bound
  have onlyTy : ∀ faced, Faces symbol faced variableSided concrete → faced = ty := by
    intro faced faces
    have fitsFaced := faces.compatible_of_bound isBound fits
    exact (eq_of_compatible (alignmentConcrete symbol ty isBound) (faces.faced_concrete isConcrete)
      fitsFaced).symm
  intro faced faces
  refine ⟨Or.inr (mentions_eq_false (faces.faced_concrete isConcrete)), fun other otherFaces => ?_⟩
  rw [onlyTy faced faces, onlyTy other otherFaces]

namespace Term

variable {bound : Ident} {body argument : Term}

/-- Once the kind of the bound variable and the type of the argument are right, contraction only depends
on the alignment of the two types. -/
theorem exists_betaReduce_iff {argumentTy : Ty} (isVar : bound.isVar = true)
    (argumentTyped : argument.typeOf = .ok argumentTy)
    (fits : bound.ty.compatible argumentTy = true) :
    (∃ contracted, betaReduce (.app (.binder .lambda bound body) argument) = .ok contracted) ↔
      ∀ symbol, bound.ty.FacesOne symbol argumentTy := by
  have aligned : (∃ alignment, bound.ty.align argumentTy = .ok alignment) ↔
      ∀ symbol, bound.ty.FacesOne symbol argumentTy := by
    rw [Ty.exists_align_iff]
    exact and_iff_right fits
  cases polymorphic : bound.ty.hasVariables with
  | false =>
      have contracts := betaReduce_of_concrete body isVar polymorphic argumentTyped fits
      refine iff_of_true ⟨_, contracts⟩ fun symbol faced faces => ?_
      rw [faces.hasVariables] at polymorphic
      contradiction
  | true =>
      have fit : fit bound.ty argument argumentTy = .ok () := fit_eq_ok_iff.mpr fits
      rw [← aligned]
      simp only [betaReduce, mapError_eq_ok_iff, contract, if_pos isVar, polymorphic, if_true,
        bind_eq_ok_iff, argumentTyped, pure_eq_ok_iff, Except.ok.injEq]
      constructor
      · rintro ⟨contracted, _, rfl, _, -, alignment, aligned, -⟩
        exact ⟨alignment, aligned⟩
      · rintro ⟨alignment, aligned⟩
        exact ⟨_, argumentTy, rfl, (), fit, alignment, aligned, rfl⟩

/-- A type variable of the bound variable's type that the uses in the body fix, although the argument's
type has different types in its places, or a larger one that contains it. -/
structure Misaligns (bound : Ident) (body argument : Term) (symbol : Char) : Prop where
  fixed : ∃ alignment, usesAlignment bound body = .ok alignment ∧ alignment.get? symbol ≠ none
  apart : ∃ argumentTy, argument.typeOf = .ok argumentTy ∧ ¬ bound.ty.FacesOne symbol argumentTy

/-- What the uses leave open is aligned with the argument already by typing. -/
theorem facesOne_of_unfixed {boundTy argumentTy : Ty} {alignment : Alignment} {symbol : Char}
    (unfixed : alignment.get? symbol = none)
    (applied : (alignment.apply boundTy).hasVariables = true →
      ∃ inferred, (alignment.apply boundTy).align argumentTy = .ok inferred) :
    boundTy.FacesOne symbol argumentTy := by
  intro faced faces
  have specializedFaces := faces.apply_of_unbound unfixed
  have aligned := Ty.exists_align_iff.mp (applied specializedFaces.hasVariables)
  obtain ⟨sound, agrees⟩ := aligned.2 symbol faced specializedFaces
  exact ⟨sound, fun other otherFaces => agrees other (otherFaces.apply_of_unbound unfixed)⟩

theorem exists_betaReduce_iff_of_typeOf {ty : Ty}
    (typed : (Term.app (.binder .lambda bound body) argument).typeOf = .ok ty) :
    (∃ contracted, betaReduce (.app (.binder .lambda bound body) argument) = .ok contracted) ↔
      ∀ symbol, ¬ Misaligns bound body argument symbol := by
  obtain ⟨domain, range, argumentTy, functionTyped, argumentTyped, fits, applied⟩ :=
    typeOf_app_eq_ok_iff.mp typed
  obtain ⟨isVar, bodyTy, -, alignment, uses, same⟩ := typeOf_lambda_eq_ok_iff.mp functionTyped
  cases same
  rw [exists_betaReduce_iff isVar argumentTyped (Ty.compatible_of_compatible_apply fits)]
  constructor
  · rintro facesOne symbol ⟨-, _, argumentTyped', apart⟩
    cases argumentTyped.symm.trans argumentTyped'
    exact apart (facesOne symbol)
  · intro aligns symbol
    cases fixed : alignment.get? symbol with
    | none =>
        refine facesOne_of_unfixed fixed fun polymorphic => ?_
        rw [if_pos (by simp [Ty.hasVariables, polymorphic])] at applied
        exact applied.imp fun _ aligned => aligned.1
    | some ty =>
        refine Classical.byContradiction fun apart => aligns symbol ⟨⟨alignment, uses, ?_⟩, ?_⟩
        · simp [fixed]
        · exact ⟨argumentTy, argumentTyped, apart⟩

theorem exists_betaReduce_of_concrete {ty argumentTy : Ty}
    (typed : (Term.app (.binder .lambda bound body) argument).typeOf = .ok ty)
    (argumentTyped : argument.typeOf = .ok argumentTy)
    (concrete : bound.ty.hasVariables = false ∨ argumentTy.hasVariables = false) :
    ∃ contracted, betaReduce (.app (.binder .lambda bound body) argument) = .ok contracted := by
  refine (exists_betaReduce_iff_of_typeOf typed).mpr ?_
  rintro symbol ⟨⟨alignment, uses, fixed⟩, _, argumentTyped', apart⟩
  cases argumentTyped.symm.trans argumentTyped'
  rcases concrete with boundConcrete | argumentConcrete
  · refine apart fun faced faces => ?_
    rw [faces.hasVariables] at boundConcrete
    contradiction
  · obtain ⟨domain, range, _, functionTyped, argumentTyped', fits, -⟩ :=
      typeOf_app_eq_ok_iff.mp typed
    obtain ⟨-, bodyTy, -, _, uses', same⟩ := typeOf_lambda_eq_ok_iff.mp functionTyped
    cases same
    cases argumentTyped.symm.trans argumentTyped'
    cases uses.symm.trans uses'
    exact apart
      (Ty.facesOne_of_bound (isConcrete_of_usesAlignment uses) fixed fits argumentConcrete)

/-- A redex that has a type can be contracted exactly if it does not misalign a type variable, and so in
any case if the type of the bound variable or that of the argument has no variables.  A step from a term
that has a type fails only where its first redex misaligns one. -/
theorem betaReduce_of_typeOf {term : Term} {ty : Ty} (typed : term.typeOf = .ok ty) :
    (∀ bound body argument, term = .app (.binder .lambda bound body) argument →
      ((∃ contracted, term.betaReduce = .ok contracted) ↔
        ∀ symbol, ¬ Misaligns bound body argument symbol) ∧
      ∀ argumentTy, argument.typeOf = .ok argumentTy →
        bound.ty.hasVariables = false ∨ argumentTy.hasVariables = false →
          ∃ contracted, term.betaReduce = .ok contracted) ∧
    ((∃ error, term.reduceOnce = .error error) ↔
      ∃ path bound body argument symbol,
        term.IsFirstRedex path (.app (.binder .lambda bound body) argument) ∧
          Misaligns bound body argument symbol) := by
  constructor
  · rintro bound body argument rfl
    exact ⟨exists_betaReduce_iff_of_typeOf typed,
      fun argumentTy argumentTyped => exists_betaReduce_of_concrete typed argumentTyped⟩
  · constructor
    · rintro ⟨error, failed⟩
      have reducible : ¬ term.IsNormal := by
        intro normal
        rw [reduceOnce_eq_none_iff.mpr normal] at failed
        contradiction
      obtain ⟨path, redex, isFirst⟩ := exists_isFirstRedex reducible
      obtain ⟨bound, body, argument, rfl⟩ := isRedex_eq_true_iff.mp isFirst.isRedex
      obtain ⟨redexTy, redexTyped⟩ := exists_typeOf_of_at? typed isFirst.found
      refine Classical.byContradiction fun aligns => ?_
      obtain ⟨contracted, succeeds⟩ := (exists_betaReduce_iff_of_typeOf redexTyped).mpr
        fun symbol misaligns => aligns ⟨path, bound, body, argument, symbol, isFirst, misaligns⟩
      rw [isFirst.reduceOnce_eq, contractAt, succeeds] at failed
      cases failed
    · rintro ⟨path, bound, body, argument, symbol, isFirst, misaligns⟩
      obtain ⟨redexTy, redexTyped⟩ := exists_typeOf_of_at? typed isFirst.found
      cases contracted : (Term.app (.binder .lambda bound body) argument).betaReduce with
      | error error =>
          exact ⟨error, by rw [isFirst.reduceOnce_eq, contractAt, contracted]; rfl⟩
      | ok result =>
          exact absurd misaligns
            ((exists_betaReduce_iff_of_typeOf redexTyped).mp ⟨result, contracted⟩ symbol)

/-- In `(λf[f(p)])(G)`, where `f` is of type `<'a,'a>` and `G` of type `<'b,'b>`, the use of `f` fixes `'a`
to `t`, and both places of `'a` face `'b`. -/
theorem betaReduce_of_polymorphic_argument :
    let f : Ident := ⟨.var, "f", .fn (.var 'a') (.var 'a')⟩
    let p := Term.ident ⟨.const, "p", .truth⟩
    let g := Term.ident ⟨.const, "G", .fn (.var 'b') (.var 'b')⟩
    let redex := Term.app (lambda f (.app (.ident f) p)) g
    redex.typeOf = .ok .truth ∧ (∃ contracted, redex.betaReduce = .ok contracted) ∧
      ∀ symbol, ¬ Misaligns f (.app (.ident f) p) g symbol := by
  intro f p g redex
  have typed : redex.typeOf = .ok .truth := by cbv
  obtain ⟨contracts, -⟩ := (betaReduce_of_typeOf typed).1 _ _ _ rfl
  have aligns : ∀ symbol, ¬ Misaligns f (.app (.ident f) p) g symbol := by
    rintro symbol ⟨-, _, argumentTyped, apart⟩
    cases argumentTyped
    apply apart
    have onlyB : ∀ faced, Ty.Faces symbol faced f.ty (.fn (.var 'b') (.var 'b')) →
        faced = .var 'b' ∧ symbol = 'a' := by
      rintro faced (_ | ⟨⟨⟩⟩ | ⟨⟨⟩⟩)
      · exact ⟨rfl, rfl⟩
      · exact ⟨rfl, rfl⟩
    intro faced faces
    obtain ⟨rfl, rfl⟩ := onlyB faced faces
    exact ⟨Or.inr rfl, fun other otherFaces => (onlyB other otherFaces).1⟩
  exact ⟨typed, contracts.mpr aligns, aligns⟩

/-- In `(λf[f(p)])(G)`, where `f` is of type `<'a,'a>` and `G` of type `<'b,t>`, the use of `f` fixes `'a`
to `t`, with which the type of `G` is compatible.  Contraction compares `'a` with both `'b` and `t`. -/
theorem betaReduce_misaligned :
    let f : Ident := ⟨.var, "f", .fn (.var 'a') (.var 'a')⟩
    let p := Term.ident ⟨.const, "p", .truth⟩
    let g := Term.ident ⟨.const, "G", .fn (.var 'b') .truth⟩
    let redex := Term.app (lambda f (.app (.ident f) p)) g
    let error := ConversionError.typing (.alignment (.conflictingBinding 'a' (.var 'b') .truth))
    redex.isRedex = true ∧ redex.typeOf = .ok .truth ∧ redex.betaReduce = .error error ∧
      redex.reduceOnce = .error error := by
  intro f p g redex error
  refine ⟨rfl, ?_, ?_, ?_⟩
  · cbv
  · cbv
  · cbv

end Term

end Denotation
