import Mathlib.Data.List.Basic
import Denotation.Proofs.Composition
import Denotation.Proofs.Substitution.Renamings

/-!
# Predicate modification is conjunction

The meaning that predicate modification builds of two sisters binds a variable whose name neither of them
uses, be it of a free variable, a bound one or a constant.  So this variable is free in no sister, and where
it is replaced by an argument, the sisters stay as they are: no binder in them is renamed, also if it has
the name of a free variable of the argument.  What is left is that both sisters hold of the argument.
-/

namespace Denotation

namespace Term

theorem modificationVariable_not_free (left right : Term) :
    modificationVariable left right ∉ left.freeVariables ∧
      modificationVariable left right ∉ right.freeVariables := by
  have fresh := freshName_not_mem "z" (left.names ++ right.names)
  rw [List.mem_append, not_or] at fresh
  exact ⟨fun free => fresh.1 (name_mem_names_of_mem_freeVariables free),
    fun free => fresh.2 (name_mem_names_of_mem_freeVariables free)⟩

/-- A variable that is free in neither function is replaced where they are applied to it, and nowhere else. -/
theorem substitute_applied_functions {z : Ident} {left right : Term} (isVar : z.isVar = true)
    (notInLeft : z ∉ left.freeVariables) (notInRight : z ∉ right.freeVariables) (argument : Term) :
    (Term.binary .and (.app left (.ident z)) (.app right (.ident z))).substitute z argument [] =
      ⟨.binary .and (.app left argument) (.app right argument), []⟩ := by
  have leftKept := substitute_of_not_free isVar notInLeft argument []
  have rightKept := substitute_of_not_free isVar notInRight argument []
  simp only [substitute, leftKept, rightKept, if_true]

theorem betaReduce_modification (left right : Term) {argument : Term} {argumentTy : Ty}
    (typed : argument.typeOf = .ok argumentTy) (fits : Ty.entity.compatible argumentTy = true) :
    (Term.app (left.modification right) argument).betaReduce =
      .ok ⟨.binary .and (.app left argument) (.app right argument), []⟩ := by
  obtain ⟨notInLeft, notInRight⟩ := modificationVariable_not_free left right
  have isVar : (modificationVariable left right).isVar = true := rfl
  have contracts := betaReduce_of_concrete
    (.binary .and (.app left (.ident (modificationVariable left right)))
      (.app right (.ident (modificationVariable left right)))) isVar rfl typed fits
  rw [substitute_applied_functions rfl notInLeft notInRight] at contracts
  exact contracts

end Term

/-- A meaning that was combined by predicate modification and is applied to an argument that can be an entity
contracts to the conjunction of the two sisters, each applied to this argument, without any renaming. -/
theorem modification_means_conjunction (config : CompositionConfig)
    {left right meaning argument : Term} {ty argumentTy : Ty}
    (resolved : config.resolve left right = .ok (.predicateModification meaning ty))
    (typed : argument.typeOf = .ok argumentTy) (fits : Ty.entity.compatible argumentTy = true) :
    (Term.app meaning argument).betaReduce =
      .ok ⟨.binary .and (.app left argument) (.app right argument), []⟩ := by
  obtain ⟨leftTy, rightTy, -, -, combined⟩ := CompositionConfig.combined_of_resolve resolved
  cases combined with
  | modified => exact Term.betaReduce_modification left right typed fits

/-- The sister `λy[R(y)(x)]` binds the variable `y` that is the argument, and the other sister is a constant
of the name `z`. -/
theorem modification_means_conjunction_of_clashing_names :
    let x : Ident := ⟨.var, "x", .entity⟩
    let y : Ident := ⟨.var, "y", .entity⟩
    let r := Term.ident ⟨.const, "R", .fn .entity .predicate⟩
    let left := Term.lambda y (.app (.app r (.ident y)) (.ident x))
    let right := Term.ident ⟨.const, "z", .predicate⟩
    let meaning := left.modification right
    CompositionConfig.resolve {} left right = .ok (.predicateModification meaning .predicate) ∧
      (Term.ident y).typeOf = .ok .entity ∧ Ty.entity.compatible .entity = true ∧
      (Term.app meaning (.ident y)).betaReduce =
        .ok ⟨.binary .and (.app left (.ident y)) (.app right (.ident y)), []⟩ := by
  intro x y r left right meaning
  have resolved : CompositionConfig.resolve {} left right =
      .ok (.predicateModification meaning .predicate) := rfl
  exact ⟨resolved, rfl, rfl, modification_means_conjunction {} resolved rfl rfl⟩

end Denotation
