import Denotation.Term.Basic

/-!
# Variables and names of a term

Which variables occur free in a term, which identifiers its binders bind, which names it uses, and
how a name is found that it does not use.  An occurrence is bound by an enclosing binder over the
same identifier, that is one of the same kind, name and type.

The collections are lists with one entry for each occurrence, from left to right.
-/

namespace Denotation

namespace Term

/-- The variables that occur free.  Constants are never free variables. -/
def freeVariables : Term → List Ident
  | .ident id => if id.isVar then [id] else []
  | .binder _ bound body => body.freeVariables.filter (· ≠ bound)
  | .not operand => operand.freeVariables
  | .binary _ left right => left.freeVariables ++ right.freeVariables
  | .equal left right => left.freeVariables ++ right.freeVariables
  | .app function argument => function.freeVariables ++ argument.freeVariables

def boundVariables : Term → List Ident
  | .ident _ => []
  | .binder _ bound body => bound :: body.boundVariables
  | .not operand => operand.boundVariables
  | .binary _ left right => left.boundVariables ++ right.boundVariables
  | .equal left right => left.boundVariables ++ right.boundVariables
  | .app function argument => function.boundVariables ++ argument.boundVariables

/-- Every identifier of a term, be it bound by a binder or an occurrence, from left to right. -/
def idents : Term → List Ident
  | .ident id => [id]
  | .binder _ bound body => bound :: body.idents
  | .not operand => operand.idents
  | .binary _ left right => left.idents ++ right.idents
  | .equal left right => left.idents ++ right.idents
  | .app function argument => function.idents ++ argument.idents

/-- Every name in the term, be it of a free, a bound or a constant identifier. -/
def names : Term → List String
  | .ident id => [id.name]
  | .binder _ bound body => bound.name :: body.names
  | .not operand => operand.names
  | .binary _ left right => left.names ++ right.names
  | .equal left right => left.names ++ right.names
  | .app function argument => function.names ++ argument.names

def freeNames (term : Term) : List String := term.freeVariables.map Ident.name

def hasFree (term : Term) (id : Ident) : Bool := decide (id ∈ term.freeVariables)

theorem mem_freeVariables_binder {id bound : Ident} {kind : BinderKind} {body : Term} :
    id ∈ (Term.binder kind bound body).freeVariables ↔ id ∈ body.freeVariables ∧ id ≠ bound := by
  simp [freeVariables, List.mem_filter]

theorem name_mem_names_of_mem_freeVariables {id : Ident} {term : Term}
    (free : id ∈ term.freeVariables) : id.name ∈ term.names := by
  induction term with
  | ident other =>
      simp only [freeVariables] at free
      split at free
      · exact List.mem_singleton.mp free ▸ List.mem_singleton_self _
      · contradiction
  | binder _ _ _ bodyIH =>
      exact List.mem_cons_of_mem _ (bodyIH (mem_freeVariables_binder.mp free).1)
  | not _ operandIH => exact operandIH free
  | binary _ _ _ leftIH rightIH =>
      exact List.mem_append.mpr ((List.mem_append.mp free).imp leftIH rightIH)
  | equal _ _ leftIH rightIH =>
      exact List.mem_append.mpr ((List.mem_append.mp free).imp leftIH rightIH)
  | app _ _ functionIH argumentIH =>
      exact List.mem_append.mpr ((List.mem_append.mp free).imp functionIH argumentIH)

end Term

/-- The name with the fewest primes appended that is not to be avoided.  A candidate that was
refused is shorter than all later ones, so it need not be avoided any more; that is why the
search ends. -/
def freshName (name : String) (avoid : List String) : String :=
  if _ : name ∈ avoid then freshName (name.push '\'') (avoid.erase name) else name
termination_by avoid.length
decreasing_by
  rename_i taken
  rw [List.length_erase_of_mem taken]
  exact Nat.sub_one_lt (Nat.ne_of_gt (List.length_pos_of_mem taken))

theorem length_le_length_freshName (name : String) (avoid : List String) :
    name.length ≤ (freshName name avoid).length := by
  fun_induction freshName name avoid with
  | case1 name avoid _ induction =>
      rw [String.length_push] at induction
      omega
  | case2 => exact Nat.le_refl _

theorem freshName_not_mem (name : String) (avoid : List String) :
    freshName name avoid ∉ avoid := by
  fun_induction freshName name avoid with
  | case1 name avoid _ induction =>
      intro member
      have longer := length_le_length_freshName (name.push '\'') (avoid.erase name)
      have differ : freshName (name.push '\'') (avoid.erase name) ≠ name := by
        intro same
        rw [same, String.length_push] at longer
        omega
      exact induction ((List.mem_erase_of_ne differ).mpr member)
  | case2 name avoid absent => exact absent

/-- A variable of the type of `base` whose name is that of `base` with the fewest primes appended
that is not to be avoided. -/
def freshVariable (base : Ident) (avoid : List String) : Ident :=
  ⟨.var, freshName base.name avoid, base.ty⟩

end Denotation
