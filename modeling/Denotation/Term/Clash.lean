import Denotation.Term.Path
import Denotation.Term.Substitution

/-!
# Clashing binders

A substitution passes under a binder if the variable to be replaced is free in the body and no binder
on the way binds it.  The binder clashes with the replacement if its name is that of a free variable
of the replacement.  Which binders clash can be seen from the term as it stands, although each
renaming changes what lies below it.
-/

namespace Denotation.Term

/-- Whether a replacement of `target` passes under the binder at the path, and the binder has one of the
given names. -/
def clashesAt (term : Term) (target : Ident) (names : List String) (path : Path) : Bool :=
  match term.at? path with
  | some (.binder _ bound body) =>
      decide (bound ≠ target) && body.hasFree target && decide (target ∉ term.boundAround path) &&
        decide (bound.name ∈ names)
  | _ => false

/-- The paths to the clashing binders, from the outside in and from left to right, when the names of the
free variables of the replacement are given. -/
def clashes (target : Ident) (names : List String) (term : Term) : List Path :=
  term.preorder.filter (term.clashesAt target names)

theorem clashesAt_eq_true_iff {term : Term} {target : Ident} {names : List String} {path : Path} :
    term.clashesAt target names path = true ↔
      target ∉ term.boundAround path ∧ ∃ kind bound body, term.at? path = some (.binder kind bound body) ∧
        bound ≠ target ∧ target ∈ body.freeVariables ∧ bound.name ∈ names := by
  unfold clashesAt
  split
  · rename_i found
    simp [found, hasFree, and_assoc, and_left_comm]
  · rename_i noBinder
    refine iff_of_false (by decide) ?_
    rintro ⟨-, kind, bound, body, found, -⟩
    exact noBinder kind bound body found

end Denotation.Term
