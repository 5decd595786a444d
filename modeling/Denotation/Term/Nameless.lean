import Denotation.Term.Variables

/-!
# Nameless forms

In the nameless form of a term an occurrence that is bound is replaced by its distance to its
binder, the number of binders that lie between.  The binder is the innermost enclosing one over the
same identifier.  A binder keeps its kind and the type of its variable, and occurrences that are not
bound stay as they are.

Terms with the same nameless form differ in the names of bound variables only; they are alphabetic
variants of each other.
-/

namespace Denotation

inductive Nameless where
  | bound (distance : Nat)
  | free (id : Ident)
  | binder (kind : BinderKind) (ty : Ty) (body : Nameless)
  | not (operand : Nameless)
  | binary (connective : Connective) (left right : Nameless)
  | equal (left right : Nameless)
  | app (function argument : Nameless)
deriving DecidableEq

namespace Nameless

/-- Make room for `amount` more binders outside: distances that lead past the `inner` innermost
binders grow by that amount. -/
def lift (amount : Nat) (inner : Nat) : Nameless → Nameless
  | .bound distance => .bound (if distance < inner then distance else distance + amount)
  | .free id => .free id
  | .binder kind ty body => .binder kind ty (body.lift amount (inner + 1))
  | .not operand => .not (operand.lift amount inner)
  | .binary connective left right =>
      .binary connective (left.lift amount inner) (right.lift amount inner)
  | .equal left right => .equal (left.lift amount inner) (right.lift amount inner)
  | .app function argument => .app (function.lift amount inner) (argument.lift amount inner)

/-- Replace the free occurrences of `target` in a term that stands below `depth` binders. -/
def replace (term : Nameless) (target : Ident) (replacement : Nameless) (depth : Nat) : Nameless :=
  match term with
  | .bound distance => .bound distance
  | .free id => if id = target then replacement.lift depth 0 else .free id
  | .binder kind ty body => .binder kind ty (body.replace target replacement (depth + 1))
  | .not operand => .not (operand.replace target replacement depth)
  | .binary connective left right =>
      .binary connective (left.replace target replacement depth)
        (right.replace target replacement depth)
  | .equal left right =>
      .equal (left.replace target replacement depth) (right.replace target replacement depth)
  | .app function argument =>
      .app (function.replace target replacement depth) (argument.replace target replacement depth)

end Nameless

namespace Term

/-- The nameless form of a term below binders over the identifiers in `scope`, the innermost
first. -/
def namelessIn (scope : List Ident) : Term → Nameless
  | .ident id =>
      match scope.idxOf? id with
      | some distance => .bound distance
      | none => .free id
  | .binder kind bound body => .binder kind bound.ty (body.namelessIn (bound :: scope))
  | .not operand => .not (operand.namelessIn scope)
  | .binary connective left right =>
      .binary connective (left.namelessIn scope) (right.namelessIn scope)
  | .equal left right => .equal (left.namelessIn scope) (right.namelessIn scope)
  | .app function argument => .app (function.namelessIn scope) (argument.namelessIn scope)

def nameless (term : Term) : Nameless := term.namelessIn []

/-- Whether two terms differ in the names of bound variables only. -/
def AlphabeticVariants (left right : Term) : Prop := left.nameless = right.nameless

instance (left right : Term) : Decidable (AlphabeticVariants left right) :=
  inferInstanceAs (Decidable (left.nameless = right.nameless))

theorem namelessIn_ident_of_not_mem {scope : List Ident} {id : Ident} (unbound : id ∉ scope) :
    (Term.ident id).namelessIn scope = .free id := by
  simp only [namelessIn, List.idxOf?_eq_none_iff.mpr unbound]

theorem AlphabeticVariants.refl (term : Term) : AlphabeticVariants term term := rfl

theorem AlphabeticVariants.symm {left right : Term} (variants : AlphabeticVariants left right) :
    AlphabeticVariants right left :=
  Eq.symm variants

theorem AlphabeticVariants.trans {left middle right : Term}
    (first : AlphabeticVariants left middle) (second : AlphabeticVariants middle right) :
    AlphabeticVariants left right :=
  Eq.trans first second

end Term

end Denotation
