import Denotation.Term.Variables

/-!
# Capture-avoiding substitution

`substitute` puts a replacement in the place of the free occurrences of an identifier.  Where this
passes under a binder whose name is that of a free variable of the replacement, the binder is first
renamed to an alphabetic variant, so that no free variable of the replacement gets bound:
replacing `x` by `y` in `λy[Love(x)(y)]` gives `λy'[Love(y)(y')]`.

The test is on names although binding is decided by whole identifiers.  A binder over an equally
named variable of another type captures nothing, and is renamed all the same.

A variant is written to a log when its binder is passed.  Renaming the body of such a binder is not
logged, and can itself capture nothing, because the new name is used nowhere in that body.
-/

namespace Denotation

/-- A bound variable and the alphabetic variant that took its place. -/
structure Renaming where
  bound : Ident
  variant : Ident
deriving DecidableEq

structure Substituted where
  term : Term
  log : List Renaming
deriving DecidableEq

namespace Term

/-- Rename the free occurrences of `old`.  Below a binder in which `old` is bound or does not
occur free, nothing changes.  The new name has to be unused in the term. -/
def rename (old new : Ident) : Term → Term
  | .ident id => if id = old then .ident new else .ident id
  | .binder kind bound body =>
      if bound = old ∨ ¬ body.hasFree old then .binder kind bound body
      else .binder kind bound (body.rename old new)
  | .not operand => .not (operand.rename old new)
  | .binary connective left right =>
      .binary connective (left.rename old new) (right.rename old new)
  | .equal left right => .equal (left.rename old new) (right.rename old new)
  | .app function argument => .app (function.rename old new) (argument.rename old new)

theorem size_rename (old new : Ident) (term : Term) : (term.rename old new).size = term.size := by
  induction term with
  | ident _ => simp only [rename]; split <;> rfl
  | binder _ _ _ bodyIH =>
      simp only [rename]
      split
      · rfl
      · simp only [size, bodyIH]
  | not _ operandIH => simp only [rename, size, operandIH]
  | binary _ _ _ leftIH rightIH => simp only [rename, size, leftIH, rightIH]
  | equal _ _ leftIH rightIH => simp only [rename, size, leftIH, rightIH]
  | app _ _ functionIH argumentIH => simp only [rename, size, functionIH, argumentIH]

/-- The variant of a bound variable under which a replacement for `target` can pass: its name is
used neither in the body nor in the replacement, and differs from those of `target` and of the
bound variable itself. -/
def alphabeticVariant (bound target : Ident) (body replacement : Term) : Ident :=
  freshVariable bound (body.names ++ replacement.names ++ [target.name, bound.name])

/-- Replace the free occurrences of `target` by `replacement`, from left to right, adding every
alphabetic variant that this takes to the end of the log. -/
def substitute (term : Term) (target : Ident) (replacement : Term) (log : List Renaming) :
    Substituted :=
  match term with
  | .ident id => ⟨if id = target then replacement else .ident id, log⟩
  | .binder kind bound body =>
      if bound = target ∨ ¬ body.hasFree target then ⟨.binder kind bound body, log⟩
      else if bound.name ∈ replacement.freeNames then
        let variant := alphabeticVariant bound target body replacement
        let result :=
          (body.rename bound variant).substitute target replacement (log ++ [⟨bound, variant⟩])
        ⟨.binder kind variant result.term, result.log⟩
      else
        let result := body.substitute target replacement log
        ⟨.binder kind bound result.term, result.log⟩
  | .not operand =>
      let result := operand.substitute target replacement log
      ⟨.not result.term, result.log⟩
  | .binary connective left right =>
      let first := left.substitute target replacement log
      let second := right.substitute target replacement first.log
      ⟨.binary connective first.term second.term, second.log⟩
  | .equal left right =>
      let first := left.substitute target replacement log
      let second := right.substitute target replacement first.log
      ⟨.equal first.term second.term, second.log⟩
  | .app function argument =>
      let first := function.substitute target replacement log
      let second := argument.substitute target replacement first.log
      ⟨.app first.term second.term, second.log⟩
termination_by term.size
decreasing_by
  all_goals simp only [size, size_rename]; omega

end Term

end Denotation
