import Denotation.Term.Substitution
import Denotation.Term.Typing

/-!
# Beta reduction

One step of reduction contracts the leftmost-innermost redex: the parts of a node are searched from
left to right, the function before the argument, and a node itself comes after its parts.  So in
`(λx[(λy[Love(y)(x)])(m)])(j)` the redex inside the body goes first.

A redex is contracted by substituting the argument for the bound variable.  If the variable has a
polymorphic type, it is first specialized to the type of the argument, and the body with it: type
variables belong to the whole term, so every identifier of the body whose type mentions an aligned
variable is specialized, also one that an inner binder binds.
-/

namespace Denotation

inductive ConversionError where
  | notReducible (term : Term)
  | stepLimitExceeded (limit : Nat)
  | typing (error : TypeError)
deriving DecidableEq

namespace ConversionError

def message : ConversionError → String
  | .notReducible term => term.text ++ " cannot be lambda-converted"
  | .stepLimitExceeded limit =>
      "conversion did not reach a normal form within " ++ toString limit ++ " steps"
  | .typing error => error.message

end ConversionError

structure Step where
  redex : Term
  contractum : Term
  renamings : List Renaming
  result : Term
deriving DecidableEq

/-- The same step, seen from a node that encloses the term. -/
def Step.within (enclose : Term → Term) (step : Step) : Step :=
  { step with result := enclose step.result }

namespace Term

def contract (bound : Ident) (body argument : Term) : Except TypeError Substituted := do
  if bound.isVar then
    let argumentTy ← argument.typeOf
    fit bound.ty argument argumentTy
    if bound.ty.hasVariables then
      let alignment ← (bound.ty.align argumentTy).mapError .alignment
      return (body.specialize alignment).substitute (bound.specialize alignment) argument []
    else
      return body.substitute bound argument []
  else throw (.constantBound bound)

def betaReduce : Term → Except ConversionError Substituted
  | .app (.binder .lambda bound body) argument =>
      (contract bound body argument).mapError .typing
  | term => .error (.notReducible term)

/-- Contract the leftmost-innermost redex, or find that there is none. -/
def reduceOnce : Term → Except ConversionError (Option Step)
  | .ident _ => return none
  | .binder kind bound body => do
      return (← body.reduceOnce).map (Step.within (.binder kind bound ·))
  | .not operand => do
      return (← operand.reduceOnce).map (Step.within .not)
  | .binary connective left right => do
      match ← left.reduceOnce with
      | some step => return some (step.within (.binary connective · right))
      | none => return (← right.reduceOnce).map (Step.within (.binary connective left ·))
  | .equal left right => do
      match ← left.reduceOnce with
      | some step => return some (step.within (.equal · right))
      | none => return (← right.reduceOnce).map (Step.within (.equal left ·))
  | .app function argument => do
      match ← function.reduceOnce with
      | some step => return some (step.within (.app · argument))
      | none =>
          match ← argument.reduceOnce with
          | some step => return some (step.within (.app function ·))
          | none =>
              let redex := Term.app function argument
              if redex.isRedex then
                let contracted ← redex.betaReduce
                return some ⟨redex, contracted.term, contracted.log, contracted.term⟩
              else return none

/-- Reduce to a term without redexes in at most `steps` steps.  The error names `limit`, the number
of steps that was allowed in the beginning. -/
def reduceCounting (limit : Nat) (steps : Nat) (term : Term) : Except ConversionError Term := do
  match ← term.reduceOnce with
  | none => return term
  | some step =>
      match steps with
      | 0 => throw (.stepLimitExceeded limit)
      | remaining + 1 => reduceCounting limit remaining step.result

def reduceWithin (limit : Nat) (term : Term) : Except ConversionError Term :=
  reduceCounting limit limit term

def defaultStepLimit : Nat := 1000

def reduceFully (term : Term) : Except ConversionError Term := term.reduceWithin defaultStepLimit

end Term

end Denotation
