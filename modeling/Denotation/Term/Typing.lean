import Denotation.Term.Text

/-!
# Types of terms

A type is derived bottom-up, and the first violation from left to right is the error.  An operand
of a negation, a connective or a quantifier has to be compatible with `t`, the two sides of an
equality have to be compatible with each other, and an argument with the domain of its function.

A bound variable whose type has type variables is specialized to what the body uses it as: in
`λx:'a[Happy(x)]` the argument position of `Happy` asks for `e`, so the abstraction has type `<e,t>`.
`typeOf` and `alignUses` therefore call each other: the expected type at a use is the type of the
function, or of the other side of the equality, that stands next to it.
-/

namespace Denotation

inductive TypeError where
  | mismatch (expected found : Ty) (term : Term)
  | notAFunction (function : Term) (found : Ty)
  | constantBound (id : Ident)
  | unknownIdentifier (name : String)
  | alignment (error : AlignmentError)
deriving DecidableEq

namespace TypeError

def message : TypeError → String
  | .mismatch expected found term =>
      "type mismatch in " ++ term.text ++ ": expected " ++ expected.text ++ ", found " ++ found.text
  | .notAFunction function found =>
      function.text ++ " is of type " ++ found.text ++ " and cannot be applied to an argument"
  | .constantBound id =>
      id.name ++ " is a constant, but binders can only bind variables"
  | .unknownIdentifier name => "no type is known for identifier " ++ name
  | .alignment error => error.message

end TypeError

namespace Term

def fit (expected : Ty) (term : Term) (found : Ty) : Except TypeError Unit :=
  if expected.compatible found then .ok () else .error (.mismatch expected found term)

/-- Align a type with what it is used as.  A use at a type with variables asks for nothing. -/
def constrain (alignment : Alignment) (variableSided expected : Ty) :
    Except TypeError Alignment :=
  if expected.hasVariables then .ok alignment
  else (alignment.refine variableSided expected).result.mapError .alignment

def constrainUse (alignment : Alignment) (bound : Ident) (subterm : Term) (expected : Ty) :
    Except TypeError Alignment :=
  if subterm = .ident bound then constrain alignment bound.ty expected else .ok alignment

/-- The type of an application, given the types of its parts.  The range of a polymorphic function
is specialized to the argument. -/
def applicationType (function argument : Term) : Ty → Ty → Except TypeError Ty
  | .fn domain range, argumentTy => do
      fit domain argument argumentTy
      if (Ty.fn domain range).hasVariables then
        let alignment ← (domain.align argumentTy).mapError .alignment
        return alignment.apply range
      else
        return range
  | found, _ => .error (.notAFunction function found)

mutual

def typeOf : Term → Except TypeError Ty
  | .ident id => .ok id.ty
  | .binder kind bound body =>
      if bound.isVar then
        match kind with
        | .lambda => do
            let bodyTy ← body.typeOf
            let alignment ← if bound.ty.hasVariables then body.alignUses bound .empty else .ok .empty
            return .fn (alignment.apply bound.ty) (alignment.apply bodyTy)
        | .existential | .universal => do
            fit .truth body (← body.typeOf)
            return .truth
        | .iota => do
            fit .truth body (← body.typeOf)
            let alignment ← if bound.ty.hasVariables then body.alignUses bound .empty else .ok .empty
            return alignment.apply bound.ty
      else .error (.constantBound bound)
  | .not operand => do
      fit .truth operand (← operand.typeOf)
      return .truth
  | .binary _ left right => do
      fit .truth left (← left.typeOf)
      fit .truth right (← right.typeOf)
      return .truth
  | .equal left right => do
      let leftTy ← left.typeOf
      fit leftTy right (← right.typeOf)
      return .truth
  | .app function argument => do
      let functionTy ← function.typeOf
      let argumentTy ← argument.typeOf
      applicationType function argument functionTy argumentTy

/-- Refine an alignment so that the type of `bound` agrees with every concrete type at which
the variable is used in the term.  A binder over the same name hides the variable below it. -/
def alignUses (term : Term) (bound : Ident) (alignment : Alignment) :
    Except TypeError Alignment :=
  match term with
  | .ident _ => .ok alignment
  | .binder kind inner body =>
      if inner.name = bound.name then .ok alignment
      else do
        let alignment ←
          if kind = .lambda then .ok alignment
          else constrainUse alignment bound body .truth
        body.alignUses bound alignment
  | .not operand => do
      let alignment ← constrainUse alignment bound operand .truth
      operand.alignUses bound alignment
  | .binary _ left right => do
      let alignment ← constrainUse alignment bound left .truth
      let alignment ← left.alignUses bound alignment
      let alignment ← constrainUse alignment bound right .truth
      right.alignUses bound alignment
  | .equal left right => do
      let alignment ←
        if left = .ident bound then do
          constrain alignment bound.ty (← right.typeOf)
        else .ok alignment
      let alignment ←
        if right = .ident bound then do
          constrain alignment bound.ty (← left.typeOf)
        else .ok alignment
      let alignment ← left.alignUses bound alignment
      right.alignUses bound alignment
  | .app function argument => do
      let alignment ←
        if argument = .ident bound then do
          match ← function.typeOf with
          | .fn domain _ => constrain alignment bound.ty domain
          | _ => .ok alignment
        else .ok alignment
      let alignment ←
        if function = .ident bound then
          match bound.ty with
          | .fn domain _ => do constrain alignment domain (← argument.typeOf)
          | _ => .ok alignment
        else .ok alignment
      let alignment ← function.alignUses bound alignment
      argument.alignUses bound alignment

end

def isWellTyped (term : Term) : Bool :=
  match term.typeOf with
  | .ok _ => true
  | .error _ => false

end Term

end Denotation
