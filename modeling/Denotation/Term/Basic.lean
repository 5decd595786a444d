import Denotation.Ty.Alignment

/-!
# Terms

The terms in which meanings are written: identifiers, four binders, negation, four connectives,
equality and function application.  An identifier carries its type, and two identifiers are the
same only if they agree in kind, name and type; so equally named variables of different types are
different variables.

A binder may be built over a constant.  Such a term can be printed and stored, and it is the
derivation of a type that rejects it.
-/

namespace Denotation

inductive IdentKind where
  | var
  | const
deriving DecidableEq, Inhabited

structure Ident where
  kind : IdentKind
  name : String
  ty : Ty
deriving DecidableEq, Inhabited

namespace Ident

def isVar (id : Ident) : Bool := id.kind == .var

def specialize (alignment : Alignment) (id : Ident) : Ident :=
  { id with ty := alignment.apply id.ty }

end Ident

/-- The binders: function abstraction, the two quantifiers, and definite description. -/
inductive BinderKind where
  | lambda
  | existential
  | universal
  | iota
deriving DecidableEq, Inhabited

inductive Connective where
  | and
  | or
  | implies
  | iff
deriving DecidableEq, Inhabited

inductive Term where
  | ident (id : Ident)
  | binder (kind : BinderKind) (bound : Ident) (body : Term)
  | not (operand : Term)
  | binary (connective : Connective) (left right : Term)
  | equal (left right : Term)
  | app (function argument : Term)
deriving DecidableEq, Inhabited

namespace Term

def lambda (bound : Ident) (body : Term) : Term := .binder .lambda bound body

def size : Term → Nat
  | .ident _ => 1
  | .binder _ _ body => body.size + 1
  | .not operand => operand.size + 1
  | .binary _ left right => left.size + right.size + 1
  | .equal left right => left.size + right.size + 1
  | .app function argument => function.size + argument.size + 1

def isRedex : Term → Bool
  | .app (.binder .lambda _ _) _ => true
  | _ => false

def specialize (alignment : Alignment) : Term → Term
  | .ident id => .ident (id.specialize alignment)
  | .binder kind bound body =>
      .binder kind (bound.specialize alignment) (body.specialize alignment)
  | .not operand => .not (operand.specialize alignment)
  | .binary connective left right =>
      .binary connective (left.specialize alignment) (right.specialize alignment)
  | .equal left right => .equal (left.specialize alignment) (right.specialize alignment)
  | .app function argument =>
      .app (function.specialize alignment) (argument.specialize alignment)

end Term

end Denotation
