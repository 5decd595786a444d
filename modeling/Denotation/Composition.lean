import Denotation.Term.Variables
import Denotation.Term.Typing

/-!
# Composition of meanings

How the meanings of two sisters in a tree combine into the meaning of their mother.  The rules are
tried in a fixed order, and the first that applies is taken.

1. Functional application, the left sister being tried as the function before the right one.
2. Predicate modification of two sisters that are both compatible with `<e,t>`.
3. Otherwise the composition is undetermined, which is an outcome and not an error.

Two more rules are for other shapes of tree.  Lambda abstraction combines a binder index with its
sister, and a node with a single daughter inherits the daughter's meaning.
-/

namespace Denotation

inductive CompositionRule where
  | functionApplication
  | predicateModification
  | lambdaAbstraction
  | nonBranching
  | undetermined
deriving DecidableEq, Inhabited

def CompositionRule.title : CompositionRule → String
  | .functionApplication => "Function Application"
  | .predicateModification => "Predicate Modification"
  | .lambdaAbstraction => "Lambda Abstraction"
  | .nonBranching => "Non-Branching Node"
  | .undetermined => "Undetermined"

inductive Side where
  | left
  | right
deriving DecidableEq, Inhabited

inductive Composition where
  | functionApplication (function : Side) (meaning : Term) (ty : Ty)
  | predicateModification (meaning : Term) (ty : Ty)
  | lambdaAbstraction (meaning : Term) (ty : Ty)
  | nonBranching (meaning : Term) (ty : Ty)
  | undetermined (left right : Ty)
deriving DecidableEq

namespace Composition

def rule : Composition → CompositionRule
  | .functionApplication _ _ _ => .functionApplication
  | .predicateModification _ _ => .predicateModification
  | .lambdaAbstraction _ _ => .lambdaAbstraction
  | .nonBranching _ _ => .nonBranching
  | .undetermined _ _ => .undetermined

def meaning? : Composition → Option Term
  | .functionApplication _ meaning _ => some meaning
  | .predicateModification meaning _ => some meaning
  | .lambdaAbstraction meaning _ => some meaning
  | .nonBranching meaning _ => some meaning
  | .undetermined _ _ => none

def meaningTy? : Composition → Option Ty
  | .functionApplication _ _ ty => some ty
  | .predicateModification _ ty => some ty
  | .lambdaAbstraction _ ty => some ty
  | .nonBranching _ ty => some ty
  | .undetermined _ _ => none

end Composition

/-- Which of the optional rules are available.  Functional application always is. -/
structure CompositionConfig where
  predicateModification : Bool := true
  lambdaAbstraction : Bool := true
deriving DecidableEq, Inhabited

def traceVariable (index : Nat) : Ident := ⟨.var, "t" ++ toString index, .entity⟩

def Ty.accepts (function argument : Ty) : Bool :=
  match function with
  | .fn domain _ => domain.compatible argument
  | _ => false

namespace Term

def modificationVariable (left right : Term) : Ident :=
  freshVariable ⟨.var, "z", .entity⟩ (left.names ++ right.names)

def modification (left right : Term) : Term :=
  let z := modificationVariable left right
  lambda z (.binary .and (.app left (.ident z)) (.app right (.ident z)))

end Term

namespace CompositionConfig

/-- Apply one sister to the other, if that has a type.  The domain of a polymorphic function can
accept the type of the argument and still not be aligned with it. -/
def functionApplication? (side : Side) (function argument : Term) (functionTy argumentTy : Ty) :
    Option Composition :=
  if functionTy.accepts argumentTy then
    match (Term.app function argument).typeOf with
    | .ok ty => some (.functionApplication side (.app function argument) ty)
    | .error _ => none
  else none

def combine (config : CompositionConfig) (left right : Term) (leftTy rightTy : Ty) :
    Composition :=
  match functionApplication? .left left right leftTy rightTy with
  | some composition => composition
  | none =>
      match functionApplication? .right right left rightTy leftTy with
      | some composition => composition
      | none =>
          if config.predicateModification && Ty.predicate.compatible leftTy &&
              Ty.predicate.compatible rightTy then
            .predicateModification (left.modification right) .predicate
          else .undetermined leftTy rightTy

/-- Combine the meanings of two sisters.  The only failure is a sister that has no type. -/
def resolve (config : CompositionConfig) (left right : Term) : Except TypeError Composition := do
  let leftTy ← left.typeOf
  let rightTy ← right.typeOf
  return config.combine left right leftTy rightTy

def abstractOver (config : CompositionConfig) (index : Nat) (sister : Term) :
    Except TypeError Composition := do
  let sisterTy ← sister.typeOf
  if config.lambdaAbstraction then
    return .lambdaAbstraction (.lambda (traceVariable index) sister) (.fn .entity sisterTy)
  else return .undetermined .entity sisterTy

end CompositionConfig

def passUp (daughter : Term) : Except TypeError Composition := do
  return .nonBranching daughter (← daughter.typeOf)

end Denotation
