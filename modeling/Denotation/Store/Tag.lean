import Denotation.Term.Basic

/-!
# Tags of records

Every record begins with the name of the kind of node that it holds.  There is one set of tags for
types and one for terms, and no two tags of a set have the same name.
-/

namespace Denotation

inductive TyTag where
  | const
  | var
  | fn
deriving DecidableEq

namespace TyTag

def name : TyTag → String
  | .const => "ConstType"
  | .var => "VarType"
  | .fn => "CompositeType"

def all : List TyTag := [.const, .var, .fn]

def ofName? (name : String) : Option TyTag := all.find? (·.name = name)

theorem ofName?_name (tag : TyTag) : ofName? tag.name = some tag := by
  cases tag <;> decide

theorem name_of_ofName? {name : String} {tag : TyTag} (found : ofName? name = some tag) :
    tag.name = name :=
  of_decide_eq_true (List.find?_some (p := fun tag : TyTag => decide (tag.name = name)) found)

end TyTag

inductive TermTag where
  | ident (kind : IdentKind)
  | binder (kind : BinderKind)
  | not
  | binary (connective : Connective)
  | equal
  | app
deriving DecidableEq

namespace TermTag

def name : TermTag → String
  | .ident .var => "Var"
  | .ident .const => "Const"
  | .binder .lambda => "Lambda"
  | .binder .existential => "Exists"
  | .binder .universal => "ForAll"
  | .binder .iota => "Iota"
  | .not => "Not"
  | .binary .and => "And"
  | .binary .or => "Or"
  | .binary .implies => "If"
  | .binary .iff => "Iff"
  | .equal => "Equality"
  | .app => "FunctionApplication"

def all : List TermTag := [
  .ident .var, .ident .const,
  .binder .lambda, .binder .existential, .binder .universal, .binder .iota,
  .not, .binary .and, .binary .or, .binary .implies, .binary .iff, .equal, .app]

def ofName? (name : String) : Option TermTag := all.find? (·.name = name)

theorem ofName?_name (tag : TermTag) : ofName? tag.name = some tag := by
  cases tag with
  | ident kind => cases kind <;> decide
  | binder kind => cases kind <;> decide
  | binary connective => cases connective <;> decide
  | not => decide
  | equal => decide
  | app => decide

theorem name_of_ofName? {name : String} {tag : TermTag} (found : ofName? name = some tag) :
    tag.name = name :=
  of_decide_eq_true (List.find?_some (p := fun tag : TermTag => decide (tag.name = name)) found)

end TermTag

end Denotation
