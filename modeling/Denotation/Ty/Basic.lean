/-!
# Semantic types

The types of meanings: constant types such as `e` (entities) and `t` (truth values), type
variables, and the functions from one type to another.  A symbol is a single character, and any
character may be one.

Two relations on types matter.  Equality is structural.  Compatibility is weaker: a variable agrees
with every type, so the relation is reflexive and symmetric but not transitive.
-/

namespace Denotation

inductive Ty where
  | const (symbol : Char)
  | var (symbol : Char)
  | fn (domain range : Ty)
deriving DecidableEq, Inhabited

namespace Ty

def entity : Ty := .const 'e'

def truth : Ty := .const 't'

def situation : Ty := .const 's'

def predicate : Ty := .fn entity truth

/-- Whether two types agree where neither of them has a variable.  A variable stands for any type,
and two occurrences of the same variable need not stand for the same one. -/
def compatible : Ty → Ty → Bool
  | .var _, _ => true
  | _, .var _ => true
  | .const expected, .const found => expected == found
  | .fn domain range, .fn domain' range' =>
      domain.compatible domain' && range.compatible range'
  | .const _, .fn _ _ => false
  | .fn _ _, .const _ => false

def hasVariables : Ty → Bool
  | .const _ => false
  | .var _ => true
  | .fn domain range => domain.hasVariables || range.hasVariables

def varSymbols : Ty → List Char
  | .const _ => []
  | .var symbol => [symbol]
  | .fn domain range => domain.varSymbols ++ range.varSymbols

def mentions (symbol : Char) : Ty → Bool
  | .const _ => false
  | .var other => other == symbol
  | .fn domain range => domain.mentions symbol || range.mentions symbol

def isFunction : Ty → Bool
  | .fn _ _ => true
  | _ => false

/-- The written form: a constant is its symbol, a variable has a quote before its symbol, and a
function type is the pair of its two parts in angle brackets. -/
def text : Ty → String
  | .const symbol => symbol.toString
  | .var symbol => "'" ++ symbol.toString
  | .fn domain range => "<" ++ domain.text ++ "," ++ range.text ++ ">"

instance : ToString Ty := ⟨text⟩

theorem compatible_comm (expected found : Ty) :
    expected.compatible found = found.compatible expected := by
  induction expected generalizing found with
  | const symbol => cases found <;> simp [compatible, Bool.beq_comm]
  | var symbol => cases found <;> simp [compatible]
  | fn domain range domainIH rangeIH =>
      cases found with
      | const _ => rfl
      | var _ => simp [compatible]
      | fn domain' range' => simp [compatible, domainIH domain', rangeIH range']

theorem compatible_self (ty : Ty) : ty.compatible ty = true := by
  induction ty with
  | const _ => simp [compatible]
  | var _ => simp [compatible]
  | fn domain range domainIH rangeIH => simp [compatible, domainIH, rangeIH]

end Ty

end Denotation
