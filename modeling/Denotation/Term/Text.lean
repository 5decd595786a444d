import Denotation.Term.Basic

/-!
# The written form of terms

Terms are written as in textbooks of semantics: `λx[Happy(x)]`, `(λx[Happy(x)])(j)`,
`Love(m)(j)`, `¬P(j) ∧ (p ∨ q)`.  A term is put in parentheses where its operator binds more
loosely than its surroundings ask for.  An operand of a connective is asked to bind as tightly as an
equality, so a connective inside a connective always has parentheses.  The body of a binder stands in
square brackets and the binder itself needs none.
-/

namespace Denotation

namespace BinderKind

def sign : BinderKind → String
  | .lambda => "λ"
  | .existential => "∃"
  | .universal => "∀"
  | .iota => "ι"

end BinderKind

namespace Connective

def sign : Connective → String
  | .and => "∧"
  | .or => "∨"
  | .implies => "→"
  | .iff => "↔"

def precedence : Connective → Nat
  | .iff => 1
  | .implies => 2
  | .or => 3
  | .and => 4

end Connective

namespace Term

def equalityPrecedence : Nat := 5

def negationPrecedence : Nat := 6

/-- What the function position asks for, which is more than any operator gives. -/
def functionPrecedence : Nat := 100

def parenthesized (needed : Bool) (text : String) : String :=
  if needed then "(" ++ text ++ ")" else text

def standsBare : Term → Bool
  | .ident _ => true
  | .app _ _ => true
  | _ => false

/-- The written form of a term whose surroundings ask for the given precedence. -/
def textAt (precedence : Nat) : Term → String
  | .ident id => id.name
  | .binder kind bound body => kind.sign ++ bound.name ++ "[" ++ body.textAt 0 ++ "]"
  | .not operand =>
      parenthesized (negationPrecedence < precedence)
        ("¬" ++ operand.textAt negationPrecedence)
  | .binary connective left right =>
      parenthesized (connective.precedence < precedence)
        (left.textAt equalityPrecedence ++ " " ++ connective.sign ++ " " ++
          right.textAt equalityPrecedence)
  | .equal left right =>
      parenthesized (equalityPrecedence < precedence)
        (left.textAt (equalityPrecedence + 1) ++ " = " ++ right.textAt (equalityPrecedence + 1))
  | .app function argument =>
      parenthesized (!function.standsBare) (function.textAt functionPrecedence) ++
        "(" ++ argument.textAt 0 ++ ")"

/-- The term with the kinds and types of its identifiers forgotten.  They are not written, so this
is all that the written form can tell. -/
def skeleton : Term → Term
  | .ident id => .ident ⟨.var, id.name, .entity⟩
  | .binder kind bound body => .binder kind ⟨.var, bound.name, .entity⟩ body.skeleton
  | .not operand => .not operand.skeleton
  | .binary connective left right => .binary connective left.skeleton right.skeleton
  | .equal left right => .equal left.skeleton right.skeleton
  | .app function argument => .app function.skeleton argument.skeleton

def text (term : Term) : String := term.textAt 0

instance : ToString Term := ⟨text⟩

theorem standsBare_skeleton (term : Term) : term.skeleton.standsBare = term.standsBare := by
  cases term <;> rfl

/-- The written form depends on nothing but the skeleton. -/
theorem textAt_skeleton (precedence : Nat) (term : Term) :
    term.skeleton.textAt precedence = term.textAt precedence := by
  induction term generalizing precedence with
  | ident _ => rfl
  | binder _ _ _ bodyIH => simp only [skeleton, textAt, bodyIH]
  | not _ operandIH => simp only [skeleton, textAt, operandIH]
  | binary _ _ _ leftIH rightIH => simp only [skeleton, textAt, leftIH, rightIH]
  | equal _ _ leftIH rightIH => simp only [skeleton, textAt, leftIH, rightIH]
  | app _ _ functionIH argumentIH =>
      simp only [skeleton, textAt, functionIH, argumentIH, standsBare_skeleton]

end Term

end Denotation
