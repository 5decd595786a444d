import Denotation.Term.Text

/-!
# Terms from their written form

A written form is read sign by sign.  Whatever was begun and still waits for a term, such as a
parenthesis, the body of a binder or an operator without its last operand, is an opening, and the
openings lie inside one another.  A sign that comes after a term may end openings: a connective ends the
operators that bind more tightly, and a closing bracket ends all of them up to the one that it closes.

Kinds and types are not written, so every identifier is read as a variable over entities, as it stands
in a skeleton.  A blank separates nothing that the other signs do not, and is skipped.
-/

namespace Denotation

inductive Sign where
  | openParenthesis
  | closeParenthesis
  | openBracket
  | closeBracket
  | blank
  | not
  | equal
  | binder (kind : BinderKind)
  | connective (connective : Connective)
  | letter (char : Char)
deriving DecidableEq

namespace Sign

def ofChar : Char → Sign
  | '(' => .openParenthesis
  | ')' => .closeParenthesis
  | '[' => .openBracket
  | ']' => .closeBracket
  | ' ' => .blank
  | '¬' => .not
  | '=' => .equal
  | 'λ' => .binder .lambda
  | '∃' => .binder .existential
  | '∀' => .binder .universal
  | 'ι' => .binder .iota
  | '∧' => .connective .and
  | '∨' => .connective .or
  | '→' => .connective .implies
  | '↔' => .connective .iff
  | char => .letter char

def ofText (text : String) : List Sign := text.toList.map ofChar

end Sign

/-- What was begun and waits for a term. -/
inductive Opening where
  | group
  | argument (function : Term)
  /-- A binder that waits for the name of its variable. -/
  | binder (kind : BinderKind)
  | body (kind : BinderKind) (name : String)
  | not
  | equal (left : Term)
  | binary (connective : Connective) (left : Term)
deriving DecidableEq

namespace Opening

/-- The precedence that the term has to have.  What stands in brackets may be anything. -/
def demand : Opening → Nat
  | .not => Term.negationPrecedence
  | .equal _ => Term.equalityPrecedence + 1
  | .binary _ _ => Term.equalityPrecedence
  | _ => 0

/-- The term of an operator whose last operand is known. -/
def complete : Opening → Term → Term
  | .not, operand => .not operand
  | .equal left, right => .equal left right
  | .binary connective left, right => .binary connective left right
  | _, term => term

end Opening

/-- How far a text has been read: the openings, innermost first, and the term that was read in the
innermost one, if it has begun. -/
structure Scan where
  openings : List Opening
  term : Option Term
deriving DecidableEq

namespace Scan

def start : Scan := ⟨[], none⟩

/-- Complete the innermost operators, as long as they ask for at least the given precedence. -/
def settle (precedence : Nat) : List Opening → Term → List Opening × Term
  | [], term => ([], term)
  | opening :: rest, term =>
      if precedence ≤ opening.demand then settle precedence rest (opening.complete term)
      else (opening :: rest, term)

def beforeTerm (openings : List Opening) : Sign → Option Scan
  | .blank => some ⟨openings, none⟩
  | .openParenthesis => some ⟨.group :: openings, none⟩
  | .not => some ⟨.not :: openings, none⟩
  | .binder kind => some ⟨.binder kind :: openings, none⟩
  | .letter char => some ⟨openings, some (.ident ⟨.var, char.toString, .entity⟩)⟩
  | _ => none

/-- After a term whose operators are settled: a closing parenthesis ends a group or an argument. -/
def closeParenthesis : List Opening × Term → Option Scan
  | (.group :: rest, inner) => some ⟨rest, some inner⟩
  | (.argument function :: rest, argument) => some ⟨rest, some (.app function argument)⟩
  | _ => none

def closeBracket : List Opening × Term → Option Scan
  | (.body kind name :: rest, body) => some ⟨rest, some (.binder kind ⟨.var, name, .entity⟩ body)⟩
  | _ => none

def openBracket : List Opening × Term → Option Scan
  | (.binder kind :: rest, .ident id) => some ⟨.body kind id.name :: rest, none⟩
  | _ => none

def infixOperator (opening : Term → Opening) : List Opening × Term → Option Scan
  | (rest, left) => some ⟨opening left :: rest, none⟩

def afterTerm (openings : List Opening) (term : Term) : Sign → Option Scan
  | .blank => some ⟨openings, some term⟩
  | .letter char =>
      match term with
      | .ident id => some ⟨openings, some (.ident { id with name := id.name.push char })⟩
      | _ => none
  | .openParenthesis => some ⟨.argument term :: openings, none⟩
  | .openBracket => openBracket (openings, term)
  | .equal => infixOperator .equal (settle (Term.equalityPrecedence + 1) openings term)
  | .connective connective =>
      infixOperator (.binary connective) (settle Term.equalityPrecedence openings term)
  | .closeParenthesis => closeParenthesis (settle Term.equalityPrecedence openings term)
  | .closeBracket => closeBracket (settle Term.equalityPrecedence openings term)
  | _ => none

def step (scan : Scan) (sign : Sign) : Option Scan :=
  match scan.term with
  | none => beforeTerm scan.openings sign
  | some term => afterTerm scan.openings term sign

def run (scan : Scan) : List Sign → Option Scan
  | [] => some scan
  | sign :: rest => (scan.step sign).bind fun next => next.run rest

theorem run_singleton (scan : Scan) (sign : Sign) : scan.run [sign] = scan.step sign := by
  rw [run]
  cases scan.step sign <;> rfl

theorem run_append (scan : Scan) (first second : List Sign) :
    scan.run (first ++ second) = (scan.run first).bind fun next => next.run second := by
  induction first generalizing scan with
  | nil => rfl
  | cons sign rest restIH =>
      simp only [List.cons_append, run, Option.bind_assoc, restIH]

/-- The term that was read, if nothing but operators is left to be completed. -/
def result? (scan : Scan) : Option Term :=
  match scan.term with
  | none => none
  | some term =>
      match settle Term.equalityPrecedence scan.openings term with
      | ([], whole) => some whole
      | _ => none

end Scan

namespace Term

/-- The skeleton of the term that a text is the written form of. -/
def ofText? (text : String) : Option Term :=
  (Scan.start.run (Sign.ofText text)).bind Scan.result?

/-- The characters that stand between the names of a written form. -/
def signs : List Char :=
  ['λ', '∃', '∀', 'ι', '¬', '∧', '∨', '→', '↔', '=', '(', ')', '[', ']', ' ']

end Term

/-- The name can be told from the signs around it. -/
def IsPlainName (name : String) : Prop := name ≠ "" ∧ ∀ char ∈ name.toList, char ∉ Term.signs

-- By the characters of the name, not by all characters, which instance search also finds a way to try.
instance (name : String) : Decidable (IsPlainName name) :=
  have : Decidable (∀ char ∈ name.toList, char ∉ Term.signs) := List.decidableBAll _ _
  inferInstanceAs (Decidable (name ≠ "" ∧ ∀ char ∈ name.toList, char ∉ Term.signs))

end Denotation
