import Denotation.Term.Basic

/-!
# Paths to subterms

A subterm may occur in a term several times, so an occurrence is named by its path: the way from
the whole term down to it, as the numbers of the parts that lead there.  The parts of a node are
numbered from left to right.
-/

namespace Denotation

abbrev Path : Type := List Nat

namespace Term

def parts : Term → List Term
  | .ident _ => []
  | .binder _ _ body => [body]
  | .not operand => [operand]
  | .binary _ left right => [left, right]
  | .equal left right => [left, right]
  | .app function argument => [function, argument]

def putPart (term : Term) (number : Nat) (part : Term) : Term :=
  match term with
  | .ident id => .ident id
  | .binder kind bound body => .binder kind bound (if number = 0 then part else body)
  | .not operand => .not (if number = 0 then part else operand)
  | .binary connective left right =>
      .binary connective (if number = 0 then part else left) (if number = 1 then part else right)
  | .equal left right =>
      .equal (if number = 0 then part else left) (if number = 1 then part else right)
  | .app function argument =>
      .app (if number = 0 then part else function) (if number = 1 then part else argument)

def at? (term : Term) : Path → Option Term
  | [] => some term
  | number :: rest =>
      match term.parts[number]? with
      | some part => part.at? rest
      | none => none

/-- The term with another subterm at a path.  Where there is no such path, nothing
changes. -/
def putAt (term : Term) (subterm : Term) : Path → Term
  | [] => subterm
  | number :: rest =>
      match term.parts[number]? with
      | some part => term.putPart number (part.putAt subterm rest)
      | none => term

/-- All paths in a term, in the order in which reduction visits them: the parts of a node from
left to right, and then the node. -/
def paths : Term → List Path
  | .ident _ => [[]]
  | .binder _ _ body => body.paths.map (0 :: ·) ++ [[]]
  | .not operand => operand.paths.map (0 :: ·) ++ [[]]
  | .binary _ left right =>
      left.paths.map (0 :: ·) ++ right.paths.map (1 :: ·) ++ [[]]
  | .equal left right =>
      left.paths.map (0 :: ·) ++ right.paths.map (1 :: ·) ++ [[]]
  | .app function argument =>
      function.paths.map (0 :: ·) ++ argument.paths.map (1 :: ·) ++ [[]]

/-- All paths in a term in the order in which the nodes are written: a node, and then its parts from
left to right. -/
def preorder : Term → List Path
  | .ident _ => [[]]
  | .binder _ _ body => [] :: body.preorder.map (0 :: ·)
  | .not operand => [] :: operand.preorder.map (0 :: ·)
  | .binary _ left right => [] :: (left.preorder.map (0 :: ·) ++ right.preorder.map (1 :: ·))
  | .equal left right => [] :: (left.preorder.map (0 :: ·) ++ right.preorder.map (1 :: ·))
  | .app function argument =>
      [] :: (function.preorder.map (0 :: ·) ++ argument.preorder.map (1 :: ·))

/-- The variable that the node itself binds, if any. -/
def ownBound : Term → List Ident
  | .binder _ bound _ => [bound]
  | _ => []

/-- The variables of the binders that stand around the subterm at a path, the outermost first. -/
def boundAround (term : Term) : Path → List Ident
  | [] => []
  | number :: rest =>
      match term.parts[number]? with
      | some part => term.ownBound ++ part.boundAround rest
      | none => []

def OccursIn (subterm term : Term) : Prop := ∃ path, term.at? path = some subterm

def OccursInside (subterm term : Term) : Prop :=
  ∃ path, path ≠ [] ∧ term.at? path = some subterm

def hasRedexAt (term : Term) (path : Path) : Bool :=
  match term.at? path with
  | some subterm => subterm.isRedex
  | none => false

def IsNormal (term : Term) : Prop := ∀ subterm, OccursIn subterm term → subterm.isRedex = false

theorem at?_cons (term : Term) (number : Nat) (rest : Path) :
    term.at? (number :: rest) = term.parts[number]?.bind (·.at? rest) := by
  simp only [at?]
  cases term.parts[number]? <;> rfl

theorem mem_paths_iff {term : Term} {path : Path} :
    path ∈ term.paths ↔ ∃ subterm, term.at? path = some subterm := by
  induction term generalizing path with
  | ident id =>
      cases path with
      | nil => simp [paths, at?]
      | cons number rest => simp [paths, at?, parts]
  | binder kind bound body bodyIH =>
      rcases path with _ | ⟨_ | number, rest⟩ <;> simp [paths, at?, parts, bodyIH]
  | not operand operandIH =>
      rcases path with _ | ⟨_ | number, rest⟩ <;> simp [paths, at?, parts, operandIH]
  | binary connective left right leftIH rightIH =>
      rcases path with _ | ⟨_ | _ | number, rest⟩ <;> simp [paths, at?, parts, leftIH, rightIH]
  | equal left right leftIH rightIH =>
      rcases path with _ | ⟨_ | _ | number, rest⟩ <;> simp [paths, at?, parts, leftIH, rightIH]
  | app function argument functionIH argumentIH =>
      rcases path with _ | ⟨_ | _ | number, rest⟩ <;> simp [paths, at?, parts, functionIH, argumentIH]

theorem parts_putPart (term : Term) (number : Nat) (part : Term) :
    (term.putPart number part).parts = term.parts.set number part := by
  cases term <;> rcases number with _ | _ | number <;> simp [putPart, parts]

theorem getElem?_parts_putPart {term part : Term} {number : Nat} (part' : Term)
    (isPart : term.parts[number]? = some part) :
    (term.putPart number part').parts[number]? = some part' := by
  have inRange := (List.getElem?_eq_some_iff.mp isPart).1
  rw [parts_putPart, List.getElem?_set_self inRange]

theorem at?_putAt {term subterm old : Term} {path : Path} (found : term.at? path = some old) :
    (term.putAt subterm path).at? path = some subterm := by
  induction path generalizing term with
  | nil => rfl
  | cons number rest induction =>
      rw [at?_cons] at found
      obtain ⟨part, isPart, below⟩ := Option.bind_eq_some_iff.mp found
      have exchanged := getElem?_parts_putPart (part.putAt subterm rest) isPart
      rw [at?_cons]
      simp only [putAt, isPart, exchanged, Option.bind_some]
      exact induction below

end Term

end Denotation
