import Denotation.Term.Typing

/-!
# Naming conventions

Identifiers are written without their types, and conventions decide what a name stands for: with the
usual ones `x` is a variable over entities and `Happy` a predicate constant.  Conventions are an
ordered table of name patterns, of which the first that occurs in the name decides.

How patterns are written and where they occur is left to a pattern engine, which the conventions only
ask two things: to take a pattern as it is written, and to look for it in a name.
-/

namespace Denotation

class PatternEngine where
  Pattern : Type
  /-- Take a pattern as it is written, or refuse it. -/
  ofString? : String → Option Pattern
  occursIn : Pattern → String → Bool

structure Convention [PatternEngine] where
  pattern : PatternEngine.Pattern
  kind : IdentKind
  ty : Ty

structure Conventions [PatternEngine] where
  entries : List Convention

namespace Conventions

variable [PatternEngine]

def empty : Conventions := ⟨[]⟩

instance : Inhabited Conventions := ⟨empty⟩

/-- Add a convention that decides only where no earlier one does. -/
def add (conventions : Conventions) (convention : Convention) : Conventions :=
  ⟨conventions.entries ++ [convention]⟩

def addWritten? (conventions : Conventions) (pattern : String) (kind : IdentKind) (ty : Ty) :
    Option Conventions :=
  (PatternEngine.ofString? pattern).map fun pattern => conventions.add ⟨pattern, kind, ty⟩

def lookup? (conventions : Conventions) (name : String) : Option Convention :=
  conventions.entries.find? fun convention => PatternEngine.occursIn convention.pattern name

def identifier (conventions : Conventions) (name : String) : Except TypeError Ident :=
  match conventions.lookup? name with
  | some convention => .ok ⟨convention.kind, name, convention.ty⟩
  | none => .error (.unknownIdentifier name)

/-- The usual conventions, if the engine takes all of their patterns.  A letter from `u` to `z`,
perhaps with marks, is a variable over entities, and one from `X` to `Z` is a variable over
predicates.  Other names are constants: of type `e` if they begin with a small letter, relations if
they are an `R` with marks, and predicates if they begin with a capital letter. -/
def standard? : Option Conventions := do
  let conventions ← empty.addWritten? "^[u-z][0-9_']*$" .var .entity
  let conventions ← conventions.addWritten? "^[X-Z][0-9_']*$" .var .predicate
  let conventions ← conventions.addWritten? "^[a-z]" .const .entity
  let conventions ← conventions.addWritten? "^R[0-9_']*$" .const (.fn .entity .predicate)
  conventions.addWritten? "^[A-Z]" .const .predicate

/-- The conventions to begin with.  No name has a meaning if the engine refuses a usual pattern. -/
def standard : Conventions := standard?.getD empty

end Conventions

end Denotation
