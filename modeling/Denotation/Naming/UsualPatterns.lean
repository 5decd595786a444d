import Denotation.Naming.Conventions

/-!
# What is expected of an engine

Five patterns are written in the usual conventions, and this says in which texts an engine should find
them.  A pattern may occur anywhere in a text, so what it asks of a stretch of the text is said together
with what stands before and after the stretch: `^` holds only where nothing stands before it, and `$` only
where nothing stands after it.
-/

namespace Denotation

def IsNameMark (char : Char) : Prop := ('0' ≤ char ∧ char ≤ '9') ∨ char = '_' ∨ char = '\''

/-- What a letter with marks at both anchors matches, as in `^R[0-9_']*$`. -/
def MarkedLetter (isLetter : Char → Prop) (before matched after : List Char) : Prop :=
  before = [] ∧ (∃ letter marks, matched = letter :: marks ∧ isLetter letter ∧
    ∀ mark ∈ marks, IsNameMark mark) ∧ after = []

/-- What a letter at the first anchor matches, as in `^[a-z]`. -/
def InitialLetter (isLetter : Char → Prop) (before matched _after : List Char) : Prop :=
  before = [] ∧ ∃ letter, matched = [letter] ∧ isLetter letter

/-- One of the letters stands first, and after it only characters that are allowed. -/
def BeginsWith (isLetter allowed : Char → Prop) (chars : List Char) : Prop :=
  ∃ letter later, chars = letter :: later ∧ isLetter letter ∧ ∀ char ∈ later, allowed char

section Stretches

variable {isLetter allowed : Char → Prop} {chars : List Char}

theorem exists_markedLetter_iff :
    (∃ before matched after, chars = before ++ matched ++ after ∧
      MarkedLetter isLetter before matched after) ↔ BeginsWith isLetter IsNameMark chars := by
  constructor
  · intro occurs
    obtain ⟨before, matched, after, rfl, rfl, ⟨letter, marks, rfl, found, areMarks⟩, rfl⟩ := occurs
    exact ⟨letter, marks, List.append_nil _, found, areMarks⟩
  · intro begins
    obtain ⟨letter, marks, rfl, found, areMarks⟩ := begins
    have whole : letter :: marks = [] ++ letter :: marks ++ [] := (List.append_nil _).symm
    exact ⟨[], letter :: marks, [], whole, rfl, ⟨letter, marks, rfl, found, areMarks⟩, rfl⟩

theorem exists_initialLetter_iff :
    (∃ before matched after, chars = before ++ matched ++ after ∧
      InitialLetter isLetter before matched after) ↔ BeginsWith isLetter (fun _ => True) chars := by
  constructor
  · intro occurs
    obtain ⟨before, matched, after, rfl, rfl, letter, rfl, found⟩ := occurs
    exact ⟨letter, after, rfl, found, fun _ _ => trivial⟩
  · intro begins
    obtain ⟨letter, later, rfl, found, -⟩ := begins
    exact ⟨[], [letter], later, rfl, rfl, letter, rfl, found⟩

/-- A prime at the end is a mark, and it does not make up for a letter that is missing. -/
theorem beginsWith_append_prime (noPrime : ¬ isLetter '\'') (primeAllowed : allowed '\'') :
    BeginsWith isLetter allowed (chars ++ ['\'']) ↔ BeginsWith isLetter allowed chars := by
  constructor
  · intro begins
    obtain ⟨letter, later, split, found, areAllowed⟩ := begins
    cases chars with
    | nil =>
        cases split
        exact absurd found noPrime
    | cons char chars =>
        cases split
        exact ⟨letter, chars, rfl, found, fun _ member => areAllowed _ (List.mem_append_left _ member)⟩
  · intro begins
    obtain ⟨letter, later, rfl, found, areAllowed⟩ := begins
    refine ⟨letter, later ++ ['\''], rfl, found, List.forall_mem_append.mpr ⟨areAllowed, ?_⟩⟩
    exact List.forall_mem_singleton.mpr primeAllowed

end Stretches

namespace PatternEngine

/-- If the engine takes the pattern, it finds it in the texts of which some stretch is as described. -/
def Finds [engine : PatternEngine] (written : String)
    (describes : List Char → List Char → List Char → Prop) : Prop :=
  ∀ pattern, engine.ofString? written = some pattern → ∀ text : String,
    engine.occursIn pattern text = true ↔
      ∃ before matched after, text.toList = before ++ matched ++ after ∧ describes before matched after

structure FindsUsualPatterns [PatternEngine] : Prop where
  entityVariables : Finds "^[u-z][0-9_']*$" (MarkedLetter fun letter => 'u' ≤ letter ∧ letter ≤ 'z')
  predicateVariables : Finds "^[X-Z][0-9_']*$" (MarkedLetter fun letter => 'X' ≤ letter ∧ letter ≤ 'Z')
  entities : Finds "^[a-z]" (InitialLetter fun letter => 'a' ≤ letter ∧ letter ≤ 'z')
  relations : Finds "^R[0-9_']*$" (MarkedLetter fun letter => letter = 'R')
  predicates : Finds "^[A-Z]" (InitialLetter fun letter => 'A' ≤ letter ∧ letter ≤ 'Z')

end PatternEngine

end Denotation
