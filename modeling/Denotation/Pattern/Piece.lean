import Denotation.Pattern.Basic

/-!
# Pieces of a written pattern

A backslash takes away or gives a character its special meaning.  The pieces of a written pattern are
its characters, each backslash joined with what belongs to it.

Before a sign of ASCII a backslash makes the sign stand for itself, except that `\<` and `\>` are the
two ends of a word.  Before a letter it stands for a control character, a set of characters, a test on
the place, or the character with a given code point.
-/

namespace Denotation.Pattern

inductive Piece where
  | plain (char : Char)
  | escaped (char : Char)
  | set (set : CharSet)
  | test (test : PlaceTest)
deriving DecidableEq

structure Scanned (α β : Type) where
  value : β
  rest : List α

def isEscapable (char : Char) : Bool :=
  decide (char.toNat < 128) && !char.isAlphanum

def escape? : Char → Option Piece
  | 'a' => some (.escaped '\x07')
  | 't' => some (.escaped '\t')
  | 'n' => some (.escaped '\n')
  | 'v' => some (.escaped '\x0b')
  | 'f' => some (.escaped '\x0c')
  | 'r' => some (.escaped '\r')
  | 'd' => some (.set .digits)
  | 'D' => some (.set (.compl .digits))
  | 's' => some (.set .blanks)
  | 'S' => some (.set (.compl .blanks))
  | 'w' => some (.set .wordChars)
  | 'W' => some (.set (.compl .wordChars))
  | 'A' => some (.test .textStart)
  | 'z' => some (.test .textEnd)
  | 'b' => some (.test .wordBoundary)
  | 'B' => some (.test .noWordBoundary)
  | '<' => some (.test .wordStart)
  | '>' => some (.test .wordEnd)
  | char => if isEscapable char then some (.escaped char) else none

def hexDigit? (char : Char) : Option Nat :=
  if char.isDigit then some (char.toNat - '0'.toNat)
  else if 'a' ≤ char ∧ char ≤ 'f' then some (char.toNat - 'a'.toNat + 10)
  else if 'A' ≤ char ∧ char ≤ 'F' then some (char.toNat - 'A'.toNat + 10)
  else none

def ofHexDigits? (digits : List Char) : Option Char := do
  let values ← digits.mapM hexDigit?
  let codePoint := values.foldl (fun value digit => 16 * value + digit) 0
  if !digits.isEmpty ∧ codePoint.isValidChar then some (Char.ofNat codePoint) else none

/-- Scan a code point of so many digits, or in braces. -/
def codePoint? (count : Nat) : List Char → Option (Scanned Char Piece)
  | '\x7b' :: chars => do
      let char ← ofHexDigits? (chars.takeWhile (· ≠ '\x7d'))
      match chars.dropWhile (· ≠ '\x7d') with
      | [] => none
      | _ :: rest => some ⟨.escaped char, rest⟩
  | chars =>
      if chars.length < count then none
      else (ofHexDigits? (chars.take count)).map (⟨.escaped ·, chars.drop count⟩)

def boundaryOfName? (name : String) : Option PlaceTest :=
  [("start", PlaceTest.wordStart), ("end", .wordEnd), ("start-half", .noWordBefore),
    ("end-half", .noWordAfter)].lookup name

def isBoundaryNameChar (char : Char) : Bool := char.isAlpha || char == '-'

/-- Scan what is left of a test for the boundary of a word: perhaps a name in braces, which can be
told from a count in braces by its first character. -/
def boundary? : List Char → Option (Scanned Char Piece)
  | '\x7b' :: first :: chars =>
      if isBoundaryNameChar first then
        match chars.dropWhile isBoundaryNameChar with
        | '\x7d' :: rest =>
            (boundaryOfName? (String.ofList (first :: chars.takeWhile isBoundaryNameChar))).map
              (⟨.test ·, rest⟩)
        | _ => none
      else some ⟨.test .wordBoundary, '\x7b' :: first :: chars⟩
  | chars => some ⟨.test .wordBoundary, chars⟩

def afterBackslash? : List Char → Option (Scanned Char Piece)
  | [] => none
  | 'x' :: chars => codePoint? 2 chars
  | 'u' :: chars => codePoint? 4 chars
  | 'U' :: chars => codePoint? 8 chars
  | 'b' :: chars => boundary? chars
  | char :: rest => (escape? char).map (⟨·, rest⟩)

theorem length_dropWhile_le {α : Type} (test : α → Bool) (list : List α) :
    (list.dropWhile test).length ≤ list.length :=
  (List.dropWhile_sublist test).length_le

theorem length_codePoint? {count : Nat} {chars : List Char} {scanned : Scanned Char Piece}
    (accepted : codePoint? count chars = some scanned) : scanned.rest.length ≤ chars.length := by
  unfold codePoint? at accepted
  split at accepted
  · rename_i inner
    obtain ⟨char, -, taken⟩ := Option.bind_eq_some_iff.mp accepted
    split at taken
    · contradiction
    · rename_i rest following
      cases taken
      have shorter := length_dropWhile_le (· ≠ '\x7d') inner
      rw [following] at shorter
      simp only [List.length_cons] at shorter ⊢
      omega
  · split at accepted
    · contradiction
    · obtain ⟨char, -, rfl⟩ := Option.map_eq_some_iff.mp accepted
      simp only [List.length_drop]
      omega

theorem length_boundary? {chars : List Char} {scanned : Scanned Char Piece}
    (accepted : boundary? chars = some scanned) : scanned.rest.length ≤ chars.length := by
  unfold boundary? at accepted
  split at accepted
  · rename_i first inner
    split at accepted
    · split at accepted
      · rename_i rest following
        obtain ⟨test, -, rfl⟩ := Option.map_eq_some_iff.mp accepted
        have shorter := length_dropWhile_le isBoundaryNameChar inner
        rw [following] at shorter
        simp only [List.length_cons] at shorter ⊢
        omega
      · contradiction
    · cases accepted
      exact Nat.le_refl _
  · cases accepted
    exact Nat.le_refl _

theorem length_afterBackslash? {chars : List Char} {scanned : Scanned Char Piece}
    (accepted : afterBackslash? chars = some scanned) : scanned.rest.length < chars.length := by
  unfold afterBackslash? at accepted
  split at accepted
  · contradiction
  · exact Nat.lt_succ_of_le (length_codePoint? accepted)
  · exact Nat.lt_succ_of_le (length_codePoint? accepted)
  · exact Nat.lt_succ_of_le (length_codePoint? accepted)
  · exact Nat.lt_succ_of_le (length_boundary? accepted)
  · obtain ⟨piece, -, rfl⟩ := Option.map_eq_some_iff.mp accepted
    exact Nat.lt_succ_self _

def pieces? : List Char → Option (List Piece)
  | [] => some []
  | '\\' :: chars =>
      match _scanned : afterBackslash? chars with
      | none => none
      | some ⟨piece, rest⟩ => (pieces? rest).map (piece :: ·)
  | char :: rest => (pieces? rest).map (.plain char :: ·)
termination_by chars => chars.length
decreasing_by
  all_goals grind [→ length_afterBackslash?]

end Denotation.Pattern
