import Denotation.Pattern.Class
import Denotation.Pattern.Item

/-!
# Tokens of a written pattern

The pieces of a written pattern are gathered into tokens before its structure is built.  A class in
square brackets, a repetition mark and a count in braces are one token each.  Blanks may stand around
the numbers of a count.

A repetition mark may be followed by a question mark, which asks for the fewest matches that will do.
Whether a pattern occurs does not depend on that.
-/

namespace Denotation.Pattern

def Piece.digit? : Piece → Option Nat
  | .plain char => if char.isDigit then some (char.toNat - '0'.toNat) else none
  | _ => none

def Piece.isBlank : Piece → Bool
  | .plain char => Text.isBlank char
  | _ => false

/-- Scan a decimal number with the blanks around it.  It has at least one digit and fits in 32 bits. -/
def number? (pieces : List Piece) : Option (Scanned Piece Nat) :=
  let pieces := pieces.dropWhile Piece.isBlank
  let digits := (pieces.takeWhile (·.digit?.isSome)).filterMap Piece.digit?
  let value := digits.foldl (fun value digit => 10 * value + digit) 0
  if digits.isEmpty || value ≥ 4294967296 then none
  else some ⟨value, (pieces.dropWhile (·.digit?.isSome)).dropWhile Piece.isBlank⟩

def count? (pieces : List Piece) : Option (Scanned Piece Count) :=
  match number? pieces with
  | none => none
  | some ⟨least, .plain '\x7d' :: rest⟩ => some ⟨⟨least, some least⟩, rest⟩
  | some ⟨least, .plain ',' :: .plain '\x7d' :: rest⟩ => some ⟨⟨least, none⟩, rest⟩
  | some ⟨least, .plain ',' :: following⟩ =>
      match number? following with
      | some ⟨most, .plain '\x7d' :: rest⟩ =>
          if least ≤ most then some ⟨⟨least, some most⟩, rest⟩ else none
      | _ => none
  | _ => none

theorem length_number? {pieces : List Piece} {scanned : Scanned Piece Nat}
    (accepted : number? pieces = some scanned) : scanned.rest.length ≤ pieces.length := by
  simp only [number?] at accepted
  split at accepted
  · contradiction
  · cases accepted
    exact Nat.le_trans (length_dropWhile_le _ _)
      (Nat.le_trans (length_dropWhile_le _ _) (length_dropWhile_le _ _))

theorem length_count? {pieces : List Piece} {scanned : Scanned Piece Count}
    (accepted : count? pieces = some scanned) : scanned.rest.length < pieces.length := by
  unfold count? at accepted
  split at accepted
  · contradiction
  · rename_i scannedLeast
    cases accepted
    have shorter := length_number? scannedLeast
    exact shorter
  · rename_i scannedLeast
    cases accepted
    have shorter := length_number? scannedLeast
    simp only [List.length_cons] at shorter ⊢
    omega
  · rename_i scannedLeast
    have shorter := length_number? scannedLeast
    split at accepted
    · rename_i scannedMost
      have shorterMost := length_number? scannedMost
      split at accepted
      · cases accepted
        simp only [List.length_cons] at shorter shorterMost ⊢
        omega
      · contradiction
    · contradiction
  · contradiction

inductive Token where
  | item (item : Item)
  | repetition (count : Count) (lazy : Bool)
  /-- The beginning of a group, which keeps its place if it captures. -/
  | opening (captures : Bool)
  | closing
  | bar
deriving DecidableEq

def lazyMark : List Piece → Scanned Piece Bool
  | .plain '?' :: rest => ⟨true, rest⟩
  | pieces => ⟨false, pieces⟩

theorem length_lazyMark (pieces : List Piece) : (lazyMark pieces).rest.length ≤ pieces.length := by
  unfold lazyMark
  split
  · exact Nat.le_succ _
  · exact Nat.le_refl _

def repetition? : List Piece → Option (Scanned Piece Count)
  | .plain '?' :: rest => some ⟨⟨0, some 1⟩, rest⟩
  | .plain '*' :: rest => some ⟨⟨0, none⟩, rest⟩
  | .plain '+' :: rest => some ⟨⟨1, none⟩, rest⟩
  | .plain '\x7b' :: rest => count? rest
  | _ => none

theorem length_repetition? {pieces : List Piece} {scanned : Scanned Piece Count}
    (accepted : repetition? pieces = some scanned) : scanned.rest.length < pieces.length := by
  unfold repetition? at accepted
  split at accepted
  · cases accepted
    exact Nat.lt_succ_self _
  · cases accepted
    exact Nat.lt_succ_self _
  · cases accepted
    exact Nat.lt_succ_self _
  · exact Nat.lt_succ_of_lt (length_count? accepted)
  · contradiction

def beginsRepetition (char : Char) : Bool :=
  char == '?' || char == '*' || char == '+' || char == '\x7b'

def tokens? : List Piece → Option (List Token)
  | [] => some []
  | .escaped char :: rest => (tokens? rest).map (.item (.literal char) :: ·)
  | .set set :: rest => (tokens? rest).map (.item (.oneOf set 0) :: ·)
  | .test test :: rest => (tokens? rest).map (.item (.onlyAt test) :: ·)
  | .plain '(' :: .plain '?' :: .plain ':' :: rest => (tokens? rest).map (.opening false :: ·)
  | .plain '(' :: rest => (tokens? rest).map (.opening true :: ·)
  | .plain ')' :: rest => (tokens? rest).map (.closing :: ·)
  | .plain '|' :: rest => (tokens? rest).map (.bar :: ·)
  | .plain '^' :: rest => (tokens? rest).map (.item (.onlyAt .textStart) :: ·)
  | .plain '$' :: rest => (tokens? rest).map (.item (.onlyAt .textEnd) :: ·)
  | .plain '.' :: rest => (tokens? rest).map (.item (.oneOf (.compl (.singleton '\n')) 0) :: ·)
  | .plain '[' :: rest =>
      match _scanned : class? rest with
      | none => none
      | some ⟨written, after⟩ =>
          (tokens? after).map (.item (.oneOf written.set written.depth) :: ·)
  | .plain char :: rest =>
      if beginsRepetition char then
        match _scanned : repetition? (.plain char :: rest) with
        | none => none
        | some ⟨count, after⟩ =>
            (tokens? (lazyMark after).rest).map (.repetition count (lazyMark after).value :: ·)
      else (tokens? rest).map (.item (.literal char) :: ·)
termination_by pieces => pieces.length
decreasing_by
  all_goals grind [length_lazyMark, → length_class?, → length_repetition?]

end Denotation.Pattern
