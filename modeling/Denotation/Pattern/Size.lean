import Denotation.Pattern.Blueprint
import Denotation.Text.ByteRanges

/-!
# Sizes of automata

A pattern is looked for by two automata over the bytes of UTF-8.  One reads the text forwards and
keeps the places of groups, the other reads it backwards.  This module counts the bytes that their
states take, without building them.  A repetition with a count has a copy of its body for each match
that is counted, so short patterns can have large automata.

A state takes 32 bytes.  A state that chooses among other states takes 4 more for each of them, and a
state that reads a byte takes 8 more for each range of bytes, if there are several.
-/

namespace Denotation.Pattern

inductive Direction where
  | forward
  | backward
deriving DecidableEq

def total (sizes : List Nat) : Nat := sizes.foldr (· + ·) 0

/-- The bytes of so many states. -/
def states (count : Nat) : Nat := 32 * count

/-- The bytes of a state that chooses among so many states. -/
def choosing (count : Nat) : Nat := states 1 + 4 * count

/-- The bytes of a state that reads a byte in one of so many ranges. -/
def reading (count : Nat) : Nat := states 1 + 8 * count

namespace ByteSequences

open Text

def groups (sequences : List ByteRanges) : List (List ByteRanges) :=
  sequences.splitBy fun left right => left.head? == right.head?

def tails (group : List ByteRanges) : List ByteRanges := group.map List.tail

/-- The sequences that are left to be read in the states of an automaton, where at most `length` bytes
are left.  Nothing is left in the last state, which is not counted. -/
def remainders : (length : Nat) → List ByteRanges → List (List ByteRanges)
  | 0, _ => []
  | length + 1, sequences =>
      if sequences.all List.isEmpty then []
      else sequences :: (groups sequences).flatMap fun group => remainders length (tails group)

/-- The bytes of the states that read one of the sequences forwards.  States in which the same
sequences are left are one state. -/
def forwardBytes (sequences : List ByteRanges) : Nat :=
  states 1 + total ((remainders 4 sequences).eraseDups.map fun left => reading (groups left).length)

def commonLength : ByteRanges → ByteRanges → Nat
  | left :: lefts, right :: rights => if left = right then commonLength lefts rights + 1 else 0
  | _, _ => 0

/-- How many states read the sequences backwards, the one before being given.  Sequences share the
states for the ranges that they have in common at their beginning. -/
def stateCount (previous : ByteRanges) : List ByteRanges → Nat
  | [] => 0
  | sequence :: sequences =>
      sequence.length - commonLength previous sequence + stateCount sequence sequences

def backwardBytes (sequences : List ByteRanges) : Nat :=
  choosing sequences.length + states 1 + states (stateCount [] sequences)

end ByteSequences

/-- The bytes of the states for a character in one of the ranges.  A single state reads characters of
ASCII. -/
def setBytes (direction : Direction) (ranges : List (Nat × Nat)) : Nat :=
  if ranges.all fun range => decide (range.2 < 0x80) then reading ranges.length + states 1
  else
    let sequences := ranges.flatMap fun range => Text.byteRanges range.1 range.2
    match direction with
    | .forward => ByteSequences.forwardBytes sequences
    | .backward => ByteSequences.backwardBytes sequences

def literalBytes (direction : Direction) (chars : List Char) : List UInt8 :=
  match direction with
  | .forward => chars.flatMap String.utf8EncodeChar
  | .backward => (chars.flatMap String.utf8EncodeChar).reverse

namespace Words

/-- Words in the stretches between those that are at their end.  A second end at the beginning makes
no difference. -/
def stretches (words : List (List UInt8)) : List (List (List UInt8)) :=
  let atStart := if words.head? == some [] then [[]] else []
  atStart ++ (words.dropWhile List.isEmpty).foldr (fun word stretches =>
    match word, stretches with
    | [], stretches => [] :: stretches
    | word, [] => [[word]]
    | word, stretch :: later => (word :: stretch) :: later) [[]]

/-- The bytes of the states that read one of several words, which have at most `length` bytes.  Each
stretch is read by a state of its own, so that earlier words have precedence. -/
def treeBytes : (length : Nat) → List (List UInt8) → Nat
  | 0, _ => 0
  | length + 1, words =>
      let stretches := stretches words
      let taken := stretches.filter (! List.isEmpty ·)
      choosing (taken.length + stretches.length - 1) +
        total (taken.map fun stretch =>
          let heads := (stretch.filterMap List.head?).eraseDups
          (if heads.length = 1 then states 1 else reading heads.length) +
            total (heads.map fun head =>
              let tails := (stretch.filter (·.head? == some head)).map List.tail
              if tails.all List.isEmpty then 0 else treeBytes length tails))

def bytes (words : List (List UInt8)) : Nat :=
  states 1 + treeBytes (words.foldr (fun word length => max word.length length) 0) words

end Words

namespace Blueprint

def literal? : Blueprint → Option (List Char)
  | .literal chars => some chars
  | _ => none

def repetitionBytes (body : Nat) (takesSome : Bool) : (least : Nat) → (most : Option Nat) → Nat
  | 0, some 1 => body + choosing 2 + states 1
  | 0, none => if takesSome then body + choosing 2 else body + 2 * choosing 2 + states 1
  | least, none => least * body + choosing 2
  | least, some most =>
      if least = most then least * body
      else
        (if least = 0 then states 1 else least * body) + states 1 +
          (most - least) * (body + choosing 2)

/-- The bytes of the states for a blueprint, given those for each alternative.  Alternatives that are
all literals are read together. -/
def combinedBytes (direction : Direction) (blueprint : Blueprint) : List Nat → Nat
  | [size] => size
  | sizes =>
      match blueprint.branches.mapM literal? with
      | some words => Words.bytes (words.map (literalBytes direction))
      | none => choosing sizes.length + total sizes + states 1

def branchBytes (direction : Direction) : Blueprint → List Nat
  | .empty => [states 1]
  | .literal chars => [states (literalBytes direction chars).length]
  | .set ranges => [setBytes direction ranges]
  | .onlyAt _ => [states 1]
  | .group _ body =>
      let size := combinedBytes direction body (body.branchBytes direction)
      match direction with
      | .forward => [size + states 2]
      | .backward => [size]
  | .repeated body least most _ =>
      [repetitionBytes (combinedBytes direction body (body.branchBytes direction))
        (body.shortest?.any (0 < ·)) least most]
  | .seq first rest =>
      [combinedBytes direction first (first.branchBytes direction) +
        combinedBytes direction rest (rest.branchBytes direction)]
  | .alt first rest =>
      combinedBytes direction first (first.branchBytes direction) :: rest.branchBytes direction

def isAnchored (direction : Direction) : Blueprint → Bool
  | .onlyAt test =>
      match direction with
      | .forward => decide (test = .textStart)
      | .backward => decide (test = .textEnd)
  | .group _ body => body.isAnchored direction
  | .repeated body least _ _ => decide (0 < least) && body.isAnchored direction
  | .seq first rest =>
      match direction with
      | .forward =>
          first.isAnchored direction || (first.takesNothing && rest.isAnchored direction)
      | .backward =>
          rest.isAnchored direction || (rest.takesNothing && first.isAnchored direction)
  | .alt first rest => first.isAnchored direction && rest.isAnchored direction
  | _ => false

/-- The bytes of the automaton for a blueprint.  Beside the states for the blueprint there are some
that skip what is before a match and one that is reached at its end, and forwards also two for the
places of the match. -/
def bytes (direction : Direction) (blueprint : Blueprint) : Nat :=
  (if blueprint.isAnchored direction then states 1 else choosing 2 + reading 1 + states 1) +
    (match direction with
      | .forward => states 3
      | .backward => states 1) +
    combinedBytes direction blueprint (blueprint.branchBytes direction)

def byteLimit : Nat := 10485760

def fits (blueprint : Blueprint) : Bool :=
  decide (blueprint.bytes .forward ≤ byteLimit) && decide (blueprint.bytes .backward ≤ byteLimit)

end Blueprint

end Denotation.Pattern
