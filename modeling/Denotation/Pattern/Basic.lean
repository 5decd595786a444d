import Denotation.Pattern.CharSet

/-!
# Patterns of names

Regular expressions over characters, with tests on the place in the text.  A pattern occurs in a
text if some stretch of the text, possibly an empty one, matches it.

Matching reads the text once.  `residuals` gives what is left of a pattern to be matched after one
character, and a search keeps the list of everything that is left from some place on.  A pattern has
only finitely many residuals, so the list, which has no duplicates, stays short.
-/

namespace Denotation

/-- A place in a text, given by the characters beside it. -/
structure Place where
  before : Option Char
  after : Option Char
deriving DecidableEq, Inhabited

namespace Place

def wordBefore (place : Place) : Bool := place.before.any Text.isWordChar

def wordAfter (place : Place) : Bool := place.after.any Text.isWordChar

end Place

inductive PlaceTest where
  | textStart
  | textEnd
  | wordBoundary
  | noWordBoundary
  | wordStart
  | wordEnd
  | noWordBefore
  | noWordAfter
deriving DecidableEq, Inhabited

def PlaceTest.holds (place : Place) : PlaceTest → Bool
  | .textStart => place.before.isNone
  | .textEnd => place.after.isNone
  | .wordBoundary => place.wordBefore != place.wordAfter
  | .noWordBoundary => place.wordBefore == place.wordAfter
  | .wordStart => !place.wordBefore && place.wordAfter
  | .wordEnd => place.wordBefore && !place.wordAfter
  | .noWordBefore => !place.wordBefore
  | .noWordAfter => !place.wordAfter

inductive Pattern where
  | empty
  | oneOf (set : CharSet)
  | onlyAt (test : PlaceTest)
  | seq (first second : Pattern)
  | alt (left right : Pattern)
  /-- Matches the body at least `least` times in a row, and at most `most` times if there is such a
  bound. -/
  | repeated (body : Pattern) (least : Nat) (most : Option Nat)
deriving DecidableEq, Inhabited

namespace Pattern

def sequence : List Pattern → Pattern
  | [] => .empty
  | first :: rest => .seq first (sequence rest)

def star (body : Pattern) : Pattern := .repeated body 0 none

def matchesEmpty (place : Place) : Pattern → Bool
  | .empty => true
  | .oneOf _ => false
  | .onlyAt test => test.holds place
  | .seq first second => first.matchesEmpty place && second.matchesEmpty place
  | .alt left right => left.matchesEmpty place || right.matchesEmpty place
  | .repeated body least _ => least == 0 || body.matchesEmpty place

/-- What can be left to be matched after a stretch that begins with `char`, the character before the
stretch being `before`.

In a repetition some matches of the body may be empty before the one that takes `char`.  If the body
can match so here, then any number of matches below the greatest can be left. -/
def residuals (before : Option Char) (char : Char) : Pattern → List Pattern
  | .empty => []
  | .oneOf set => if set.contains char then [.empty] else []
  | .onlyAt _ => []
  | .seq first second =>
      (first.residuals before char).map (.seq · second) ++
        if first.matchesEmpty ⟨before, some char⟩ then second.residuals before char else []
  | .alt left right => left.residuals before char ++ right.residuals before char
  | .repeated body least most =>
      if most = some 0 then []
      else
        let least := if body.matchesEmpty ⟨before, some char⟩ then 0 else least - 1
        (body.residuals before char).map (.seq · (.repeated body least (most.map (· - 1))))

/-- Whether, in the rest of a text after the character `before`, one of the `pending` patterns
matches from here on, or `pattern` matches from some later place on. -/
def occursFrom (pattern : Pattern) (pending : List Pattern) (before : Option Char) :
    List Char → Bool
  | [] => pending.any (·.matchesEmpty ⟨before, none⟩)
  | char :: rest =>
      pending.any (·.matchesEmpty ⟨before, some char⟩) ||
        pattern.occursFrom
          (pattern :: (pending.flatMap (·.residuals before char))).eraseDups (some char) rest

def occursIn (pattern : Pattern) (text : String) : Bool :=
  pattern.occursFrom [pattern] none text.toList

end Pattern

end Denotation
