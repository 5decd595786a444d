import Denotation.Pattern.Basic

/-!
# What patterns match

A pattern leads from a point of a text to the points up to which it can be matched from there.  This says
construct by construct what the pattern asks for, without a search, and a pattern occurs in a text if it leads
anywhere from some point of it.

A point has the character before it and all that follows, so tests on the place can be answered there: the
start of the text is where no character comes before, and its end is where none follows.
-/

namespace Denotation

structure Point where
  before : Option Char
  rest : List Char

def Point.place (point : Point) : Place := ⟨point.before, point.rest.head?⟩

/-- Go on with a step so many times in a row. -/
def Repeats (step : Point → Point → Prop) : Nat → Point → Point → Prop
  | 0, start, stop => stop = start
  | count + 1, start, stop => ∃ middle, step start middle ∧ Repeats step count middle stop

namespace Pattern

/-- The pattern matches the stretch of the text between the two points. -/
def Leads : Pattern → Point → Point → Prop
  | .empty, start, stop => stop = start
  | .oneOf set, start, stop =>
      ∃ char rest, start.rest = char :: rest ∧ set.contains char = true ∧ stop = ⟨some char, rest⟩
  | .onlyAt test, start, stop => stop = start ∧ test.holds start.place = true
  | .seq first second, start, stop => ∃ middle, first.Leads start middle ∧ second.Leads middle stop
  | .alt left right, start, stop => left.Leads start stop ∨ right.Leads start stop
  | .repeated body least most, start, stop =>
      ∃ count, least ≤ count ∧ (∀ bound ∈ most, count ≤ bound) ∧
        Repeats body.Leads count start stop

/-- The pattern matches some stretch of a text that follows the character `before`. -/
def OccursAfter (pattern : Pattern) (before : Option Char) (text : List Char) : Prop :=
  ∃ skipped rest, text = skipped ++ rest ∧
    ∃ stop, pattern.Leads ⟨skipped.getLast?.or before, rest⟩ stop

/-- No repetition asks for more matches than it allows. -/
def CountsFit : Pattern → Prop
  | .empty => True
  | .oneOf _ => True
  | .onlyAt _ => True
  | .seq first second => first.CountsFit ∧ second.CountsFit
  | .alt left right => left.CountsFit ∧ right.CountsFit
  | .repeated body least most => (∀ bound ∈ most, least ≤ bound) ∧ body.CountsFit

end Pattern

end Denotation
