/-!
# Faults in written expressions

What cannot be read as an expression is reported with the span of the source in which it lies.  Lines and
columns are counted from zero.

How a span is shown with a message, and when two spans count as the same, is left to the library of
spans.
-/

namespace Denotation.Source

structure Position where
  line : Nat
  column : Nat
deriving DecidableEq, Inhabited

structure Span where
  start : Position
  stop : Position
  source : String
deriving DecidableEq, Inhabited

class SpanLibrary where
  excerpt : Span → String → String
  same : Span → Span → Bool

structure Fault where
  reason : String
  span : Span
deriving Inhabited

namespace Fault

variable [library : SpanLibrary]

instance : BEq Fault :=
  ⟨fun left right => left.reason == right.reason && library.same left.span right.span⟩

def position (fault : Fault) : Position := fault.span.start

/-- Without a source there is nothing to show. -/
def message (fault : Fault) : String :=
  if fault.span.source.isEmpty then "Syntax error: " ++ fault.reason
  else library.excerpt fault.span fault.reason

end Fault

end Denotation.Source
