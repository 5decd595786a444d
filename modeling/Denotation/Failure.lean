import Denotation.Source.Excerpt
import Denotation.Store.Error
import Denotation.Conversion

/-!
# Failures

All errors in one type, for callers that treat them alike.  Each of them keeps its message.
-/

namespace Denotation

inductive Failure (Reason : Type := Empty) where
  | source (fault : Source.Fault)
  | typing (error : TypeError)
  | alignment (error : AlignmentError)
  | conversion (error : ConversionError)
  | store (error : StoreError Reason)

namespace Failure

def message [Source.SpanLibrary] {Reason : Type} [ToString Reason] : Failure Reason → String
  | .source fault => fault.message
  | .typing error => error.message
  | .alignment error => error.message
  | .conversion error => error.message
  | .store error => error.message

end Failure

end Denotation
