import Denotation.Store.Error

/-!
# Sources of bytes

A source gives as many bytes as it is asked for, or none.  It may be at its end, or have a reason of its
own; either way it can be asked again, in whatever state it then is.

Bytes that are all there from the beginning are a source that never fails but at its end.  Asked for more
than are left, it gives none and loses what was left.
-/

namespace Denotation

inductive Shortage (Reason : Type) where
  | ended
  | other (reason : Reason)
deriving DecidableEq

class ByteSource (σ : Type) (Reason : outParam Type) where
  take : (count : Nat) → σ → Except (Shortage Reason) (Vector UInt8 count) × σ

instance : ByteSource (List UInt8) Empty where
  take count bytes :=
    if enough : count ≤ bytes.length then
      (.ok ⟨(bytes.take count).toArray, by simp [enough]⟩, bytes.drop count)
    else (.error .ended, [])

namespace ByteSource

variable {σ Reason : Type} [ByteSource σ Reason]

/-- What some requests, one after the other, can leave of a source. -/
inductive Leaves (source : σ) : σ → Prop where
  | all : Leaves source source
  | take {between : σ} (count : Nat) : Leaves source between → Leaves source (take count between).2

end ByteSource

end Denotation
