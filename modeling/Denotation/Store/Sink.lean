import Denotation.Store.Emission

/-!
# Sinks

A sink stores bytes one after the other.  It may have a capacity, and then it takes of an emission
only what there is room for.
-/

namespace Denotation

structure Sink where
  capacity : Option Nat
  stored : List UInt8
deriving DecidableEq

namespace Sink

def empty (capacity : Option Nat) : Sink := ⟨capacity, []⟩

def hasRoom (sink : Sink) (count : Nat) : Bool :=
  match sink.capacity with
  | none => true
  | some capacity => decide (sink.stored.length + count ≤ capacity)

def fitting (sink : Sink) (bytes : List UInt8) : List UInt8 :=
  match sink.capacity with
  | none => bytes
  | some capacity => bytes.take (capacity - sink.stored.length)

/-- Write an emission.  If it does not fit, what fits is stored and the sink is full; otherwise the
outcome is that of the emission. -/
def write (sink : Sink) (emission : Emission) : Except StoreError Unit × Sink :=
  let result : Except StoreError Unit :=
    if sink.hasRoom emission.bytes.length then
      match emission.fault with
      | none => .ok ()
      | some error => .error error
    else .error .sinkFull
  (result, { sink with stored := sink.stored ++ sink.fitting emission.bytes })

end Sink

end Denotation
