import Denotation.Store.Emission
import Denotation.Term.Variables

/-!
# The layout of records

What the bytes of a record look like from outside: how deep the records in it are inside one another,
where each of them keeps its version, and which types and terms can be written at all.
-/

namespace Denotation

def Ty.recordDepth : Ty → Nat
  | .const _ => 1
  | .var _ => 1
  | .fn domain range => 1 + max domain.recordDepth range.recordDepth

/-- The number of records inside one another.  The record of the bound identifier of a binder does not
count, but the record of its type does. -/
def Term.recordDepth : Term → Nat
  | .ident id => 1 + id.ty.recordDepth
  | .binder _ bound body => 1 + max bound.ty.recordDepth body.recordDepth
  | .not operand => 1 + operand.recordDepth
  | .binary _ left right => 1 + max left.recordDepth right.recordDepth
  | .equal left right => 1 + max left.recordDepth right.recordDepth
  | .app function argument => 1 + max function.recordDepth argument.recordDepth

def Ty.symbols : Ty → List Char
  | .const symbol => [symbol]
  | .var symbol => [symbol]
  | .fn domain range => domain.symbols ++ range.symbols

def Ty.IsStorable (ty : Ty) : Prop := ∀ symbol ∈ ty.symbols, symbol.toNat < 65536

def Ident.IsStorable (id : Ident) : Prop :=
  (Text.utf8Bytes id.name).length < 65536 ∧ id.ty.IsStorable

def Term.IsStorable (term : Term) : Prop := ∀ id ∈ term.idents, id.IsStorable

/-- A record inside other ones: its tag, and the index of its version in all the bytes. -/
structure RecordMark where
  tag : String
  version : Nat
deriving DecidableEq

def RecordMark.ofStart (tag : String) (start : Nat) : RecordMark :=
  ⟨tag, start + 2 + (Text.utf8Bytes tag).length⟩

def headerLength (tag : String) : Nat := 2 + (Text.utf8Bytes tag).length + 2

def Ty.recordMarks (start : Nat) : Ty → List RecordMark
  | .const _ => [.ofStart TyTag.const.name start]
  | .var _ => [.ofStart TyTag.var.name start]
  | .fn domain range =>
      let first := start + headerLength TyTag.fn.name
      .ofStart TyTag.fn.name start ::
        (domain.recordMarks first ++ range.recordMarks (first + domain.record.bytes.length))

def Ident.recordMarks (start : Nat) (id : Ident) : List RecordMark :=
  let tag := (TermTag.ident id.kind).name
  .ofStart tag start ::
    id.ty.recordMarks (start + headerLength tag + 2 + (Text.utf8Bytes id.name).length)

def Term.recordMarks (start : Nat) : Term → List RecordMark
  | .ident id => id.recordMarks start
  | .binder kind bound body =>
      let tag := (TermTag.binder kind).name
      let first := start + headerLength tag
      .ofStart tag start ::
        (bound.recordMarks first ++ body.recordMarks (first + bound.record.bytes.length))
  | .not operand =>
      let tag := TermTag.not.name
      .ofStart tag start :: operand.recordMarks (start + headerLength tag)
  | .binary connective left right =>
      let tag := (TermTag.binary connective).name
      let first := start + headerLength tag
      .ofStart tag start ::
        (left.recordMarks first ++ right.recordMarks (first + left.record.bytes.length))
  | .equal left right =>
      let tag := TermTag.equal.name
      let first := start + headerLength tag
      .ofStart tag start ::
        (left.recordMarks first ++ right.recordMarks (first + left.record.bytes.length))
  | .app function argument =>
      let tag := TermTag.app.name
      let first := start + headerLength tag
      .ofStart tag start ::
        (function.recordMarks first ++
          argument.recordMarks (first + function.record.bytes.length))

/-- The bytes with another word as the version of the marked record. -/
def RecordMark.putVersion (mark : RecordMark) (word : Nat) (bytes : List UInt8) : List UInt8 :=
  bytes.take mark.version ++ Store.wordBytes word ++ bytes.drop (mark.version + 2)

end Denotation
