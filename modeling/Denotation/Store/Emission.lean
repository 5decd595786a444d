import Denotation.Store.Error
import Denotation.Store.Tag
import Denotation.Store.Word

/-!
# The records of types and terms

A record is a tag, a version and the fields of its node in a fixed order.  Texts have their length in
bytes before them, and a symbol is a single word.

* a constant or variable type: its symbol
* a function type: the records of its domain and its range
* an identifier: its name and the record of its type
* a binder: the record of the bound identifier and the record of the body
* any other node: the records of its parts, from left to right

Some nodes cannot be written: a name can be too long for its length field, and a symbol too large
for one word.  What is written before such a field stays written, so an emission holds bytes and
the error that ended it.
-/

namespace Denotation

structure Emission where
  bytes : List UInt8
  fault : Option StoreError
deriving DecidableEq

namespace Emission

def ofBytes (bytes : List UInt8) : Emission := ⟨bytes, none⟩

def ofFault (error : StoreError) : Emission := ⟨[], some error⟩

/-- One emission after another.  An error in the first one suppresses the second. -/
def append (first second : Emission) : Emission :=
  match first.fault with
  | none => ⟨first.bytes ++ second.bytes, second.fault⟩
  | some _ => first

instance : Append Emission := ⟨append⟩

def ofText (text : String) : Emission :=
  let bytes := Text.utf8Bytes text
  if bytes.length < 65536 then ofBytes (Store.wordBytes bytes.length ++ bytes)
  else ofFault (.textTooLong bytes.length)

def ofSymbol (symbol : Char) : Emission :=
  if symbol.toNat < 65536 then ofBytes (Store.wordBytes symbol.toNat)
  else ofFault (.symbolOutOfRange symbol)

def header (tag : String) : Emission := ofText tag ++ ofBytes (Store.wordBytes 0)

theorem fault_append_eq_none_iff {first second : Emission} :
    (first ++ second).fault = none ↔ first.fault = none ∧ second.fault = none := by
  change (append first second).fault = none ↔ _
  unfold append
  cases failed : first.fault with
  | none => simp
  | some _ => simp [failed]

theorem bytes_append {first second : Emission} (succeeded : first.fault = none) :
    (first ++ second).bytes = first.bytes ++ second.bytes := by
  change (append first second).bytes = _
  simp only [append, succeeded]

end Emission

def Ty.record : Ty → Emission
  | .const symbol => .header TyTag.const.name ++ .ofSymbol symbol
  | .var symbol => .header TyTag.var.name ++ .ofSymbol symbol
  | .fn domain range => .header TyTag.fn.name ++ (domain.record ++ range.record)

def Ident.record (id : Ident) : Emission :=
  .header (TermTag.ident id.kind).name ++ (.ofText id.name ++ id.ty.record)

def Term.record : Term → Emission
  | .ident id => id.record
  | .binder kind bound body =>
      .header (TermTag.binder kind).name ++ (bound.record ++ body.record)
  | .not operand => .header TermTag.not.name ++ operand.record
  | .binary connective left right =>
      .header (TermTag.binary connective).name ++ (left.record ++ right.record)
  | .equal left right => .header TermTag.equal.name ++ (left.record ++ right.record)
  | .app function argument =>
      .header TermTag.app.name ++ (function.record ++ argument.record)

end Denotation
