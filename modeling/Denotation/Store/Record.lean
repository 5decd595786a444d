import Denotation.Store.Emission
import Denotation.Store.Reader

/-!
# Records of either kind

A stream may hold types and terms one after the other.  They are written to one sink and read by one
reader, which goes on after a failure where that left it.
-/

namespace Denotation

inductive RecordKind where
  | ty
  | term
deriving DecidableEq, Inhabited

inductive Record where
  | ty (held : Ty)
  | term (held : Term)
deriving DecidableEq

def Record.kind : Record → RecordKind
  | .ty _ => .ty
  | .term _ => .term

def Record.emission : Record → Emission
  | .ty held => held.record
  | .term held => held.record

section Reads

variable {σ Reason : Type} [ByteSource σ Reason]

namespace Reader

def record : RecordKind → ReadingFrom σ Reason Record
  | .ty => return .ty (← ty)
  | .term => return .term (← term)

/-- Read records one after the other.  With each result goes the state of the reader after it. -/
def records (reader : Reader σ) :
    List RecordKind → List (Except (StoreError Reason) Record × Reader σ)
  | [] => []
  | kind :: rest =>
      let after := Reading.after (record kind) reader
      (Reading.result (record kind) reader, after) :: after.records rest

end Reader

/-- Read one record with a new reader, whatever follows it. -/
def readRecord (kind : RecordKind) (source : σ) : Except (StoreError Reason) Record :=
  Reading.result (Reader.record kind) (.start source)

end Reads

end Denotation
