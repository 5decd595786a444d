import Denotation.Text.Quoted
import Denotation.Text.Utf8

/-!
# Errors of the store

Why a type or a term cannot be written to a store or read from one.
-/

namespace Denotation

def formatVersion : Int := 0

/-- The greatest number of records inside one another that a reader follows. -/
def maxNesting : Nat := 256

/-- A source of bytes may have reasons of its own for not giving any. -/
inductive StoreError (Reason : Type := Empty) where
  | unsupportedVersion (tag : String) (version : Int)
  | unknownTag (tag : String)
  | nestedTooDeep
  /-- The record after the header of a binder is not that of an identifier. -/
  | unexpectedRecord (tag : String)
  | unpairedSurrogate (unit : Nat)
  | invalidText (stop : Text.Utf8Stop)
  | textTooLong (bytes : Nat)
  | symbolOutOfRange (symbol : Char)
  | endOfBytes
  | source (reason : Reason)
  | sinkFull
deriving DecidableEq

instance noReasonToString : ToString Empty := ⟨nofun⟩

namespace StoreError

def malformed (reason : String) : String := "malformed stream: " ++ reason

def message {Reason : Type} [ToString Reason] : StoreError Reason → String
  | .unsupportedVersion tag version =>
      "record " ++ tag ++ " has format version " ++ toString version ++ ", only version " ++
        toString formatVersion ++ " is supported"
  | .unknownTag tag => "unknown record tag " ++ Text.quoted '"' tag.toList
  | .nestedTooDeep =>
      malformed ("records nested deeper than " ++ toString maxNesting ++ " levels")
  | .unexpectedRecord tag =>
      malformed ("expected a bound identifier, found " ++ tag ++ " record")
  | .unpairedSurrogate unit =>
      malformed ("unpaired surrogate 0x" ++ String.ofList (Nat.toDigits 16 unit) ++
        " as type symbol")
  | .invalidText stop => malformed ("invalid UTF-8 string: " ++ stop.message)
  | .textTooLong bytes => malformed ("string of " ++ toString bytes ++ " bytes is too long")
  | .symbolOutOfRange symbol =>
      "symbol " ++ Text.quoted '\'' [symbol] ++ " cannot be stored as a single UTF-16 code unit"
  | .endOfBytes => "failed to fill whole buffer"
  | .source reason => toString reason
  | .sinkFull => "failed to write whole buffer"

end StoreError

end Denotation
