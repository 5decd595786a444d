/-!
# Texts as bytes in UTF-8

Decoding tells where invalid bytes begin and how many of them belong together.  A sequence is invalid
from its first byte on if no character begins with that byte, and otherwise ends before the first
byte that no longer fits.  Overlong forms, surrogates and values past the last code point do not fit
at their second byte.  If the bytes end while everything fits, the sequence is incomplete.
-/

namespace Denotation.Text

/-- Where a scan of bytes stops: the index at which the last sequence starts, and the number of its
bytes that were accepted, which is not known if the bytes end there. -/
structure Utf8Stop where
  index : Nat
  length : Option Nat
deriving DecidableEq

def Utf8Stop.message : Utf8Stop → String
  | ⟨index, some length⟩ =>
      "invalid utf-8 sequence of " ++ toString length ++ " bytes from index " ++ toString index
  | ⟨index, none⟩ => "incomplete utf-8 byte sequence from index " ++ toString index

/-- What has to follow in a sequence: a number of bytes, of which the next lies between two
bounds. -/
structure Utf8Expected where
  count : Nat
  low : UInt8
  high : UInt8

def utf8Expected? (first : UInt8) : Option Utf8Expected :=
  if first < 0x80 then some ⟨0, 0, 0⟩
  else if first < 0xC2 then none
  else if first < 0xE0 then some ⟨1, 0x80, 0xBF⟩
  else if first = 0xE0 then some ⟨2, 0xA0, 0xBF⟩
  else if first = 0xED then some ⟨2, 0x80, 0x9F⟩
  else if first < 0xF0 then some ⟨2, 0x80, 0xBF⟩
  else if first = 0xF0 then some ⟨3, 0x90, 0xBF⟩
  else if first < 0xF4 then some ⟨3, 0x80, 0xBF⟩
  else if first = 0xF4 then some ⟨3, 0x80, 0x8F⟩
  else none

/-- Scan bytes from the index `start`, where a sequence begins of which `seen` bytes were accepted
already. -/
def utf8StopFrom (start seen : Nat) (expected : Utf8Expected) : List UInt8 → Utf8Stop
  | [] => ⟨start, none⟩
  | byte :: rest =>
      match expected with
      | ⟨0, _, _⟩ =>
          match utf8Expected? byte with
          | some next => utf8StopFrom (start + seen) 1 next rest
          | none => ⟨start + seen, some 1⟩
      | ⟨count + 1, low, high⟩ =>
          if low ≤ byte ∧ byte ≤ high then
            utf8StopFrom start (seen + 1) ⟨count, 0x80, 0xBF⟩ rest
          else ⟨start, some seen⟩

def utf8Stop (bytes : List UInt8) : Utf8Stop := utf8StopFrom 0 0 ⟨0, 0, 0⟩ bytes

def utf8Bytes (text : String) : List UInt8 := text.toByteArray.data.toList

/-- The text that the bytes stand for, or the place where they stand for none. -/
def ofUtf8Bytes (bytes : List UInt8) : Except Utf8Stop String :=
  match String.fromUTF8? ⟨bytes.toArray⟩ with
  | some text => .ok text
  | none => .error (utf8Stop bytes)

theorem ofUtf8Bytes_utf8Bytes (text : String) : ofUtf8Bytes (utf8Bytes text) = .ok text := by
  have same : ByteArray.mk (utf8Bytes text).toArray = text.toByteArray := rfl
  have found : String.fromUTF8? text.toByteArray = some text := dif_pos text.isValidUTF8
  simp only [ofUtf8Bytes, same, found]

theorem utf8Bytes_of_ofUtf8Bytes {bytes : List UInt8} {text : String}
    (decoded : ofUtf8Bytes bytes = .ok text) : utf8Bytes text = bytes := by
  simp only [ofUtf8Bytes, String.fromUTF8?] at decoded
  split at decoded
  · rename_i found
    split at found
    · cases decoded
      cases found
      rfl
    · contradiction
  · contradiction

end Denotation.Text
