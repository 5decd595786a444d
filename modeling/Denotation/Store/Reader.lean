import Denotation.Store.Source
import Denotation.Store.Tag
import Denotation.Store.Word

/-!
# Reading records

A reader goes through a source of bytes record by record.  It stops where a record cannot be read, and
the next record is read from there on.

The tag and the version of a record are read before its fields, and the version is looked at before
the tag is.  Records may be inside one another up to a limit.  A reader keeps count of the open
ones, and the record of the bound identifier of a binder is not one of them.
-/

namespace Denotation

structure Reader (σ : Type := List UInt8) where
  unread : σ
  depth : Nat
deriving DecidableEq

/-- A read that leaves the reader at some place whether it succeeds or fails. -/
abbrev ReadingFrom (σ Reason α : Type) : Type := EStateM (StoreError Reason) (Reader σ) α

/-- A read of bytes that are all there from the beginning. -/
abbrev Reading (α : Type) : Type := ReadingFrom (List UInt8) Empty α

namespace Reader

variable {σ Reason : Type}

def start (source : σ) : Reader σ := ⟨source, 0⟩

section Reads

variable [ByteSource σ Reason]

def bytes (count : Nat) : ReadingFrom σ Reason (List UInt8) := fun reader =>
  match ByteSource.take count reader.unread with
  | (.ok taken, unread) => .ok taken.toList { reader with unread }
  | (.error .ended, unread) => .error .endOfBytes { reader with unread }
  | (.error (.other reason), unread) => .error (.source reason) { reader with unread }

def word : ReadingFrom σ Reason Nat := do
  return Store.wordOf (← bytes 2)

def text : ReadingFrom σ Reason String := do
  let length ← word
  match Text.ofUtf8Bytes (← bytes length) with
  | .ok text => return text
  | .error stop => throw (.invalidText stop)

def symbol : ReadingFrom σ Reason Char := do
  let unit ← word
  if unit.isValidChar then return Char.ofNat unit else throw (.unpairedSurrogate unit)

def header : ReadingFrom σ Reason String := do
  let tag ← text
  let version := Store.signedWord (← word)
  if version = formatVersion then return tag else throw (.unsupportedVersion tag version)

/-- Read inside one more record, and leave that record again whatever comes of it. -/
def nested {α : Type} (read : ReadingFrom σ Reason α) : ReadingFrom σ Reason α := fun reader =>
  match read { reader with depth := reader.depth + 1 } with
  | .ok value after => .ok value { after with depth := after.depth - 1 }
  | .error error after => .error error { after with depth := after.depth - 1 }

/-- Read a type when `levels` more records may be opened. -/
def tyWithin : Nat → ReadingFrom σ Reason Ty
  | 0 => throw .nestedTooDeep
  | levels + 1 => nested do
      let tag ← header
      match TyTag.ofName? tag with
      | none => throw (.unknownTag tag)
      | some .const => return .const (← symbol)
      | some .var => return .var (← symbol)
      | some .fn =>
          let domain ← tyWithin levels
          let range ← tyWithin levels
          return .fn domain range

def identFields (levels : Nat) (kind : IdentKind) : ReadingFrom σ Reason Ident := do
  let name ← text
  let ty ← tyWithin levels
  return ⟨kind, name, ty⟩

def boundIdent (levels : Nat) : ReadingFrom σ Reason Ident := do
  let tag ← header
  match TermTag.ofName? tag with
  | some (.ident kind) => identFields levels kind
  | _ => throw (.unexpectedRecord tag)

def termWithin : Nat → ReadingFrom σ Reason Term
  | 0 => throw .nestedTooDeep
  | levels + 1 => nested do
      let tag ← header
      match TermTag.ofName? tag with
      | none => throw (.unknownTag tag)
      | some (.ident kind) => return .ident (← identFields levels kind)
      | some (.binder kind) =>
          let bound ← boundIdent levels
          let body ← termWithin levels
          return .binder kind bound body
      | some .not => return .not (← termWithin levels)
      | some (.binary connective) =>
          let left ← termWithin levels
          let right ← termWithin levels
          return .binary connective left right
      | some .equal =>
          let left ← termWithin levels
          let right ← termWithin levels
          return .equal left right
      | some .app =>
          let function ← termWithin levels
          let argument ← termWithin levels
          return .app function argument

def ty : ReadingFrom σ Reason Ty := fun reader => tyWithin (maxNesting - reader.depth) reader

def term : ReadingFrom σ Reason Term := fun reader => termWithin (maxNesting - reader.depth) reader

end Reads

section OfBytes

theorem bytes_eq (count : Nat) (reader : Reader) :
    bytes count reader =
      if count ≤ reader.unread.length then
        .ok (reader.unread.take count) { reader with unread := reader.unread.drop count }
      else .error .endOfBytes { reader with unread := [] } := by
  by_cases enough : count ≤ reader.unread.length
  · simp [bytes, ByteSource.take, enough]
  · simp [bytes, ByteSource.take, enough]

theorem bytes_append (front rest : List UInt8) (depth : Nat) :
    bytes front.length ⟨front ++ rest, depth⟩ = .ok front ⟨rest, depth⟩ := by
  simp [bytes_eq]

theorem bytes_of_lt {unread : List UInt8} {count : Nat} (few : unread.length < count)
    (depth : Nat) : bytes count ⟨unread, depth⟩ = .error .endOfBytes ⟨[], depth⟩ := by
  simp [bytes_eq, Nat.not_le.mpr few]

theorem word_append {number : Nat} (small : number < 65536) (rest : List UInt8) (depth : Nat) :
    word ⟨Store.wordBytes number ++ rest, depth⟩ = .ok number ⟨rest, depth⟩ := by
  have taken := bytes_append (Store.wordBytes number) rest depth
  change bytes 2 _ = _ at taken
  simp only [word, bind, EStateM.bind, taken, pure, EStateM.pure, Store.wordOf_wordBytes small]

theorem text_append {content : String} (short : (Text.utf8Bytes content).length < 65536)
    (rest : List UInt8) (depth : Nat) :
    text ⟨Store.wordBytes (Text.utf8Bytes content).length ++ (Text.utf8Bytes content ++ rest),
        depth⟩ =
      .ok content ⟨rest, depth⟩ := by
  simp only [text, bind, EStateM.bind, word_append short, bytes_append,
    Text.ofUtf8Bytes_utf8Bytes, pure, EStateM.pure]

theorem symbol_append {char : Char} (small : char.toNat < 65536) (rest : List UInt8)
    (depth : Nat) :
    symbol ⟨Store.wordBytes char.toNat ++ rest, depth⟩ = .ok char ⟨rest, depth⟩ := by
  have valid : char.toNat.isValidChar := char.valid
  simp only [symbol, bind, EStateM.bind, word_append small, if_pos valid, pure, EStateM.pure,
    Char.ofNat_toNat]

theorem header_append {tag : String} (short : (Text.utf8Bytes tag).length < 65536)
    (rest : List UInt8) (depth : Nat) :
    header ⟨Store.wordBytes (Text.utf8Bytes tag).length ++
        (Text.utf8Bytes tag ++ (Store.wordBytes 0 ++ rest)), depth⟩ =
      .ok tag ⟨rest, depth⟩ := by
  have inUse : Store.signedWord 0 = formatVersion := rfl
  simp only [header, bind, EStateM.bind, text_append short,
    word_append (by decide : 0 < 65536), if_pos inUse, pure, EStateM.pure]

end OfBytes

end Reader

namespace Reading

variable {σ Reason α : Type}

def result (read : ReadingFrom σ Reason α) (reader : Reader σ) : Except (StoreError Reason) α :=
  match read reader with
  | .ok value _ => .ok value
  | .error error _ => .error error

def after (read : ReadingFrom σ Reason α) (reader : Reader σ) : Reader σ :=
  match read reader with
  | .ok _ after => after
  | .error _ after => after

end Reading

end Denotation
