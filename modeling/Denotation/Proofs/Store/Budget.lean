import Denotation.Proofs.Store.Reading
import Denotation.Store.Record

/-!
# The nesting budget

Records opened by a read are left again whatever comes of it, so no read takes away from the nesting
that a later one may use.  `Reader.GoesOn` compares a reader before and after: all that was opened
in between is left, and the source is as some requests left it.  Each primitive read goes on so, and a
chain of reads if its links do; the recursion is on the number of levels that may still be opened.

Nothing is asked of the source.  It may fail for reasons of its own, at any place, and go on afterwards.

That number is given to a read and handed down, while the depth is a field of the reader.  The two
agree only because the depth is restored between two reads of one record.  So a record inside another
is read like any other, and refused exactly when the reader is at the limit: `Reader.ty_eq_limited`
and `Reader.term_eq_limited`.
-/

namespace Denotation

namespace ByteSource.Leaves

theorem trans {σ Reason : Type} [ByteSource σ Reason] {source between after : σ}
    (first : Leaves source between) (second : Leaves between after) : Leaves source after := by
  induction second with
  | all => exact first
  | take count _ firstIH => exact .take count firstIH

theorem take_suffix (count : Nat) (bytes : List UInt8) :
    (ByteSource.take count bytes).2 <:+ bytes := by
  by_cases enough : count ≤ bytes.length
  · simp only [ByteSource.take, dif_pos enough]
    exact List.drop_suffix count bytes
  · simp only [ByteSource.take, dif_neg enough]
    exact List.nil_suffix

/-- Bytes that are all there from the beginning are only used up. -/
theorem suffix {bytes after : List UInt8} (leaves : Leaves bytes after) : after <:+ bytes := by
  induction leaves with
  | all => exact List.suffix_refl bytes
  | take count _ suffixIH => exact (take_suffix count _).trans suffixIH

end ByteSource.Leaves

variable {σ Reason : Type}

section Levels

variable {α : Type}

/-- The two reads are the same for a reader that may open this many levels more. -/
def ReadingFrom.AgreeAt (levels : Nat) (read other : ReadingFrom σ Reason α) : Prop :=
  ∀ reader : Reader σ, reader.depth + levels = maxNesting → read reader = other reader

theorem ReadingFrom.AgreeAt.refl (levels : Nat) (read : ReadingFrom σ Reason α) :
    ReadingFrom.AgreeAt levels read read :=
  fun _ _ => rfl

namespace Reader

/-- Read one record deeper unless the reader is at the limit. -/
def limited (read : ReadingFrom σ Reason α) : ReadingFrom σ Reason α := fun reader =>
  if reader.depth < maxNesting then nested read reader else .error .nestedTooDeep reader

/-- A read that is told how many levels it has left opens one of them, or there is none. -/
theorem limited_eq {read : Nat → ReadingFrom σ Reason α} {opened : ReadingFrom σ Reason α}
    {inside : Nat → ReadingFrom σ Reason α} (noneLeft : read 0 = throw .nestedTooDeep)
    (oneMore : ∀ levels, read (levels + 1) = nested (inside levels))
    (agree : ∀ levels, ReadingFrom.AgreeAt levels (inside levels) opened) (reader : Reader σ) :
    read (maxNesting - reader.depth) reader = limited opened reader := by
  rw [limited]
  by_cases room : reader.depth < maxNesting
  · obtain ⟨levels, remaining⟩ := Nat.exists_eq_add_of_lt room
    have left : maxNesting - reader.depth = levels + 1 := by omega
    have leftInside : reader.depth + 1 + levels = maxNesting := by omega
    have inner := agree levels { reader with depth := reader.depth + 1 } leftInside
    rw [if_pos room, left, oneMore, nested, nested, inner]
  · rw [if_neg room, Nat.sub_eq_zero_of_le (Nat.le_of_not_lt room), noneLeft]
    rfl

end Reader

end Levels

variable [ByteSource σ Reason]

/-- How a reader may stand after a read, whether that succeeded or failed. -/
structure Reader.GoesOn (before after : Reader σ) : Prop where
  depth : after.depth = before.depth
  unread : ByteSource.Leaves before.unread after.unread

namespace Reader.GoesOn

variable {first second third : Reader σ}

theorem refl (reader : Reader σ) : reader.GoesOn reader := ⟨rfl, .all⟩

theorem trans (one : first.GoesOn second) (two : second.GoesOn third) : first.GoesOn third :=
  ⟨two.depth.trans one.depth, one.unread.trans two.unread⟩

theorem eq_start {source : σ} (goesOn : (start source).GoesOn second) :
    second = start second.unread := by
  obtain ⟨unread, depth⟩ := second
  have outermost : depth = 0 := goesOn.depth
  rw [outermost]
  rfl

end Reader.GoesOn

def ReadingFrom.Restores {α : Type} (read : ReadingFrom σ Reason α) : Prop :=
  ∀ reader : Reader σ, reader.GoesOn (Reading.after read reader)

namespace ReadingFrom.Restores

variable {α β : Type} {read : ReadingFrom σ Reason α} {next : α → ReadingFrom σ Reason β}

theorem pure (value : α) : (pure value : ReadingFrom σ Reason α).Restores := fun reader => .refl reader

theorem throw (error : StoreError Reason) : (throw error : ReadingFrom σ Reason α).Restores :=
  fun reader => .refl reader

theorem goesOn_of_ok {value : α} {reader after : Reader σ} (restores : read.Restores)
    (succeeded : read reader = .ok value after) : reader.GoesOn after := by
  simpa only [Reading.after, succeeded] using restores reader

theorem goesOn_of_error {error : StoreError Reason} {reader after : Reader σ} (restores : read.Restores)
    (failed : read reader = .error error after) : reader.GoesOn after := by
  simpa only [Reading.after, failed] using restores reader

theorem bind (readRestores : read.Restores) (nextRestores : ∀ value, (next value).Restores) :
    (read >>= next).Restores := by
  intro reader
  cases outcome : read reader with
  | ok value between =>
      rw [Reading.after, Reading.bind_of_ok outcome]
      exact (readRestores.goesOn_of_ok outcome).trans (nextRestores value between)
  | error error after =>
      rw [Reading.after, Reading.bind_of_error outcome]
      exact readRestores.goesOn_of_error outcome

/-- The depth goes down again on both ways out, so what the inner read restored is one too much. -/
theorem nested (restores : read.Restores) : (Reader.nested read).Restores := by
  intro reader
  cases outcome : read { reader with depth := reader.depth + 1 } with
  | ok value after =>
      have inner := restores.goesOn_of_ok outcome
      simp only [Reading.after, Reader.nested, outcome]
      exact ⟨by rw [inner.depth]; rfl, inner.unread⟩
  | error error after =>
      have inner := restores.goesOn_of_error outcome
      simp only [Reading.after, Reader.nested, outcome]
      exact ⟨by rw [inner.depth]; rfl, inner.unread⟩

end ReadingFrom.Restores

namespace Reader

/-- Whatever the source answers, the reader goes on with what it is then. -/
theorem after_bytes (count : Nat) (reader : Reader σ) :
    Reading.after (bytes count) reader =
      { reader with unread := (ByteSource.take count reader.unread).2 } := by
  rw [Reading.after, bytes]
  obtain ⟨answer, unread⟩ := ByteSource.take count reader.unread
  cases answer with
  | ok taken => rfl
  | error shortage =>
      cases shortage with
      | ended => rfl
      | other reason => rfl

theorem bytes_restores (count : Nat) :
    (bytes count : ReadingFrom σ Reason (List UInt8)).Restores := by
  intro reader
  rw [after_bytes]
  exact ⟨rfl, .take count .all⟩

theorem word_restores : (word : ReadingFrom σ Reason Nat).Restores :=
  (bytes_restores 2).bind fun _ => .pure _

theorem text_restores : (text : ReadingFrom σ Reason String).Restores := by
  refine word_restores.bind fun length => (bytes_restores length).bind fun content => ?_
  cases Text.ofUtf8Bytes content with
  | ok text => exact .pure text
  | error stop => exact .throw (.invalidText stop)

theorem symbol_restores : (symbol : ReadingFrom σ Reason Char).Restores := by
  refine word_restores.bind fun unit => ?_
  split
  · exact .pure _
  · exact .throw _

theorem header_restores : (header : ReadingFrom σ Reason String).Restores := by
  refine text_restores.bind fun tag => word_restores.bind fun version => ?_
  dsimp only
  split
  · exact .pure _
  · exact .throw _

theorem tyWithin_restores (levels : Nat) : (tyWithin levels : ReadingFrom σ Reason Ty).Restores := by
  induction levels with
  | zero =>
      rw [tyWithin]
      exact .throw _
  | succ levels levelsIH =>
      rw [tyWithin_succ]
      refine (header_restores.bind fun name => ?_).nested
      cases TyTag.ofName? name with
      | none => exact .throw _
      | some tag =>
          cases tag with
          | const => exact symbol_restores.bind fun _ => .pure _
          | var => exact symbol_restores.bind fun _ => .pure _
          | fn => exact levelsIH.bind fun _ => levelsIH.bind fun _ => .pure _

theorem identFields_restores (levels : Nat) (kind : IdentKind) :
    (identFields levels kind : ReadingFrom σ Reason Ident).Restores :=
  text_restores.bind fun _ => (tyWithin_restores levels).bind fun _ => .pure _

theorem boundIdent_restores (levels : Nat) :
    (boundIdent levels : ReadingFrom σ Reason Ident).Restores := by
  refine header_restores.bind fun name => ?_
  split
  · exact identFields_restores levels _
  · exact .throw _

theorem termWithin_restores (levels : Nat) :
    (termWithin levels : ReadingFrom σ Reason Term).Restores := by
  induction levels with
  | zero =>
      rw [termWithin]
      exact .throw _
  | succ levels levelsIH =>
      rw [termWithin_succ]
      refine (header_restores.bind fun name => ?_).nested
      cases TermTag.ofName? name with
      | none => exact .throw _
      | some tag =>
          cases tag with
          | ident kind => exact (identFields_restores levels kind).bind fun _ => .pure _
          | binder kind =>
              exact (boundIdent_restores levels).bind fun _ => levelsIH.bind fun _ => .pure _
          | not => exact levelsIH.bind fun _ => .pure _
          | binary connective => exact levelsIH.bind fun _ => levelsIH.bind fun _ => .pure _
          | equal => exact levelsIH.bind fun _ => levelsIH.bind fun _ => .pure _
          | app => exact levelsIH.bind fun _ => levelsIH.bind fun _ => .pure _

theorem ty_restores : (ty : ReadingFrom σ Reason Ty).Restores :=
  fun reader => tyWithin_restores (maxNesting - reader.depth) reader

theorem term_restores : (term : ReadingFrom σ Reason Term).Restores :=
  fun reader => termWithin_restores (maxNesting - reader.depth) reader

theorem record_restores (kind : RecordKind) : (record kind : ReadingFrom σ Reason Record).Restores := by
  cases kind with
  | ty => exact ty_restores.bind fun _ => .pure _
  | term => exact term_restores.bind fun _ => .pure _

end Reader

section Levels

variable {α β : Type} {levels : Nat} {read other : ReadingFrom σ Reason α}
  {next nextOther : α → ReadingFrom σ Reason β}

theorem ReadingFrom.AgreeAt.bind (readsAgree : ReadingFrom.AgreeAt levels read other)
    (restores : read.Restores)
    (nextAgree : ∀ value, ReadingFrom.AgreeAt levels (next value) (nextOther value)) :
    ReadingFrom.AgreeAt levels (read >>= next) (other >>= nextOther) := by
  intro reader remaining
  have same := readsAgree reader remaining
  cases outcome : read reader with
  | ok value between =>
      -- the second read starts where the first has gone, with the same levels left
      have restored : between.depth + levels = maxNesting := by
        rw [(restores.goesOn_of_ok outcome).depth, remaining]
      rw [Reading.bind_of_ok outcome, Reading.bind_of_ok (same.symm.trans outcome)]
      exact nextAgree value between restored
  | error error after =>
      rw [Reading.bind_of_error outcome, Reading.bind_of_error (same.symm.trans outcome)]

end Levels

namespace Reader

/-- The record of a type, where each type inside it is read by the same rule. -/
def tyRecord : ReadingFrom σ Reason Ty := do
  let name ← header
  match TyTag.ofName? name with
  | none => throw (.unknownTag name)
  | some .const => return .const (← symbol)
  | some .var => return .var (← symbol)
  | some .fn =>
      let domain ← ty
      let range ← ty
      return .fn domain range

def identRecord (kind : IdentKind) : ReadingFrom σ Reason Ident := do
  let name ← text
  let ty ← ty
  return ⟨kind, name, ty⟩

def boundRecord : ReadingFrom σ Reason Ident := do
  let name ← header
  match TermTag.ofName? name with
  | some (.ident kind) => identRecord kind
  | _ => throw (.unexpectedRecord name)

def termRecord : ReadingFrom σ Reason Term := do
  let name ← header
  match TermTag.ofName? name with
  | none => throw (.unknownTag name)
  | some (.ident kind) => return .ident (← identRecord kind)
  | some (.binder kind) =>
      let bound ← boundRecord
      let body ← term
      return .binder kind bound body
  | some .not => return .not (← term)
  | some (.binary connective) =>
      let left ← term
      let right ← term
      return .binary connective left right
  | some .equal =>
      let left ← term
      let right ← term
      return .equal left right
  | some .app =>
      let function ← term
      let argument ← term
      return .app function argument

variable {levels : Nat}

theorem tyWithin_agreeAt (levels : Nat) :
    ReadingFrom.AgreeAt levels (tyWithin levels) (ty : ReadingFrom σ Reason Ty) := by
  intro reader remaining
  have left : maxNesting - reader.depth = levels := by omega
  rw [ty, left]

theorem termWithin_agreeAt (levels : Nat) :
    ReadingFrom.AgreeAt levels (termWithin levels) (term : ReadingFrom σ Reason Term) := by
  intro reader remaining
  have left : maxNesting - reader.depth = levels := by omega
  rw [term, left]

theorem identFields_agreeAt (levels : Nat) (kind : IdentKind) :
    ReadingFrom.AgreeAt levels (identFields levels kind)
      (identRecord kind : ReadingFrom σ Reason Ident) :=
  (ReadingFrom.AgreeAt.refl levels text).bind text_restores fun _ =>
    (tyWithin_agreeAt levels).bind (tyWithin_restores levels) fun _ => .refl _ _

theorem boundIdent_agreeAt (levels : Nat) :
    ReadingFrom.AgreeAt levels (boundIdent levels) (boundRecord : ReadingFrom σ Reason Ident) := by
  refine (ReadingFrom.AgreeAt.refl levels header).bind header_restores fun name => ?_
  cases TermTag.ofName? name with
  | none => exact .refl _ _
  | some tag =>
      cases tag with
      | ident kind => exact identFields_agreeAt levels kind
      | _ => exact .refl _ _

theorem ty_eq_limited : (ty : ReadingFrom σ Reason Ty) = limited tyRecord := by
  funext reader
  refine limited_eq (by rw [tyWithin]) (fun levels => tyWithin_succ levels) (fun levels => ?_) reader
  refine (ReadingFrom.AgreeAt.refl levels header).bind header_restores fun name => ?_
  have types : ReadingFrom.AgreeAt levels (tyWithin levels) (ty : ReadingFrom σ Reason Ty) :=
    tyWithin_agreeAt levels
  have restores : (tyWithin levels : ReadingFrom σ Reason Ty).Restores := tyWithin_restores levels
  cases TyTag.ofName? name with
  | none => exact .refl _ _
  | some tag =>
      cases tag with
      | const => exact .refl _ _
      | var => exact .refl _ _
      | fn => exact types.bind restores fun _ => types.bind restores fun _ => .refl _ _

theorem term_eq_limited : (term : ReadingFrom σ Reason Term) = limited termRecord := by
  funext reader
  refine limited_eq (by rw [termWithin]) (fun levels => termWithin_succ levels) (fun levels => ?_) reader
  refine (ReadingFrom.AgreeAt.refl levels header).bind header_restores fun name => ?_
  have terms : ReadingFrom.AgreeAt levels (termWithin levels) (term : ReadingFrom σ Reason Term) :=
    termWithin_agreeAt levels
  have restores : (termWithin levels : ReadingFrom σ Reason Term).Restores :=
    termWithin_restores levels
  cases TermTag.ofName? name with
  | none => exact .refl _ _
  | some tag =>
      cases tag with
      | ident kind =>
          exact (identFields_agreeAt levels kind).bind (identFields_restores levels kind) fun _ =>
            .refl _ _
      | binder kind =>
          exact (boundIdent_agreeAt levels).bind (boundIdent_restores levels) fun _ =>
            terms.bind restores fun _ => .refl _ _
      | not => exact terms.bind restores fun _ => .refl _ _
      | binary connective => exact terms.bind restores fun _ => terms.bind restores fun _ => .refl _ _
      | equal => exact terms.bind restores fun _ => terms.bind restores fun _ => .refl _ _
      | app => exact terms.bind restores fun _ => terms.bind restores fun _ => .refl _ _

end Reader

/-- Read the records with a new reader for each, which starts on what the one before left unread.
With each result goes what is unread after it. -/
def freshRecords (source : σ) : List RecordKind → List (Except (StoreError Reason) Record × σ)
  | [] => []
  | kind :: rest =>
      let unread := (Reading.after (Reader.record kind) (.start source)).unread
      (readRecord kind source, unread) :: freshRecords unread rest

theorem leaves_of_mem_freshRecords {source : σ} {kinds : List RecordKind}
    {outcome : Except (StoreError Reason) Record × σ}
    (member : outcome ∈ freshRecords source kinds) : ByteSource.Leaves source outcome.2 := by
  induction kinds generalizing source with
  | nil => cases member
  | cons kind rest restIH =>
      have first := (Reader.record_restores kind (.start source)).unread
      rw [freshRecords, List.mem_cons] at member
      rcases member with here | later
      · rw [here]
        exact first
      · exact first.trans (restIH later)

theorem records_eq_map_freshRecords (source : σ) (kinds : List RecordKind) :
    (Reader.start source).records kinds =
      (freshRecords source kinds).map fun outcome => (outcome.1, Reader.start outcome.2) := by
  induction kinds generalizing source with
  | nil => rfl
  | cons kind rest restIH =>
      have left := (Reader.record_restores kind (.start source)).eq_start
      rw [Reader.records, freshRecords, List.map_cons, ← restIH, ← left]
      rfl

/-- A reader is used for a sequence of reads, each of which may fail.  After each of them it is at
depth zero, and it has given what new readers give that start where the one before stopped.  It is the
depth that a record is refused for, at every level.  Of bytes that are all there from the beginning, each
read leaves an end. -/
theorem reads_keep_budget (source : σ) (kinds : List RecordKind) :
    (∀ outcome ∈ (Reader.start source).records kinds,
      outcome.2.depth = 0 ∧ ByteSource.Leaves source outcome.2.unread) ∧
    (Reader.start source).records kinds =
      (freshRecords source kinds).map (fun outcome => (outcome.1, Reader.start outcome.2)) ∧
    (Reader.ty : ReadingFrom σ Reason Ty) = Reader.limited Reader.tyRecord ∧
    (Reader.term : ReadingFrom σ Reason Term) = Reader.limited Reader.termRecord ∧
    ∀ bytes : List UInt8, ∀ outcome ∈ (Reader.start bytes).records kinds,
      outcome.2.unread <:+ bytes := by
  have fresh := records_eq_map_freshRecords source kinds
  refine ⟨fun outcome member => ?_, fresh, Reader.ty_eq_limited, Reader.term_eq_limited, ?_⟩
  · rw [fresh, List.mem_map] at member
    obtain ⟨freshOutcome, freshMember, rfl⟩ := member
    exact ⟨rfl, leaves_of_mem_freshRecords freshMember⟩
  · intro bytes outcome member
    rw [records_eq_map_freshRecords, List.mem_map] at member
    obtain ⟨freshOutcome, freshMember, rfl⟩ := member
    exact (leaves_of_mem_freshRecords freshMember).suffix

end Denotation
