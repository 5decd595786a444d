import Mathlib.Data.List.Basic
import Denotation.Proofs.Store.RoundTrip
import Denotation.Proofs.Store.Writing

/-!
# Reading nothing else

A reader accepts no bytes but those that are written for what it gets from them, so there is one
stored form of each type and each term.  Every way through the reader that ends well is followed
back: a word determines its two bytes, a text its bytes in UTF-8, a tag the kind of node, and the
only version is the one that is written.
-/

namespace Denotation

/-- The bytes between two states of a reader are those of the emission, and all records opened in
between were left again. -/
structure Reader.Passes (reader : Reader) (emission : Emission) (after : Reader) : Prop where
  written : emission.fault = none
  unread : reader.unread = emission.bytes ++ after.unread
  depth : after.depth = reader.depth

namespace Reader

variable {reader between after : Reader}

theorem Passes.append {first second : Emission} (passesFirst : reader.Passes first between)
    (passesSecond : between.Passes second after) : reader.Passes (first ++ second) after where
  written := Emission.fault_append_eq_none_iff.mpr ⟨passesFirst.written, passesSecond.written⟩
  unread := by
    rw [Emission.bytes_append passesFirst.written, List.append_assoc, ← passesSecond.unread]
    exact passesFirst.unread
  depth := passesSecond.depth.trans passesFirst.depth

theorem length_eq_and_passes_of_bytes {count : Nat} {taken : List UInt8}
    (read : bytes count reader = .ok taken after) :
    taken.length = count ∧ reader.Passes (.ofBytes taken) after := by
  rw [bytes_eq] at read
  split at read
  · rename_i enough
    cases read
    refine ⟨List.length_take_of_le enough, rfl, ?_, rfl⟩
    exact (List.take_append_drop count reader.unread).symm
  · cases read

theorem lt_and_passes_of_word {number : Nat} (read : word reader = .ok number after) :
    number < 65536 ∧ reader.Passes (.ofBytes (Store.wordBytes number)) after := by
  rw [word, Reading.bind_eq_ok_iff] at read
  obtain ⟨taken, between, readBytes, decoded⟩ := read
  obtain ⟨rfl, rfl⟩ := Reading.pure_eq_ok_iff.mp decoded
  obtain ⟨length, passes⟩ := length_eq_and_passes_of_bytes readBytes
  obtain ⟨high, low, rfl⟩ := List.length_eq_two.mp length
  rw [Store.wordBytes_wordOf]
  exact ⟨Store.wordOf_lt high low, passes⟩

theorem passes_of_text {content : String} (read : text reader = .ok content after) :
    reader.Passes (.ofText content) after := by
  rw [text, Reading.bind_eq_ok_iff] at read
  obtain ⟨length, afterLength, readLength, readContent⟩ := read
  rw [Reading.bind_eq_ok_iff] at readContent
  obtain ⟨taken, between, readBytes, decoded⟩ := readContent
  obtain ⟨small, passesLength⟩ := lt_and_passes_of_word readLength
  obtain ⟨rfl, passesBytes⟩ := length_eq_and_passes_of_bytes readBytes
  cases valid : Text.ofUtf8Bytes taken with
  | error stop =>
      rw [valid] at decoded
      cases decoded
  | ok found =>
      rw [valid] at decoded
      obtain ⟨rfl, rfl⟩ := Reading.pure_eq_ok_iff.mp decoded
      have same := Text.utf8Bytes_of_ofUtf8Bytes valid
      have short : (Text.utf8Bytes found).length < 65536 := by rw [same]; exact small
      refine ⟨Emission.fault_ofText_eq_none_iff.mpr short, ?_, ?_⟩
      · rw [Emission.bytes_ofText short, same, List.append_assoc]
        exact (passesLength.append passesBytes).unread
      · exact (passesLength.append passesBytes).depth

theorem passes_of_symbol {char : Char} (read : symbol reader = .ok char after) :
    reader.Passes (.ofSymbol char) after := by
  rw [symbol, Reading.bind_eq_ok_iff] at read
  obtain ⟨unit, between, readUnit, decoded⟩ := read
  obtain ⟨small, passes⟩ := lt_and_passes_of_word readUnit
  by_cases valid : unit.isValidChar
  · rw [if_pos valid] at decoded
    obtain ⟨rfl, rfl⟩ := Reading.pure_eq_ok_iff.mp decoded
    have same : (Char.ofNat unit).toNat = unit := by
      rw [Char.ofNat, dif_pos valid]
      rfl
    rw [← same] at small passes
    refine ⟨Emission.fault_ofSymbol_eq_none_iff.mpr small, ?_, passes.depth⟩
    rw [Emission.bytes_ofSymbol small]
    exact passes.unread
  · rw [if_neg valid] at decoded
    cases decoded

theorem passes_of_header {tag : String} (read : header reader = .ok tag after) :
    reader.Passes (.header tag) after := by
  rw [header, Reading.bind_eq_ok_iff] at read
  obtain ⟨found, afterTag, readTag, readRest⟩ := read
  rw [Reading.bind_eq_ok_iff] at readRest
  obtain ⟨version, between, readVersion, decoded⟩ := readRest
  obtain ⟨small, passesVersion⟩ := lt_and_passes_of_word readVersion
  by_cases inUse : Store.signedWord version = formatVersion
  · simp only [if_pos inUse] at decoded
    obtain ⟨rfl, rfl⟩ := Reading.pure_eq_ok_iff.mp decoded
    cases (Store.signedWord_eq_zero_iff small).mp inUse
    exact (passes_of_text readTag).append passesVersion
  · simp only [if_neg inUse] at decoded
    cases decoded

/-- Whatever the read accepts is the emission of the value it gets. -/
def AcceptsOnly {α : Type} (emission : α → Emission) (read : Reading α) : Prop :=
  ∀ reader value after, read reader = .ok value after → reader.Passes (emission value) after

theorem AcceptsOnly.nested {α : Type} {emission : α → Emission} {read : Reading α}
    (accepts : AcceptsOnly emission read) : AcceptsOnly emission (nested read) := by
  intro reader value after succeeded
  unfold Reader.nested at succeeded
  split at succeeded
  · rename_i found inside
    cases succeeded
    obtain ⟨written, unread, depth⟩ := accepts _ _ _ inside
    refine ⟨written, unread, ?_⟩
    rw [depth, Nat.add_sub_cancel]
  · cases succeeded

/-- Two reads after one another, whose values are put together. -/
theorem AcceptsOnly.pair {α β γ : Type} {first : α → Emission} {second : β → Emission}
    {readFirst : Reading α} {readSecond : Reading β} {join : α → β → γ} {joined : γ}
    (acceptsFirst : AcceptsOnly first readFirst) (acceptsSecond : AcceptsOnly second readSecond)
    (succeeded : (do
      let value ← readFirst
      let other ← readSecond
      return join value other) reader = .ok joined after) :
    ∃ value other, join value other = joined ∧ reader.Passes (first value ++ second other) after := by
  rw [Reading.bind_eq_ok_iff] at succeeded
  obtain ⟨value, between, firstRead, rest⟩ := succeeded
  rw [Reading.bind_eq_ok_iff] at rest
  obtain ⟨other, final, secondRead, returned⟩ := rest
  obtain ⟨same, rfl⟩ := Reading.pure_eq_ok_iff.mp returned
  exact ⟨value, other, same,
    (acceptsFirst _ _ _ firstRead).append (acceptsSecond _ _ _ secondRead)⟩

theorem AcceptsOnly.single {α β : Type} {emission : α → Emission} {read : Reading α} {wrap : α → β}
    {wrapped : β} (accepts : AcceptsOnly emission read)
    (succeeded : (do return wrap (← read)) reader = .ok wrapped after) :
    ∃ value, wrap value = wrapped ∧ reader.Passes (emission value) after := by
  rw [Reading.bind_eq_ok_iff] at succeeded
  obtain ⟨value, between, innerRead, returned⟩ := succeeded
  obtain ⟨same, rfl⟩ := Reading.pure_eq_ok_iff.mp returned
  exact ⟨value, same, accepts _ _ _ innerRead⟩

theorem acceptsOnly_tyFields {levels : Nat} (inside : AcceptsOnly Ty.record (tyWithin levels))
    {tag : TyTag} {found : Ty} (read : tyFields levels tag reader = .ok found after) :
    ∃ fields, found.record = .header tag.name ++ fields ∧ reader.Passes fields after := by
  have symbols : AcceptsOnly Emission.ofSymbol symbol := fun _ _ _ => passes_of_symbol
  cases tag with
  | const =>
      obtain ⟨symbol, rfl, passes⟩ := symbols.single read
      exact ⟨_, rfl, passes⟩
  | var =>
      obtain ⟨symbol, rfl, passes⟩ := symbols.single read
      exact ⟨_, rfl, passes⟩
  | fn =>
      obtain ⟨domain, range, rfl, passes⟩ := inside.pair inside read
      exact ⟨_, rfl, passes⟩

theorem acceptsOnly_ty (levels : Nat) : AcceptsOnly Ty.record (tyWithin levels) := by
  induction levels with
  | zero =>
      intro reader found after read
      cases read
  | succ levels inside =>
      rw [tyWithin_succ]
      refine AcceptsOnly.nested fun reader found after read => ?_
      obtain ⟨name, between, readHeader, readFields⟩ := Reading.bind_eq_ok_iff.mp read
      cases known : TyTag.ofName? name with
      | none =>
          rw [known] at readFields
          cases readFields
      | some tag =>
          rw [known] at readFields
          obtain ⟨fields, same, passes⟩ := acceptsOnly_tyFields inside readFields
          rw [same, TyTag.name_of_ofName? known]
          exact (passes_of_header readHeader).append passes

theorem acceptsOnly_identFields (levels : Nat) (kind : IdentKind) {found : Ident}
    (read : identFields levels kind reader = .ok found after) :
    found.kind = kind ∧ reader.Passes (.ofText found.name ++ found.ty.record) after := by
  have texts : AcceptsOnly Emission.ofText text := fun _ _ _ => passes_of_text
  obtain ⟨name, ty, rfl, passes⟩ := texts.pair (acceptsOnly_ty levels) read
  exact ⟨rfl, passes⟩

theorem acceptsOnly_boundIdent (levels : Nat) : AcceptsOnly Ident.record (boundIdent levels) := by
  intro reader found after read
  obtain ⟨name, between, readHeader, readFields⟩ := Reading.bind_eq_ok_iff.mp read
  cases known : TermTag.ofName? name with
  | none =>
      rw [known] at readFields
      cases readFields
  | some tag =>
      rw [known] at readFields
      cases tag with
      | ident kind =>
          obtain ⟨rfl, passes⟩ := acceptsOnly_identFields levels kind readFields
          rw [Ident.record, TermTag.name_of_ofName? known]
          exact (passes_of_header readHeader).append passes
      | _ => cases readFields

theorem acceptsOnly_termFields {levels : Nat} (inside : AcceptsOnly Term.record (termWithin levels))
    {tag : TermTag} {found : Term} (read : termFields levels tag reader = .ok found after) :
    ∃ fields, found.record = .header tag.name ++ fields ∧ reader.Passes fields after := by
  cases tag with
  | ident kind =>
      obtain ⟨id, between, readId, returned⟩ := Reading.bind_eq_ok_iff.mp read
      obtain ⟨rfl, rfl⟩ := Reading.pure_eq_ok_iff.mp returned
      obtain ⟨rfl, passes⟩ := acceptsOnly_identFields levels kind readId
      exact ⟨_, rfl, passes⟩
  | binder kind =>
      obtain ⟨bound, body, rfl, passes⟩ := (acceptsOnly_boundIdent levels).pair inside read
      exact ⟨_, rfl, passes⟩
  | not =>
      obtain ⟨operand, rfl, passes⟩ := inside.single read
      exact ⟨_, rfl, passes⟩
  | binary connective =>
      obtain ⟨left, right, rfl, passes⟩ := inside.pair inside read
      exact ⟨_, rfl, passes⟩
  | equal =>
      obtain ⟨left, right, rfl, passes⟩ := inside.pair inside read
      exact ⟨_, rfl, passes⟩
  | app =>
      obtain ⟨function, argument, rfl, passes⟩ := inside.pair inside read
      exact ⟨_, rfl, passes⟩

theorem acceptsOnly_term (levels : Nat) : AcceptsOnly Term.record (termWithin levels) := by
  induction levels with
  | zero =>
      intro reader found after read
      cases read
  | succ levels inside =>
      rw [termWithin_succ]
      refine AcceptsOnly.nested fun reader found after read => ?_
      obtain ⟨name, between, readHeader, readFields⟩ := Reading.bind_eq_ok_iff.mp read
      cases known : TermTag.ofName? name with
      | none =>
          rw [known] at readFields
          cases readFields
      | some tag =>
          rw [known] at readFields
          obtain ⟨fields, same, passes⟩ := acceptsOnly_termFields inside readFields
          rw [same, TermTag.name_of_ofName? known]
          exact (passes_of_header readHeader).append passes

theorem kind_eq_and_passes_of_record {kind : RecordKind} {found : Record}
    (read : record kind reader = .ok found after) :
    found.kind = kind ∧ reader.Passes found.emission after := by
  cases kind with
  | ty =>
      obtain ⟨held, between, readHeld, returned⟩ := Reading.bind_eq_ok_iff.mp read
      obtain ⟨rfl, rfl⟩ := Reading.pure_eq_ok_iff.mp returned
      exact ⟨rfl, acceptsOnly_ty _ _ _ _ readHeld⟩
  | term =>
      obtain ⟨held, between, readHeld, returned⟩ := Reading.bind_eq_ok_iff.mp read
      obtain ⟨rfl, rfl⟩ := Reading.pure_eq_ok_iff.mp returned
      exact ⟨rfl, acceptsOnly_term _ _ _ _ readHeld⟩

end Reader

/-- Whatever bytes a type or a term is read from, those that were consumed are the ones that writing it
gives.  So it is read from no other bytes. -/
theorem write_of_record_read {bytes : List UInt8} {kind : RecordKind} {found : Record} {after : Reader}
    (read : Reader.record kind (.start bytes) = .ok found after) :
    ∃ consumed, bytes = consumed ++ after.unread ∧
      (Sink.empty none).write found.emission = (.ok (), ⟨none, consumed⟩) ∧
      ∀ otherBytes otherAfter,
        Reader.record kind (.start otherBytes) = .ok found otherAfter →
          otherBytes = consumed ++ otherAfter.unread := by
  have passes := (Reader.kind_eq_and_passes_of_record read).2
  refine ⟨found.emission.bytes, passes.unread, ?_, ?_⟩
  · exact Sink.write_unbounded_eq_ok_iff.mpr ⟨passes.written, rfl⟩
  · intro otherBytes otherAfter otherRead
    exact (Reader.kind_eq_and_passes_of_record otherRead).2.unread

/-- The stored form of `ιξ[¬ξ]`, in which the name takes two bytes, with another byte after it. -/
theorem write_of_description_read :
    let id : Ident := ⟨.var, "ξ", .truth⟩
    let description := Record.term (.binder .iota id (.not (.ident id)))
    let bytes : List UInt8 :=
      [0, 4, 73, 111, 116, 97, 0, 0, 0, 3, 86, 97, 114, 0, 0, 0, 2, 206, 190, 0, 9, 67, 111, 110,
       115, 116, 84, 121, 112, 101, 0, 0, 0, 116, 0, 3, 78, 111, 116, 0, 0, 0, 3, 86, 97, 114, 0, 0,
       0, 2, 206, 190, 0, 9, 67, 111, 110, 115, 116, 84, 121, 112, 101, 0, 0, 0, 116, 255]
    Reader.record .term (.start bytes) = .ok description (.start [255]) ∧
      ∃ consumed, bytes = consumed ++ [255] ∧
        (Sink.empty none).write description.emission = (.ok (), ⟨none, consumed⟩) ∧
        ∀ otherBytes otherAfter,
          Reader.record .term (.start otherBytes) = .ok description otherAfter →
            otherBytes = consumed ++ otherAfter.unread := by
  intro id description bytes
  have storable : description.IsStorable := by decide
  have written : description.emission.bytes ++ [255] = bytes := by decide
  have read : Reader.record .term (.start bytes) = .ok description (.start [255]) := by
    rw [← written]
    exact Record.reads (Record.fault_emission_eq_none_iff.mpr storable) (by decide) [255]
  exact ⟨read, write_of_record_read read⟩

end Denotation
