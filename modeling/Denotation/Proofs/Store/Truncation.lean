import Denotation.Proofs.Store.Fields

/-!
# Truncated records

If a record is cut off anywhere, reading it runs out of bytes, and no other fault is found before.  The
cut is in one of the fields: those before it are read as they were written, and that field begins as it
should and has too few bytes.

No record of a type or a term goes on where that of another one ends, since a reader takes from the longer
one what it takes from the shorter one.
-/

namespace Denotation

section Cut

variable {part first second : List UInt8}

/-- A proper prefix of two pieces ends in the first one or is all of it and ends in the second one. -/
theorem cut_append (isPrefix : part <+: first ++ second)
    (proper : part.length < (first ++ second).length) :
    (part <+: first ∧ part.length < first.length) ∨
      ∃ tail, part = first ++ tail ∧ tail <+: second ∧ tail.length < second.length := by
  by_cases short : part.length < first.length
  · refine Or.inl ⟨?_, short⟩
    exact List.prefix_of_prefix_length_le isPrefix (List.prefix_append first second) (Nat.le_of_lt short)
  · obtain ⟨tail, rfl⟩ :=
      List.prefix_of_prefix_length_le (List.prefix_append first second) isPrefix (Nat.not_lt.mp short)
    rw [List.length_append, List.length_append] at proper
    exact Or.inr ⟨tail, rfl, (List.prefix_append_right_inj first).mp isPrefix, by omega⟩

theorem Reader.bytes_failsOn {count : Nat} (few : part.length < count) :
    (Reader.bytes count).FailsOn part .endOfBytes :=
  fun depth => ⟨[], Reader.bytes_of_lt few depth⟩

theorem Reader.word_failsOn {word : Nat} (few : part.length < (Store.wordBytes word).length) :
    Reader.word.FailsOn part .endOfBytes :=
  .bind (Reader.bytes_failsOn few)

theorem Reader.text_failsOn {content : String} (written : (Emission.ofText content).fault = none)
    (isPrefix : part <+: (Emission.ofText content).bytes)
    (proper : part.length < (Emission.ofText content).bytes.length) :
    Reader.text.FailsOn part .endOfBytes := by
  have short := Emission.fault_ofText_eq_none_iff.mp written
  rw [Emission.bytes_ofText short] at isPrefix proper
  rcases cut_append isPrefix proper with ⟨-, few⟩ | ⟨tail, rfl, -, few⟩
  · exact .bind (Reader.word_failsOn few)
  · exact .bind_after (Reader.word_append short tail) (.bind (Reader.bytes_failsOn few))

theorem Reader.header_failsOn {tag : String} (written : (Emission.header tag).fault = none)
    (isPrefix : part <+: (Emission.header tag).bytes)
    (proper : part.length < (Emission.header tag).bytes.length) :
    Reader.header.FailsOn part .endOfBytes := by
  have textWritten := (Emission.fault_append_eq_none_iff.mp written).1
  rw [Emission.header, Emission.bytes_append textWritten] at isPrefix proper
  rcases cut_append isPrefix proper with ⟨inText, shorter⟩ | ⟨tail, rfl, -, few⟩
  · exact .bind (Reader.text_failsOn textWritten inText shorter)
  · exact .bind_after ((ReadsBack.text tag).reads textWritten trivial tail)
      (.bind (Reader.word_failsOn few))

theorem Field.failsOn_cut {field : Field} (written : field.emission.fault = none)
    (isPrefix : part <+: field.emission.bytes) (proper : part.length < field.emission.bytes.length) :
    field.FailsOn part .endOfBytes := by
  cases field with
  | header tag => exact Reader.header_failsOn written isPrefix proper
  | text content => exact Reader.text_failsOn written isPrefix proper
  | symbol char =>
      rw [Field.emission, Emission.bytes_ofSymbol (Emission.fault_ofSymbol_eq_none_iff.mp written)]
        at proper
      exact .bind (Reader.word_failsOn proper)

/-- A proper prefix of a sequence of fields ends in one of them. -/
theorem exists_cut_field {fields : List Field} (written : (Emission.ofFields fields).fault = none)
    (isPrefix : part <+: (Emission.ofFields fields).bytes)
    (proper : part.length < (Emission.ofFields fields).bytes.length) :
    ∃ before field after cut, fields = before ++ field :: after ∧
      (Emission.ofFields before).fault = none ∧ part = (Emission.ofFields before).bytes ++ cut ∧
      field.FailsOn cut .endOfBytes := by
  induction fields generalizing part with
  | nil => cases proper
  | cons field rest restIH =>
      rw [Emission.ofFields_cons] at written isPrefix proper
      obtain ⟨fieldWritten, restWritten⟩ := Emission.fault_append_eq_none_iff.mp written
      rw [Emission.bytes_append fieldWritten] at isPrefix proper
      rcases cut_append isPrefix proper with ⟨inField, shorter⟩ | ⟨tail, rfl, inRest, shorter⟩
      · exact ⟨[], field, rest, part, rfl, rfl, rfl, Field.failsOn_cut fieldWritten inField shorter⟩
      · obtain ⟨before, cutField, after, cut, rfl, beforeWritten, rfl, fails⟩ :=
          restIH restWritten inRest shorter
        refine ⟨field :: before, cutField, after, cut, rfl, ?_, ?_, fails⟩
        · exact Emission.fault_append_eq_none_iff.mpr ⟨fieldWritten, beforeWritten⟩
        · rw [Emission.ofFields_cons, Emission.bytes_append fieldWritten, List.append_assoc]

end Cut

/-- One read gets the same value from bytes and from bytes that go on after them. -/
theorem ReadsBack.eq_of_isPrefix {α : Type} {emission other : Emission} {value otherValue : α}
    {fits fitsOther : Prop} {read : Reading α} (readsBack : ReadsBack emission value fits read)
    (readsOther : ReadsBack other otherValue fitsOther read) (enough : fits) (enoughOther : fitsOther)
    (written : emission.fault = none) (otherWritten : other.fault = none)
    (isPrefix : emission.bytes <+: other.bytes) : value = otherValue := by
  obtain ⟨rest, same⟩ := isPrefix
  have shorter := readsBack.reads written enough rest 0
  have longer := readsOther.reads otherWritten enoughOther [] 0
  rw [List.append_nil, ← same, shorter] at longer
  cases longer
  rfl

/-- How deep the records are does not matter here: a reader with levels enough for both reads both. -/
theorem Record.eq_of_isPrefix {record other : Record} (sameKind : other.kind = record.kind)
    (written : record.emission.fault = none) (otherWritten : other.emission.fault = none)
    (isPrefix : record.emission.bytes <+: other.emission.bytes) : other = record := by
  cases record with
  | ty held =>
      cases other with
      | term _ => cases sameKind
      | ty otherHeld =>
          let levels := max held.recordDepth otherHeld.recordDepth
          have same := (held.readsBack levels).eq_of_isPrefix (otherHeld.readsBack levels)
            (Nat.le_max_left _ _) (Nat.le_max_right _ _) written otherWritten isPrefix
          rw [same]
  | term held =>
      cases other with
      | ty _ => cases sameKind
      | term otherHeld =>
          let levels := max held.recordDepth otherHeld.recordDepth
          have same := (held.readsBack levels).eq_of_isPrefix (otherHeld.readsBack levels)
            (Nat.le_max_left _ _) (Nat.le_max_right _ _) written otherWritten isPrefix
          rw [same]

/-- A type or a term that was written and then cut off anywhere runs out of bytes when it is read.  No
written form of a type is the beginning of that of another type, and no written form of a term is the
beginning of that of another term. -/
theorem truncation_detected {record : Record} {bytes : List UInt8}
    (stored : (Sink.empty none).write record.emission = (.ok (), ⟨none, bytes⟩)) :
    (record.depth ≤ maxNesting → ∀ part, part <+: bytes → part ≠ bytes →
      readRecord record.kind part = .error .endOfBytes) ∧
    ∀ other otherBytes, other.kind = record.kind →
      (Sink.empty none).write other.emission = (.ok (), ⟨none, otherBytes⟩) →
        bytes <+: otherBytes → other = record := by
  obtain ⟨written, sameSink⟩ := Sink.write_unbounded_eq_ok_iff.mp stored
  cases sameSink
  constructor
  · intro shallow part isPrefix proper
    rw [← record.ofFields_fields] at written isPrefix proper
    have shorter := Nat.lt_of_le_of_ne isPrefix.length_le fun same => proper (isPrefix.eq_of_length same)
    obtain ⟨before, field, after, cut, split, beforeWritten, rfl, fails⟩ :=
      exists_cut_field written isPrefix shorter
    exact Record.failsInOrder shallow split beforeWritten fails
  · intro other otherBytes sameKind otherStored isPrefix
    obtain ⟨otherWritten, sameOther⟩ := Sink.write_unbounded_eq_ok_iff.mp otherStored
    cases sameOther
    exact Record.eq_of_isPrefix sameKind written otherWritten isPrefix

/-- The record of `ιξ[P(ξ)]` ends between the two bytes of `ξ`.  It does not begin that of `P`. -/
theorem truncation_detected_in_name :
    let id : Ident := ⟨.var, "ξ", .entity⟩
    let predicate : Term := .ident ⟨.const, "P", .predicate⟩
    let record := Record.term (.binder .iota id (.app predicate (.ident id)))
    let other := Record.term predicate
    record.IsStorable ∧ record.depth ≤ maxNesting ∧ other.IsStorable ∧
      readRecord .term (record.emission.bytes.take 18) = .error .endOfBytes ∧
      ¬ record.emission.bytes <+: other.emission.bytes := by
  intro id predicate record other
  have storable : record.IsStorable := by decide
  have otherStorable : other.IsStorable := by decide
  have shallow : record.depth ≤ maxNesting := by decide
  obtain ⟨cutOff, notBeginning⟩ := truncation_detected (Record.write_of_isStorable storable)
  refine ⟨storable, shallow, otherStorable, ?_, fun isPrefix => ?_⟩
  · exact cutOff shallow _ (List.take_prefix 18 _) (by decide)
  · have same : other = record :=
      notBeginning other _ rfl (Record.write_of_isStorable otherStorable) isPrefix
    exact absurd same (by decide)

end Denotation
