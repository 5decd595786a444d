import Denotation.Proofs.Store.Fields

/-!
# Records of another version

A record of a version that is not in use is reported with its tag and that version, wherever it stands in
the record that is read.  The marks of a record are the places of its headers, so a changed version is a
header that cannot be read, after fields that can.
-/

namespace Denotation

/-- Where the headers are in a sequence of fields. -/
def Field.marks (start : Nat) : Field → List RecordMark
  | .header tag => [.ofStart tag start]
  | .text _ => []
  | .symbol _ => []

namespace RecordMark

def ofFields (start : Nat) : List Field → List RecordMark
  | [] => []
  | field :: rest => field.marks start ++ ofFields (start + field.emission.bytes.length) rest

theorem ofFields_header {tag : String} (written : (Emission.header tag).fault = none) (start : Nat)
    (rest : List Field) :
    ofFields start (.header tag :: rest) =
      .ofStart tag start :: ofFields (start + headerLength tag) rest := by
  have length : (Emission.header tag).bytes.length = headerLength tag := by
    rw [Emission.bytes_header (Emission.fault_header_eq_none_iff.mp written)]
    simp only [List.length_append, Store.wordBytes, List.length_cons, List.length_nil, headerLength]
    omega
  rw [ofFields, Field.marks, Field.emission, length]
  rfl

theorem ofFields_append {first : List Field} (written : (Emission.ofFields first).fault = none)
    (start : Nat) (second : List Field) :
    ofFields start (first ++ second) =
      ofFields start first ++ ofFields (start + (Emission.ofFields first).bytes.length) second := by
  induction first generalizing start with
  | nil => rfl
  | cons field rest restIH =>
      rw [Emission.ofFields_cons] at written ⊢
      obtain ⟨fieldWritten, restWritten⟩ := Emission.fault_append_eq_none_iff.mp written
      rw [Emission.bytes_append fieldWritten, List.length_append, ← Nat.add_assoc, List.cons_append,
        ofFields, ofFields, restIH restWritten, List.append_assoc]

/-- The marks of a node with two parts, the first of which is written as it is in the record. -/
theorem ofFields_pair {tag : String} {first second : List Field} {emission : Emission}
    (same : .ofFields first = emission) (tagWritten : (Emission.header tag).fault = none)
    (written : emission.fault = none) (start : Nat) :
    ofFields start (.header tag :: (first ++ second)) =
      .ofStart tag start :: (ofFields (start + headerLength tag) first ++
        ofFields (start + headerLength tag + emission.bytes.length) second) := by
  subst same
  rw [ofFields_header tagWritten, ofFields_append written]

/-- A mark is the place of a header, at which the fields before it end. -/
theorem exists_header_of_mem_ofFields {fields : List Field}
    (written : (Emission.ofFields fields).fault = none) {start : Nat} {mark : RecordMark}
    (marked : mark ∈ ofFields start fields) :
    ∃ before tag after, fields = before ++ .header tag :: after ∧
      mark = .ofStart tag (start + (Emission.ofFields before).bytes.length) := by
  induction fields generalizing start with
  | nil => cases marked
  | cons field rest restIH =>
      rw [Emission.ofFields_cons] at written
      obtain ⟨fieldWritten, restWritten⟩ := Emission.fault_append_eq_none_iff.mp written
      rcases List.mem_append.mp marked with here | later
      · cases field with
        | header tag => exact ⟨[], tag, rest, rfl, List.mem_singleton.mp here⟩
        | text content => cases here
        | symbol char => cases here
      · obtain ⟨before, tag, after, rfl, same⟩ := restIH restWritten later
        refine ⟨field :: before, tag, after, rfl, ?_⟩
        rw [Emission.ofFields_cons, Emission.bytes_append fieldWritten, List.length_append,
          ← Nat.add_assoc]
        exact same

/-- Another version in a header leaves all other bytes as they are. -/
theorem putVersion_ofStart {tag : String} (written : (Emission.header tag).fault = none) (word : Nat)
    (before after : List UInt8) :
    (ofStart tag before.length).putVersion word (before ++ ((Emission.header tag).bytes ++ after)) =
      before ++ ((Emission.ofText tag).bytes ++ (Store.wordBytes word ++ after)) := by
  have short := Emission.fault_header_eq_none_iff.mp written
  have place : (ofStart tag before.length).version =
      (before ++ (Emission.ofText tag).bytes).length := by
    rw [ofStart, List.length_append, Emission.bytes_ofText short, List.length_append, Nat.add_assoc]
    rfl
  have bytes : before ++ ((Emission.header tag).bytes ++ after) =
      (before ++ (Emission.ofText tag).bytes) ++ (Store.wordBytes 0 ++ after) := by
    rw [Emission.bytes_header short, Emission.bytes_ofText short]
    simp only [List.append_assoc]
  rw [putVersion, bytes, place, List.take_left, List.drop_length_add_append, List.append_assoc,
    List.append_assoc]
  rfl

end RecordMark

theorem Ty.recordMarks_eq_ofFields {ty : Ty} (written : ty.record.fault = none) (start : Nat) :
    ty.recordMarks start = RecordMark.ofFields start ty.fields := by
  induction ty generalizing start with
  | const symbol =>
      rw [fields, RecordMark.ofFields_header (TyTag.fault_header .const)]
      rfl
  | var symbol =>
      rw [fields, RecordMark.ofFields_header (TyTag.fault_header .var)]
      rfl
  | fn domain range domainIH rangeIH =>
      rw [record, Emission.fault_append_eq_none_iff, Emission.fault_append_eq_none_iff] at written
      obtain ⟨-, domainWritten, rangeWritten⟩ := written
      rw [recordMarks, domainIH domainWritten, rangeIH rangeWritten, fields,
        RecordMark.ofFields_pair domain.ofFields_fields (TyTag.fault_header .fn) domainWritten]

theorem Ident.recordMarks_eq_ofFields {id : Ident} (written : id.record.fault = none) (start : Nat) :
    id.recordMarks start = RecordMark.ofFields start id.fields := by
  rw [record, TermTag.fault_record_pair_eq_none_iff] at written
  obtain ⟨nameWritten, tyWritten⟩ := written
  have length : (Emission.ofText id.name).bytes.length = 2 + (Text.utf8Bytes id.name).length := by
    rw [Emission.bytes_ofText (Emission.fault_ofText_eq_none_iff.mp nameWritten), List.length_append]
    rfl
  rw [recordMarks, Ty.recordMarks_eq_ofFields tyWritten, fields,
    RecordMark.ofFields_header (TermTag.fault_header (.ident id.kind)), RecordMark.ofFields,
    Field.emission, length, ← Nat.add_assoc]
  rfl

theorem Term.recordMarks_eq_ofFields {term : Term} (written : term.record.fault = none) (start : Nat) :
    term.recordMarks start = RecordMark.ofFields start term.fields := by
  induction term generalizing start with
  | ident id => exact Ident.recordMarks_eq_ofFields written start
  | binder kind bound body bodyIH =>
      rw [record, TermTag.fault_record_pair_eq_none_iff] at written
      obtain ⟨boundWritten, bodyWritten⟩ := written
      rw [recordMarks, Ident.recordMarks_eq_ofFields boundWritten, bodyIH bodyWritten, fields,
        RecordMark.ofFields_pair bound.ofFields_fields (TermTag.fault_header _) boundWritten]
  | not operand operandIH =>
      rw [record, Emission.fault_append_eq_none_iff] at written
      rw [recordMarks, operandIH written.2, fields,
        RecordMark.ofFields_header (TermTag.fault_header .not)]
  | binary connective left right leftIH rightIH =>
      rw [record, TermTag.fault_record_pair_eq_none_iff] at written
      obtain ⟨leftWritten, rightWritten⟩ := written
      rw [recordMarks, leftIH leftWritten, rightIH rightWritten, fields,
        RecordMark.ofFields_pair left.ofFields_fields (TermTag.fault_header _) leftWritten]
  | equal left right leftIH rightIH =>
      rw [record, TermTag.fault_record_pair_eq_none_iff] at written
      obtain ⟨leftWritten, rightWritten⟩ := written
      rw [recordMarks, leftIH leftWritten, rightIH rightWritten, fields,
        RecordMark.ofFields_pair left.ofFields_fields (TermTag.fault_header _) leftWritten]
  | app function argument functionIH argumentIH =>
      rw [record, TermTag.fault_record_pair_eq_none_iff] at written
      obtain ⟨functionWritten, argumentWritten⟩ := written
      rw [recordMarks, functionIH functionWritten, argumentIH argumentWritten, fields,
        RecordMark.ofFields_pair function.ofFields_fields (TermTag.fault_header _) functionWritten]

def Record.marks : Record → List RecordMark
  | .ty held => held.recordMarks 0
  | .term held => held.recordMarks 0

theorem Record.marks_eq_ofFields {record : Record} (written : record.emission.fault = none) :
    record.marks = RecordMark.ofFields 0 record.fields := by
  cases record with
  | ty held => exact Ty.recordMarks_eq_ofFields written 0
  | term held => exact Term.recordMarks_eq_ofFields written 0

/-- A mark is at a header of the record, and another version changes the bytes of that version only. -/
theorem Record.exists_header_of_mem_marks {record : Record} (written : record.emission.fault = none)
    {mark : RecordMark} (marked : mark ∈ record.marks) :
    ∃ before after, record.fields = before ++ .header mark.tag :: after ∧
      (Emission.ofFields before).fault = none ∧ (Emission.header mark.tag).fault = none ∧
      ∀ word, mark.putVersion word record.emission.bytes =
        (Emission.ofFields before).bytes ++ ((Emission.ofText mark.tag).bytes ++
          (Store.wordBytes word ++ (Emission.ofFields after).bytes)) := by
  rw [marks_eq_ofFields written] at marked
  rw [← record.ofFields_fields] at written ⊢
  obtain ⟨before, tag, after, split, rfl⟩ := RecordMark.exists_header_of_mem_ofFields written marked
  rw [split, Emission.ofFields_append, Emission.fault_append_eq_none_iff, Emission.ofFields_cons,
    Emission.fault_append_eq_none_iff] at written
  obtain ⟨beforeWritten, headerWritten, -⟩ := written
  refine ⟨before, after, split, beforeWritten, headerWritten, fun word => ?_⟩
  rw [split, Emission.ofFields_append, Emission.bytes_append beforeWritten, Emission.ofFields_cons,
    Emission.bytes_append headerWritten, Nat.zero_add]
  exact RecordMark.putVersion_ofStart headerWritten word _ _

/-- The version is looked at before the tag is, so it does not matter what kind of record is expected. -/
theorem Field.header_failsOn {tag : String} (written : (Emission.header tag).fault = none) {word : Nat}
    (small : word < 65536) (foreign : word ≠ 0) (rest : List UInt8) :
    (Field.header tag).FailsOn ((Emission.ofText tag).bytes ++ (Store.wordBytes word ++ rest))
      (.unsupportedVersion tag (Store.signedWord word)) := by
  have textWritten : (Emission.ofText tag).fault = none :=
    (Emission.fault_append_eq_none_iff.mp written).1
  have notInUse : Store.signedWord word ≠ formatVersion :=
    fun inUse => foreign ((Store.signedWord_eq_zero_iff small).mp inUse)
  refine .bind_after ((ReadsBack.text tag).reads textWritten trivial _) ?_
  refine .bind_after (Reader.word_append small rest) fun depth => ⟨rest, ?_⟩
  simp only [if_neg notInUse]
  rfl

/-- Where a type or a term is written and one of its records gets another version, reading it fails, and
the error names the tag of that record and its version, whatever bytes come after. -/
theorem record_of_foreign_version {record : Record} {bytes : List UInt8}
    (stored : (Sink.empty none).write record.emission = (.ok (), ⟨none, bytes⟩))
    (shallow : record.depth ≤ maxNesting) {mark : RecordMark} (marked : mark ∈ record.marks)
    {word : Nat} (small : word < 65536) (foreign : word ≠ 0) (rest : List UInt8) :
    readRecord record.kind (mark.putVersion word bytes ++ rest) =
      .error (.unsupportedVersion mark.tag (Store.signedWord word)) := by
  obtain ⟨written, sameSink⟩ := Sink.write_unbounded_eq_ok_iff.mp stored
  cases sameSink
  obtain ⟨before, after, split, beforeWritten, headerWritten, changed⟩ :=
    Record.exists_header_of_mem_marks written marked
  have fails := Field.header_failsOn headerWritten small foreign
    ((Emission.ofFields after).bytes ++ rest)
  rw [changed]
  simp only [List.append_assoc]
  exact Record.failsInOrder shallow split beforeWritten fails

/-- The version −1 in the record of `'a`, in the type `<e,'a>` of the variable of `ιξ[P(ξ)]`. -/
theorem record_of_foreign_version_in_bound_variable :
    let id : Ident := ⟨.var, "ξ", .fn .entity (.var 'a')⟩
    let record := Record.term (.binder .iota id (.app (.ident ⟨.const, "P", .predicate⟩) (.ident id)))
    let mark : RecordMark := ⟨"VarType", 60⟩
    record.IsStorable ∧ record.depth ≤ maxNesting ∧ mark ∈ record.marks ∧
      readRecord .term (mark.putVersion 65535 record.emission.bytes ++ [255]) =
        .error (.unsupportedVersion "VarType" (-1)) := by
  intro id record mark
  have storable : record.IsStorable := by decide
  have shallow : record.depth ≤ maxNesting := by decide
  have marked : mark ∈ record.marks := by decide
  exact ⟨storable, shallow, marked, record_of_foreign_version (Record.write_of_isStorable storable)
    shallow marked (by decide) (by decide) [255]⟩

end Denotation
