import Denotation.Proofs.Store.RoundTrip

/-!
# Records field by field

A record is a sequence of fields: headers, texts and symbols.  A reader goes through them in the order in
which they were written, so it can stop at any of them.  If the bytes are those of a record up to some
field, and there is no reading of this field from the bytes that come next, then the record is not read
either, and the reason is the one that the field gives.

`FailsInOrder` says so of one read and its fields.  Like `ReadsBack`, it holds of a chain of reads if it
holds of the links.
-/

namespace Denotation

namespace Emission

theorem append_assoc (first second third : Emission) :
    first ++ second ++ third = first ++ (second ++ third) := by
  change append (append first second) third = append first (append second third)
  obtain ⟨bytes, fault⟩ := first
  cases fault with
  | none =>
      obtain ⟨bytes', fault'⟩ := second
      cases fault' <;> simp [append]
  | some _ => simp [append]

theorem append_empty (emission : Emission) : emission ++ ofBytes [] = emission := by
  change append emission (ofBytes []) = emission
  obtain ⟨bytes, fault⟩ := emission
  cases fault <;> simp [append, ofBytes]

theorem empty_append (emission : Emission) : ofBytes [] ++ emission = emission := by
  change append (ofBytes []) emission = emission
  simp [append, ofBytes]

end Emission

inductive Field where
  | header (tag : String)
  | text (content : String)
  | symbol (char : Char)

def Field.emission : Field → Emission
  | .header tag => .header tag
  | .text content => .ofText content
  | .symbol char => .ofSymbol char

def Emission.ofFields (fields : List Field) : Emission :=
  fields.foldr (fun field rest => field.emission ++ rest) (.ofBytes [])

namespace Emission

theorem ofFields_cons (field : Field) (rest : List Field) :
    ofFields (field :: rest) = field.emission ++ ofFields rest := rfl

theorem ofFields_singleton (field : Field) : ofFields [field] = field.emission :=
  append_empty field.emission

theorem ofFields_append (first second : List Field) :
    ofFields (first ++ second) = ofFields first ++ ofFields second := by
  induction first with
  | nil => exact (empty_append _).symm
  | cons field rest restIH =>
      rw [List.cons_append, ofFields_cons, restIH, ofFields_cons, append_assoc]

end Emission

def Ty.fields : Ty → List Field
  | .const symbol => [.header TyTag.const.name, .symbol symbol]
  | .var symbol => [.header TyTag.var.name, .symbol symbol]
  | .fn domain range => .header TyTag.fn.name :: (domain.fields ++ range.fields)

def Ident.fields (id : Ident) : List Field :=
  .header (TermTag.ident id.kind).name :: .text id.name :: id.ty.fields

def Term.fields : Term → List Field
  | .ident id => id.fields
  | .binder kind bound body => .header (TermTag.binder kind).name :: (bound.fields ++ body.fields)
  | .not operand => .header TermTag.not.name :: operand.fields
  | .binary connective left right =>
      .header (TermTag.binary connective).name :: (left.fields ++ right.fields)
  | .equal left right => .header TermTag.equal.name :: (left.fields ++ right.fields)
  | .app function argument => .header TermTag.app.name :: (function.fields ++ argument.fields)

def Record.fields : Record → List Field
  | .ty held => held.fields
  | .term held => held.fields

theorem Ty.ofFields_fields (ty : Ty) : .ofFields ty.fields = ty.record := by
  induction ty with
  | const symbol => rw [fields, Emission.ofFields_cons, Emission.ofFields_singleton]; rfl
  | var symbol => rw [fields, Emission.ofFields_cons, Emission.ofFields_singleton]; rfl
  | fn domain range domainIH rangeIH =>
      rw [fields, Emission.ofFields_cons, Emission.ofFields_append, domainIH, rangeIH]
      rfl

theorem Ident.ofFields_fields (id : Ident) : .ofFields id.fields = id.record := by
  rw [fields, Emission.ofFields_cons, Emission.ofFields_cons, Ty.ofFields_fields]
  rfl

theorem Term.ofFields_fields (term : Term) : .ofFields term.fields = term.record := by
  induction term with
  | ident id => exact id.ofFields_fields
  | binder kind bound body bodyIH =>
      rw [fields, Emission.ofFields_cons, Emission.ofFields_append, Ident.ofFields_fields, bodyIH]
      rfl
  | not operand operandIH =>
      rw [fields, Emission.ofFields_cons, operandIH]
      rfl
  | binary connective left right leftIH rightIH =>
      rw [fields, Emission.ofFields_cons, Emission.ofFields_append, leftIH, rightIH]
      rfl
  | equal left right leftIH rightIH =>
      rw [fields, Emission.ofFields_cons, Emission.ofFields_append, leftIH, rightIH]
      rfl
  | app function argument functionIH argumentIH =>
      rw [fields, Emission.ofFields_cons, Emission.ofFields_append, functionIH, argumentIH]
      rfl

theorem Record.ofFields_fields (record : Record) : .ofFields record.fields = record.emission := by
  cases record with
  | ty held => exact held.ofFields_fields
  | term held => exact held.ofFields_fields

/-- From these bytes the read fails with the error, and all records that it opened are left again. -/
def ReadingFrom.FailsOn {α : Type} (read : Reading α) (bytes : List UInt8) (error : StoreError) : Prop :=
  ∀ depth, ∃ unread, read ⟨bytes, depth⟩ = .error error ⟨unread, depth⟩

namespace ReadingFrom.FailsOn

variable {α β : Type} {read : Reading α} {next : α → Reading β} {bytes rest : List UInt8}
  {error : StoreError}

theorem bind (fails : read.FailsOn bytes error) : (read >>= next).FailsOn bytes error := by
  intro depth
  obtain ⟨unread, failed⟩ := fails depth
  exact ⟨unread, Reading.bind_of_error failed⟩

theorem bind_after {value : α}
    (reads : ∀ depth, read ⟨bytes ++ rest, depth⟩ = .ok value ⟨rest, depth⟩)
    (fails : (next value).FailsOn rest error) : (read >>= next).FailsOn (bytes ++ rest) error := by
  intro depth
  obtain ⟨unread, failed⟩ := fails depth
  exact ⟨unread, (Reading.bind_of_ok (reads depth)).trans failed⟩

theorem nested (fails : read.FailsOn bytes error) : (Reader.nested read).FailsOn bytes error := by
  intro depth
  obtain ⟨unread, failed⟩ := fails (depth + 1)
  refine ⟨unread, ?_⟩
  simp only [Reader.nested, failed, Nat.add_sub_cancel]

end ReadingFrom.FailsOn

/-- There is no reading of the field from these bytes, for the given reason. -/
def Field.FailsOn : Field → List UInt8 → StoreError → Prop
  | .header _ => Reader.header.FailsOn
  | .text _ => Reader.text.FailsOn
  | .symbol _ => Reader.symbol.FailsOn

/-- If the bytes are those of the fields up to one that cannot be read, the read fails as this field
does. -/
def FailsInOrder {α : Type} (fields : List Field) (read : Reading α) : Prop :=
  ∀ before field after, fields = before ++ field :: after →
    (Emission.ofFields before).fault = none → ∀ bytes error, field.FailsOn bytes error →
      read.FailsOn ((Emission.ofFields before).bytes ++ bytes) error

namespace FailsInOrder

variable {α β : Type} {first second : List Field} {fields : List Field} {field : Field}
  {read : Reading α} {next : α → Reading β} {value : α} {fits : Prop}

theorem of_field (fails : ∀ bytes error, field.FailsOn bytes error → read.FailsOn bytes error) :
    FailsInOrder [field] read := by
  intro before found after split _ bytes error foundFails
  cases before with
  | nil =>
      cases split
      exact fails bytes error foundFails
  | cons head rest =>
      have tooLong := congrArg List.length split
      simp only [List.length_cons, List.length_nil, List.length_append] at tooLong
      omega

theorem header (tag : String) : FailsInOrder [.header tag] Reader.header :=
  of_field fun _ _ fails => fails

theorem text (content : String) : FailsInOrder [.text content] Reader.text :=
  of_field fun _ _ fails => fails

theorem symbol (char : Char) : FailsInOrder [.symbol char] Reader.symbol :=
  of_field fun _ _ fails => fails

theorem bind (enough : fits) (readsFirst : ReadsBack (.ofFields first) value fits read)
    (firstFails : FailsInOrder first read) (nextFails : FailsInOrder second (next value)) :
    FailsInOrder (first ++ second) (read >>= next) := by
  -- The field that cannot be read is one of the first read or one of the next.
  have inSecond : ∀ before field after, second = before ++ field :: after →
      (Emission.ofFields (first ++ before)).fault = none → ∀ bytes error, field.FailsOn bytes error →
        (read >>= next).FailsOn ((Emission.ofFields (first ++ before)).bytes ++ bytes) error := by
    intro before field after split written bytes error fails
    rw [Emission.ofFields_append] at written ⊢
    obtain ⟨firstWritten, beforeWritten⟩ := Emission.fault_append_eq_none_iff.mp written
    rw [Emission.bytes_append firstWritten, List.append_assoc]
    exact .bind_after (readsFirst.reads firstWritten enough _)
      (nextFails before field after split beforeWritten bytes error fails)
  intro before field after split written bytes error fails
  rcases List.append_eq_append_iff.mp split with ⟨gap, rfl, rest⟩ | ⟨gap, rfl, rest⟩
  · exact inSecond gap field after rest written bytes error fails
  · cases gap with
    | nil =>
        rw [List.append_nil] at inSecond
        have atSeam := inSecond [] field after rest.symm
        rw [List.append_nil] at atSeam
        exact atSeam written bytes error fails
    | cons head gap =>
        cases rest
        exact .bind (firstFails before field gap rfl written bytes error fails)

theorem map (change : α → β) (fails : FailsInOrder fields read) :
    FailsInOrder fields (read >>= fun value => pure (change value)) :=
  fun before field after split written bytes error fieldFails =>
    .bind (fails before field after split written bytes error fieldFails)

theorem pair {γ : Type} {readOther : Reading β} (join : α → β → γ) (enough : fits)
    (readsFirst : ReadsBack (.ofFields first) value fits read)
    (firstFails : FailsInOrder first read) (secondFails : FailsInOrder second readOther) :
    FailsInOrder (first ++ second)
      (read >>= fun value => readOther >>= fun other => pure (join value other)) :=
  bind enough readsFirst firstFails (secondFails.map (join value))

theorem nested (fails : FailsInOrder fields read) : FailsInOrder fields (Reader.nested read) :=
  fun before field after split written bytes error fieldFails =>
    .nested (fails before field after split written bytes error fieldFails)

/-- A header, and after it what its tag says. -/
theorem afterHeader {tag : String} {next : String → Reading β} (fails : FailsInOrder fields (next tag)) :
    FailsInOrder (.header tag :: fields) (Reader.header >>= next) := by
  have readsHeader : ReadsBack (.ofFields [.header tag]) tag True Reader.header := by
    rw [Emission.ofFields_singleton]
    exact .header tag
  exact bind trivial readsHeader (header tag) fails

theorem tyRecord {levels : Nat} (tag : TyTag)
    (fails : FailsInOrder fields (Reader.tyFields levels tag)) :
    FailsInOrder (.header tag.name :: fields) (Reader.tyWithin (levels + 1)) := by
  rw [Reader.tyWithin_succ]
  refine nested (afterHeader ?_)
  rw [TyTag.ofName?_name]
  exact fails

theorem termRecord {levels : Nat} (tag : TermTag)
    (fails : FailsInOrder fields (Reader.termFields levels tag)) :
    FailsInOrder (.header tag.name :: fields) (Reader.termWithin (levels + 1)) := by
  rw [Reader.termWithin_succ]
  refine nested (afterHeader ?_)
  rw [TermTag.ofName?_name]
  exact fails

end FailsInOrder

theorem Ty.readsBack_ofFields (ty : Ty) (levels : Nat) :
    ReadsBack (.ofFields ty.fields) ty (ty.recordDepth ≤ levels) (Reader.tyWithin levels) := by
  rw [ty.ofFields_fields]
  exact ty.readsBack levels

theorem Term.readsBack_ofFields (term : Term) (levels : Nat) :
    ReadsBack (.ofFields term.fields) term (term.recordDepth ≤ levels) (Reader.termWithin levels) := by
  rw [term.ofFields_fields]
  exact term.readsBack levels

theorem Ty.failsInOrder (ty : Ty) {levels : Nat} (shallow : ty.recordDepth ≤ levels) :
    FailsInOrder ty.fields (Reader.tyWithin levels) := by
  -- On the levels, of which every record that is opened takes one, as the reader does.
  induction levels generalizing ty with
  | zero => exact absurd shallow (Nat.not_le.mpr ty.recordDepth_pos)
  | succ levels inside =>
      cases ty with
      | const symbol => exact .tyRecord .const ((FailsInOrder.symbol symbol).map Ty.const)
      | var symbol => exact .tyRecord .var ((FailsInOrder.symbol symbol).map Ty.var)
      | fn domain range =>
          simp only [recordDepth] at shallow
          have domainShallow : domain.recordDepth ≤ levels := by omega
          have rangeShallow : range.recordDepth ≤ levels := by omega
          exact .tyRecord .fn (.pair Ty.fn domainShallow (domain.readsBack_ofFields levels)
            (inside domain domainShallow) (inside range rangeShallow))

theorem Ident.failsInOrder_fields (id : Ident) {levels : Nat} (shallow : id.ty.recordDepth ≤ levels) :
    FailsInOrder (.text id.name :: id.ty.fields) (Reader.identFields levels id.kind) := by
  have readsName : ReadsBack (.ofFields [.text id.name]) id.name True Reader.text := by
    rw [Emission.ofFields_singleton]
    exact .text id.name
  exact .pair (Ident.mk id.kind) trivial readsName (.text id.name) (id.ty.failsInOrder shallow)

theorem Ident.failsInOrder_bound (id : Ident) {levels : Nat} (shallow : id.ty.recordDepth ≤ levels) :
    FailsInOrder id.fields (Reader.boundIdent levels) := by
  refine .afterHeader ?_
  rw [TermTag.ofName?_name]
  exact id.failsInOrder_fields shallow

theorem Term.failsInOrder (term : Term) {levels : Nat} (shallow : term.recordDepth ≤ levels) :
    FailsInOrder term.fields (Reader.termWithin levels) := by
  induction levels generalizing term with
  | zero => exact absurd shallow (Nat.not_le.mpr term.recordDepth_pos)
  | succ levels inside =>
      have pair : ∀ {left right : Term} (join : Term → Term → Term),
          left.recordDepth ≤ levels → right.recordDepth ≤ levels →
          FailsInOrder (left.fields ++ right.fields) (do
            let found ← Reader.termWithin levels
            let other ← Reader.termWithin levels
            return join found other) := fun join leftShallow rightShallow =>
        .pair join leftShallow (readsBack_ofFields _ levels) (inside _ leftShallow)
          (inside _ rightShallow)
      cases term with
      | ident id =>
          simp only [recordDepth] at shallow
          exact .termRecord (.ident id.kind)
            ((id.failsInOrder_fields (by omega)).map Term.ident)
      | binder kind bound body =>
          simp only [recordDepth] at shallow
          have boundShallow : bound.ty.recordDepth ≤ levels := by omega
          have bodyShallow : body.recordDepth ≤ levels := by omega
          have readsBound := bound.readsBack_bound levels
          rw [← bound.ofFields_fields] at readsBound
          exact .termRecord (.binder kind) (.pair (Term.binder kind) boundShallow readsBound
            (bound.failsInOrder_bound boundShallow) (inside body bodyShallow))
      | not operand =>
          simp only [recordDepth] at shallow
          exact .termRecord .not ((inside operand (by omega)).map Term.not)
      | binary connective left right =>
          simp only [recordDepth] at shallow
          exact .termRecord (.binary connective) (pair (Term.binary connective) (by omega) (by omega))
      | equal left right =>
          simp only [recordDepth] at shallow
          exact .termRecord .equal (pair Term.equal (by omega) (by omega))
      | app function argument =>
          simp only [recordDepth] at shallow
          exact .termRecord .app (pair Term.app (by omega) (by omega))

/-- Reading a whole record that is not nested too deep stops at the first field that cannot be read. -/
theorem Record.failsInOrder {record : Record} (shallow : record.depth ≤ maxNesting)
    {before after : List Field} {field : Field} (split : record.fields = before ++ field :: after)
    (written : (Emission.ofFields before).fault = none) {bytes : List UInt8} {error : StoreError}
    (fails : field.FailsOn bytes error) :
    readRecord record.kind ((Emission.ofFields before).bytes ++ bytes) = .error error := by
  have failed : ∃ reader, Reader.record record.kind
      (.start ((Emission.ofFields before).bytes ++ bytes)) = .error error reader := by
    cases record with
    | ty held =>
        obtain ⟨unread, failed⟩ :=
          held.failsInOrder shallow before field after split written bytes error fails 0
        exact ⟨_, Reading.bind_of_error failed⟩
    | term held =>
        obtain ⟨unread, failed⟩ :=
          held.failsInOrder shallow before field after split written bytes error fails 0
        exact ⟨_, Reading.bind_of_error failed⟩
  obtain ⟨reader, failed⟩ := failed
  rw [readRecord, Reading.result, failed]

end Denotation
