import Denotation.Proofs.Store.Budget
import Denotation.Proofs.Store.Writing

/-!
# Reading what was written

A reader gets back what was written, whatever bytes follow, and leaves these unread.  The only thing
that can keep it from doing so is the limit of nesting, which counts the records inside one another
but not those of bound identifiers.  Those that the reader has open already count as well.

`ReadsBack` says both things of one read and one emission, so that it holds of a chain of reads if it
holds of the links.  A chain of reads goes over an emission in the same order in which the emission
was put together.
-/

namespace Denotation

/-- From bytes that begin with the emission the read gets the value if `fits` holds, and finds the
records nested too deep if not.  The bytes after the emission do not matter. -/
structure ReadsBack {α : Type} (emission : Emission) (value : α) (fits : Prop)
    (read : Reading α) : Prop where
  reads : emission.fault = none → fits → ∀ rest depth,
    read ⟨emission.bytes ++ rest, depth⟩ = .ok value ⟨rest, depth⟩
  refuses : emission.fault = none → ¬ fits → ∀ rest depth, ∃ unread,
    read ⟨emission.bytes ++ rest, depth⟩ = .error .nestedTooDeep ⟨unread, depth⟩

namespace ReadsBack

variable {α β : Type} {emission first second : Emission} {value : α} {result : β}
  {fits fitsNext : Prop} {read : Reading α} {next : α → Reading β}

theorem of_iff {fits' : Prop} (same : fits' ↔ fits) (readsBack : ReadsBack emission value fits read) :
    ReadsBack emission value fits' read where
  reads := fun written enough => readsBack.reads written (same.mp enough)
  refuses := fun written tooDeep => readsBack.refuses written (fun enough => tooDeep (same.mpr enough))

theorem bind (readsFirst : ReadsBack first value fits read)
    (readsNext : ReadsBack second result fitsNext (next value)) :
    ReadsBack (first ++ second) result (fits ∧ fitsNext) (read >>= next) where
  reads := by
    intro written enough rest depth
    obtain ⟨firstWritten, secondWritten⟩ := Emission.fault_append_eq_none_iff.mp written
    rw [Emission.bytes_append firstWritten, List.append_assoc,
      Reading.bind_of_ok (readsFirst.reads firstWritten enough.1 _ depth)]
    exact readsNext.reads secondWritten enough.2 rest depth
  refuses := by
    intro written tooDeep rest depth
    obtain ⟨firstWritten, secondWritten⟩ := Emission.fault_append_eq_none_iff.mp written
    rw [Emission.bytes_append firstWritten, List.append_assoc]
    by_cases enough : fits
    · rw [Reading.bind_of_ok (readsFirst.reads firstWritten enough _ depth)]
      exact readsNext.refuses secondWritten (fun enoughNext => tooDeep ⟨enough, enoughNext⟩) rest depth
    · obtain ⟨unread, refused⟩ :=
        readsFirst.refuses firstWritten enough (second.bytes ++ rest) depth
      exact ⟨unread, Reading.bind_of_error refused⟩

theorem map (change : α → β) (readsBack : ReadsBack emission value fits read) :
    ReadsBack emission (change value) fits (read >>= fun value => pure (change value)) where
  reads := by
    intro written enough rest depth
    rw [Reading.bind_of_ok (readsBack.reads written enough rest depth)]
    rfl
  refuses := by
    intro written tooDeep rest depth
    obtain ⟨unread, refused⟩ := readsBack.refuses written tooDeep rest depth
    exact ⟨unread, Reading.bind_of_error refused⟩

/-- Two reads after one another whose values are put together. -/
theorem pair {γ : Type} {other : β} {readOther : Reading β} (join : α → β → γ)
    (readsFirst : ReadsBack first value fits read)
    (readsSecond : ReadsBack second other fitsNext readOther) :
    ReadsBack (first ++ second) (join value other) (fits ∧ fitsNext)
      (read >>= fun value => readOther >>= fun other => pure (join value other)) :=
  readsFirst.bind (readsSecond.map (join value))

theorem nested (readsBack : ReadsBack emission value fits read) :
    ReadsBack emission value fits (Reader.nested read) where
  reads := by
    intro written enough rest depth
    have inside := readsBack.reads written enough rest (depth + 1)
    simp only [Reader.nested, inside, Nat.add_sub_cancel]
  refuses := by
    intro written tooDeep rest depth
    obtain ⟨unread, inside⟩ := readsBack.refuses written tooDeep rest (depth + 1)
    refine ⟨unread, ?_⟩
    simp only [Reader.nested, inside, Nat.add_sub_cancel]

/-- A read that opens no record is never refused. -/
theorem of_reads (reads : emission.fault = none → ∀ rest depth,
      read ⟨emission.bytes ++ rest, depth⟩ = .ok value ⟨rest, depth⟩) :
    ReadsBack emission value True read where
  reads := fun written _ => reads written
  refuses := fun _ tooDeep => absurd trivial tooDeep

theorem text (content : String) : ReadsBack (.ofText content) content True Reader.text := by
  apply of_reads
  intro written rest depth
  have short := Emission.fault_ofText_eq_none_iff.mp written
  rw [Emission.bytes_ofText short, List.append_assoc]
  exact Reader.text_append short rest depth

theorem symbol (char : Char) : ReadsBack (.ofSymbol char) char True Reader.symbol := by
  apply of_reads
  intro written rest depth
  have small := Emission.fault_ofSymbol_eq_none_iff.mp written
  rw [Emission.bytes_ofSymbol small]
  exact Reader.symbol_append small rest depth

theorem header (tag : String) : ReadsBack (.header tag) tag True Reader.header := by
  apply of_reads
  intro written rest depth
  have short := Emission.fault_header_eq_none_iff.mp written
  rw [Emission.bytes_header short, List.append_assoc, List.append_assoc]
  exact Reader.header_append short rest depth

/-- With no level left, every record is nested too deep. -/
theorem of_throw {emission : Emission} {value : α} (tooDeep : ¬ fits) :
    ReadsBack emission value fits (throw .nestedTooDeep) where
  reads := fun _ enough => absurd enough tooDeep
  refuses := fun _ _ rest _ => ⟨emission.bytes ++ rest, rfl⟩

theorem tyRecord {fields : Emission} {ty : Ty} {levels : Nat} (tag : TyTag)
    (readsFields : ReadsBack fields ty fits (Reader.tyFields levels tag)) :
    ReadsBack (.header tag.name ++ fields) ty fits (Reader.tyWithin (levels + 1)) := by
  rw [Reader.tyWithin_succ]
  refine of_iff (iff_of_eq (true_and fits)).symm (nested (bind (header tag.name) ?_))
  rw [TyTag.ofName?_name]
  exact readsFields

theorem termRecord {fields : Emission} {term : Term} {levels : Nat} (tag : TermTag)
    (readsFields : ReadsBack fields term fits (Reader.termFields levels tag)) :
    ReadsBack (.header tag.name ++ fields) term fits (Reader.termWithin (levels + 1)) := by
  rw [Reader.termWithin_succ]
  refine of_iff (iff_of_eq (true_and fits)).symm (nested (bind (header tag.name) ?_))
  rw [TermTag.ofName?_name]
  exact readsFields

end ReadsBack

theorem Ty.recordDepth_pos (ty : Ty) : 0 < ty.recordDepth := by
  cases ty <;> simp only [recordDepth] <;> omega

theorem Term.recordDepth_pos (term : Term) : 0 < term.recordDepth := by
  cases term <;> simp only [recordDepth] <;> omega

theorem Ty.readsBack (ty : Ty) (levels : Nat) :
    ReadsBack ty.record ty (ty.recordDepth ≤ levels) (Reader.tyWithin levels) := by
  induction levels generalizing ty with
  | zero => exact .of_throw (Nat.not_le.mpr ty.recordDepth_pos)
  | succ levels inside =>
      cases ty with
      | const symbol =>
          have enough : (Ty.const symbol).recordDepth ≤ levels + 1 := Nat.le_add_left 1 levels
          exact .of_iff (iff_of_true enough trivial)
            (.tyRecord .const ((ReadsBack.symbol symbol).map Ty.const))
      | var symbol =>
          have enough : (Ty.var symbol).recordDepth ≤ levels + 1 := Nat.le_add_left 1 levels
          exact .of_iff (iff_of_true enough trivial)
            (.tyRecord .var ((ReadsBack.symbol symbol).map Ty.var))
      | fn domain range =>
          refine .of_iff ?_ (.tyRecord .fn ((inside domain).pair Ty.fn (inside range)))
          simp only [recordDepth]
          omega

theorem Ident.readsBack_fields (id : Ident) (levels : Nat) :
    ReadsBack (.ofText id.name ++ id.ty.record) id (id.ty.recordDepth ≤ levels)
      (Reader.identFields levels id.kind) :=
  .of_iff (iff_of_eq (true_and _)).symm
    ((ReadsBack.text id.name).pair (Ident.mk id.kind) (id.ty.readsBack levels))

/-- The record of a bound identifier takes no level of its own. -/
theorem Ident.readsBack_bound (id : Ident) (levels : Nat) :
    ReadsBack id.record id (id.ty.recordDepth ≤ levels) (Reader.boundIdent levels) := by
  refine .of_iff (iff_of_eq (true_and _)).symm
    (.bind (ReadsBack.header (TermTag.ident id.kind).name) ?_)
  rw [TermTag.ofName?_name]
  exact id.readsBack_fields levels

theorem Term.readsBack (term : Term) (levels : Nat) :
    ReadsBack term.record term (term.recordDepth ≤ levels) (Reader.termWithin levels) := by
  induction levels generalizing term with
  | zero => exact .of_throw (Nat.not_le.mpr term.recordDepth_pos)
  | succ levels inside =>
      cases term with
      | ident id =>
          refine .of_iff ?_ (.termRecord (.ident id.kind) ((id.readsBack_fields levels).map Term.ident))
          simp only [recordDepth]
          omega
      | binder kind bound body =>
          refine .of_iff ?_ (.termRecord (.binder kind)
            ((bound.readsBack_bound levels).pair (Term.binder kind) (inside body)))
          simp only [recordDepth]
          omega
      | not operand =>
          refine .of_iff ?_ (.termRecord .not ((inside operand).map Term.not))
          simp only [recordDepth]
          omega
      | binary connective left right =>
          refine .of_iff ?_ (.termRecord (.binary connective)
            ((inside left).pair (Term.binary connective) (inside right)))
          simp only [recordDepth]
          omega
      | equal left right =>
          refine .of_iff ?_ (.termRecord .equal ((inside left).pair Term.equal (inside right)))
          simp only [recordDepth]
          omega
      | app function argument =>
          refine .of_iff ?_ (.termRecord .app ((inside function).pair Term.app (inside argument)))
          simp only [recordDepth]
          omega

/-- The number of records inside one another, as far as a reader counts them. -/
def Record.depth : Record → Nat
  | .ty held => held.recordDepth
  | .term held => held.recordDepth

theorem Record.reads {record : Record} {opened : Nat} (written : record.emission.fault = none)
    (shallow : opened + record.depth ≤ maxNesting) (rest : List UInt8) :
    Reader.record record.kind ⟨record.emission.bytes ++ rest, opened⟩ =
      .ok record ⟨rest, opened⟩ := by
  have levels : record.depth ≤ maxNesting - opened := Nat.le_sub_of_add_le' shallow
  cases record with
  | ty held =>
      exact Reading.bind_of_ok ((held.readsBack (maxNesting - opened)).reads written levels rest opened)
  | term held =>
      exact Reading.bind_of_ok ((held.readsBack (maxNesting - opened)).reads written levels rest opened)

theorem Record.depth_pos (record : Record) : 0 < record.depth := by
  cases record with
  | ty held => exact held.recordDepth_pos
  | term held => exact held.recordDepth_pos

theorem Record.refuses {record : Record} {opened : Nat} (written : record.emission.fault = none)
    (deep : maxNesting < opened + record.depth) (rest : List UInt8) :
    ∃ unread, Reader.record record.kind ⟨record.emission.bytes ++ rest, opened⟩ =
      .error .nestedTooDeep ⟨unread, opened⟩ := by
  have positive := record.depth_pos
  have tooDeep : ¬ record.depth ≤ maxNesting - opened := by omega
  cases record with
  | ty held =>
      obtain ⟨unread, refused⟩ :=
        (held.readsBack (maxNesting - opened)).refuses written tooDeep rest opened
      exact ⟨unread, Reading.bind_of_error refused⟩
  | term held =>
      obtain ⟨unread, refused⟩ :=
        (held.readsBack (maxNesting - opened)).refuses written tooDeep rest opened
      exact ⟨unread, Reading.bind_of_error refused⟩

/-- Writing to a sink without a capacity succeeds exactly for storable types and terms.  Whatever
bytes come after those that were written, a reader gets the same type or term back and leaves the rest
unread, unless that takes its count of open records beyond the limit, which it reports.  A new reader
has none open.  The count is what decides, at the outermost record and at each one inside. -/
theorem record_roundTrip (record : Record) :
    ((∃ sink, (Sink.empty none).write record.emission = (.ok (), sink)) ↔ record.IsStorable) ∧
    (∀ bytes, (Sink.empty none).write record.emission = (.ok (), ⟨none, bytes⟩) →
      ∀ rest opened,
        (opened + record.depth ≤ maxNesting →
          Reader.record record.kind ⟨bytes ++ rest, opened⟩ = .ok record ⟨rest, opened⟩) ∧
        (maxNesting < opened + record.depth →
          ∃ unread, Reader.record record.kind ⟨bytes ++ rest, opened⟩ =
            .error .nestedTooDeep ⟨unread, opened⟩)) ∧
    (Reader.ty : Reading Ty) = Reader.limited Reader.tyRecord ∧
    (Reader.term : Reading Term) = Reader.limited Reader.termRecord := by
  refine ⟨?_, ?_, Reader.ty_eq_limited, Reader.term_eq_limited⟩
  · rw [← Record.fault_emission_eq_none_iff]
    constructor
    · intro stored
      obtain ⟨sink, stored⟩ := stored
      exact (Sink.write_unbounded_eq_ok_iff.mp stored).1
    · intro written
      exact ⟨_, Sink.write_unbounded_eq_ok_iff.mpr ⟨written, rfl⟩⟩
  · intro bytes stored rest opened
    obtain ⟨written, sameSink⟩ := Sink.write_unbounded_eq_ok_iff.mp stored
    cases sameSink
    exact ⟨fun shallow => Record.reads written shallow rest,
      fun deep => Record.refuses written deep rest⟩

/-- Around `x` there is room for 254 abstractions over `x`: the records of the innermost `x` and its
type make 256 levels, and those of the bound variables none.  Within one more record there is room for
one abstraction less. -/
theorem record_roundTrip_at_limit :
    let x : Ident := ⟨.var, "x", .entity⟩
    let shallow := Record.term (Nat.repeat (Term.lambda x) 254 (.ident x))
    let deep := Record.term (Nat.repeat (Term.lambda x) 255 (.ident x))
    shallow.IsStorable ∧ deep.IsStorable ∧ shallow.depth = maxNesting ∧ maxNesting < deep.depth ∧
      ∀ rest,
        Reader.record .term (.start (shallow.emission.bytes ++ rest)) = .ok shallow (.start rest) ∧
          (∃ unread, Reader.record .term (.start (deep.emission.bytes ++ rest)) =
            .error .nestedTooDeep (.start unread)) ∧
          ∃ unread, Reader.record .term ⟨shallow.emission.bytes ++ rest, 1⟩ =
            .error .nestedTooDeep ⟨unread, 1⟩ := by
  intro x shallow deep
  have storable : ∀ count, (Record.term (Nat.repeat (Term.lambda x) count (.ident x))).IsStorable := by
    intro count
    induction count with
    | zero => exact show (Term.ident x).IsStorable by decide
    | succ count induction => exact List.forall_mem_cons.mpr ⟨by decide, induction⟩
  have depth : ∀ count,
      (Record.term (Nat.repeat (Term.lambda x) count (.ident x))).depth = count + 2 := by
    intro count
    induction count with
    | zero => rfl
    | succ count induction =>
        have bound : x.ty.recordDepth = 1 := rfl
        rw [Record.depth] at induction ⊢
        rw [Nat.repeat, Term.lambda, Term.recordDepth, bound, induction]
        omega
  have shallowStorable : shallow.IsStorable := storable 254
  have deepStorable : deep.IsStorable := storable 255
  have within : shallow.depth = maxNesting := depth 254
  have beyond : maxNesting < deep.depth := by
    rw [show deep.depth = 257 from depth 255]
    decide
  have stored : ∀ record : Record, record.IsStorable →
      (Sink.empty none).write record.emission = (.ok (), ⟨none, record.emission.bytes⟩) :=
    fun _ storable => Sink.write_unbounded_eq_ok_iff.mpr
      ⟨Record.fault_emission_eq_none_iff.mpr storable, rfl⟩
  refine ⟨shallowStorable, deepStorable, within, beyond, fun rest => ⟨?_, ?_, ?_⟩⟩
  · exact ((record_roundTrip shallow).2.1 _ (stored shallow shallowStorable) rest 0).1 (by omega)
  · exact ((record_roundTrip deep).2.1 _ (stored deep deepStorable) rest 0).2 (by omega)
  · exact ((record_roundTrip shallow).2.1 _ (stored shallow shallowStorable) rest 1).2 (by omega)

end Denotation
