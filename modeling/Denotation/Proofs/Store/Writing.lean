import Denotation.Store.Layout
import Denotation.Store.Record
import Denotation.Store.Sink

/-!
# What can be written

An emission gets to its end exactly if none of its fields has to be refused.  Every tag is short, so it
depends on the names and the symbols of a record alone whether the record can be written.  A sink
without a capacity then stores all the bytes.
-/

namespace Denotation

namespace Emission

theorem fault_ofText_eq_none_iff {text : String} :
    (ofText text).fault = none ↔ (Text.utf8Bytes text).length < 65536 := by
  by_cases short : (Text.utf8Bytes text).length < 65536
  · simp [ofText, ofBytes, short]
  · simp [ofText, ofFault, short]

theorem bytes_ofText {text : String} (short : (Text.utf8Bytes text).length < 65536) :
    (ofText text).bytes = Store.wordBytes (Text.utf8Bytes text).length ++ Text.utf8Bytes text := by
  simp only [ofText, if_pos short, ofBytes]

theorem fault_ofSymbol_eq_none_iff {symbol : Char} :
    (ofSymbol symbol).fault = none ↔ symbol.toNat < 65536 := by
  by_cases small : symbol.toNat < 65536
  · simp [ofSymbol, ofBytes, small]
  · simp [ofSymbol, ofFault, small]

theorem bytes_ofSymbol {symbol : Char} (small : symbol.toNat < 65536) :
    (ofSymbol symbol).bytes = Store.wordBytes symbol.toNat := by
  simp only [ofSymbol, if_pos small, ofBytes]

theorem fault_header_eq_none_iff {tag : String} :
    (header tag).fault = none ↔ (Text.utf8Bytes tag).length < 65536 := by
  rw [header, fault_append_eq_none_iff, fault_ofText_eq_none_iff]
  exact and_iff_left rfl

theorem bytes_header {tag : String} (short : (Text.utf8Bytes tag).length < 65536) :
    (header tag).bytes = Store.wordBytes (Text.utf8Bytes tag).length ++
      (Text.utf8Bytes tag ++ Store.wordBytes 0) := by
  rw [header, bytes_append (fault_ofText_eq_none_iff.mpr short), bytes_ofText short,
    List.append_assoc]
  rfl

end Emission

theorem TyTag.fault_header (tag : TyTag) : (Emission.header tag.name).fault = none := by
  rw [Emission.fault_header_eq_none_iff]
  cases tag <;> decide

theorem TermTag.fault_header (tag : TermTag) : (Emission.header tag.name).fault = none := by
  rw [Emission.fault_header_eq_none_iff]
  cases tag with
  | ident kind => cases kind <;> decide
  | binder kind => cases kind <;> decide
  | binary connective => cases connective <;> decide
  | not => decide
  | equal => decide
  | app => decide

-- By the symbols of the type, not by all characters, which instance search also finds a way to try.
instance (ty : Ty) : Decidable ty.IsStorable :=
  List.decidableBAll (fun symbol : Char => symbol.toNat < 65536) ty.symbols

instance (id : Ident) : Decidable id.IsStorable :=
  inferInstanceAs (Decidable ((Text.utf8Bytes id.name).length < 65536 ∧ id.ty.IsStorable))

instance (term : Term) : Decidable term.IsStorable :=
  List.decidableBAll Ident.IsStorable term.idents

theorem Ty.fault_record_eq_none_iff {ty : Ty} : ty.record.fault = none ↔ ty.IsStorable := by
  induction ty with
  | const symbol =>
      rw [record, Emission.fault_append_eq_none_iff, Emission.fault_ofSymbol_eq_none_iff,
        and_iff_right (TyTag.fault_header .const)]
      simp only [IsStorable, symbols, List.mem_singleton, forall_eq]
  | var symbol =>
      rw [record, Emission.fault_append_eq_none_iff, Emission.fault_ofSymbol_eq_none_iff,
        and_iff_right (TyTag.fault_header .var)]
      simp only [IsStorable, symbols, List.mem_singleton, forall_eq]
  | fn domain range domainIH rangeIH =>
      rw [record, Emission.fault_append_eq_none_iff, Emission.fault_append_eq_none_iff,
        and_iff_right (TyTag.fault_header .fn), domainIH, rangeIH]
      exact List.forall_mem_append.symm

theorem Ident.fault_record_eq_none_iff {id : Ident} : id.record.fault = none ↔ id.IsStorable := by
  rw [record, Emission.fault_append_eq_none_iff, Emission.fault_append_eq_none_iff,
    and_iff_right (TermTag.fault_header (.ident id.kind)), Emission.fault_ofText_eq_none_iff,
    Ty.fault_record_eq_none_iff, IsStorable]

/-- The record of a node with two parts can be written if both parts can. -/
theorem TermTag.fault_record_pair_eq_none_iff (tag : TermTag) {first second : Emission} :
    (Emission.header tag.name ++ (first ++ second)).fault = none ↔
      first.fault = none ∧ second.fault = none := by
  rw [Emission.fault_append_eq_none_iff, Emission.fault_append_eq_none_iff,
    and_iff_right tag.fault_header]

theorem Term.fault_record_eq_none_iff {term : Term} :
    term.record.fault = none ↔ term.IsStorable := by
  induction term with
  | ident id =>
      rw [record, Ident.fault_record_eq_none_iff]
      exact List.forall_mem_singleton.symm
  | binder kind bound body bodyIH =>
      rw [record, TermTag.fault_record_pair_eq_none_iff, Ident.fault_record_eq_none_iff, bodyIH]
      exact List.forall_mem_cons.symm
  | not operand operandIH =>
      rw [record, Emission.fault_append_eq_none_iff, and_iff_right (TermTag.fault_header .not),
        operandIH]
      exact Iff.rfl
  | binary connective left right leftIH rightIH =>
      rw [record, TermTag.fault_record_pair_eq_none_iff, leftIH, rightIH]
      exact List.forall_mem_append.symm
  | equal left right leftIH rightIH =>
      rw [record, TermTag.fault_record_pair_eq_none_iff, leftIH, rightIH]
      exact List.forall_mem_append.symm
  | app function argument functionIH argumentIH =>
      rw [record, TermTag.fault_record_pair_eq_none_iff, functionIH, argumentIH]
      exact List.forall_mem_append.symm

/-- Every name takes at most 65535 bytes and every symbol is a single word. -/
def Record.IsStorable : Record → Prop
  | .ty held => held.IsStorable
  | .term held => held.IsStorable

instance (record : Record) : Decidable record.IsStorable :=
  match record with
  | .ty held => inferInstanceAs (Decidable held.IsStorable)
  | .term held => inferInstanceAs (Decidable held.IsStorable)

theorem Record.fault_emission_eq_none_iff {record : Record} :
    record.emission.fault = none ↔ record.IsStorable := by
  cases record with
  | ty held => exact Ty.fault_record_eq_none_iff
  | term held => exact Term.fault_record_eq_none_iff

/-- A sink without a capacity takes everything, so a write fails only if the emission does. -/
theorem Sink.write_unbounded_eq_ok_iff {emission : Emission} {done : Unit} {sink : Sink} :
    (Sink.empty none).write emission = (.ok done, sink) ↔
      emission.fault = none ∧ sink = ⟨none, emission.bytes⟩ := by
  obtain ⟨bytes, fault⟩ := emission
  cases fault with
  | none => simp [write, hasRoom, fitting, empty, eq_comm]
  | some error => simp [write, hasRoom, empty]

theorem Record.write_of_isStorable {record : Record} (storable : record.IsStorable) :
    (Sink.empty none).write record.emission = (.ok (), ⟨none, record.emission.bytes⟩) :=
  Sink.write_unbounded_eq_ok_iff.mpr ⟨fault_emission_eq_none_iff.mpr storable, rfl⟩

end Denotation
