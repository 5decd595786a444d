import Denotation.Store.Reader

/-!
# Steps of a reader

A read is a chain of smaller reads.  Its outcome is taken apart here along that chain, and the record
of a node into its header and its fields: once the tag is known, it alone says which fields
follow.
-/

namespace Denotation

variable {σ Reason : Type}

section Chain

variable {α β : Type} {read : ReadingFrom σ Reason α} {next : α → ReadingFrom σ Reason β}
  {reader after : Reader σ}

theorem Reading.bind_of_ok {value : α} (succeeded : read reader = .ok value after) :
    (read >>= next) reader = next value after := by
  simp only [bind, EStateM.bind, succeeded]

theorem Reading.bind_of_error {error : StoreError Reason} (failed : read reader = .error error after) :
    (read >>= next) reader = .error error after := by
  simp only [bind, EStateM.bind, failed]

theorem Reading.bind_eq_ok_iff {result : β} :
    (read >>= next) reader = .ok result after ↔
      ∃ value between, read reader = .ok value between ∧ next value between = .ok result after := by
  cases outcome : read reader with
  | ok value between =>
      rw [bind_of_ok outcome]
      constructor
      · intro succeeded
        exact ⟨value, between, rfl, succeeded⟩
      · rintro ⟨_, _, same, succeeded⟩
        cases same
        exact succeeded
  | error error between =>
      rw [bind_of_error outcome]
      constructor
      · intro succeeded
        cases succeeded
      · rintro ⟨_, _, same, _⟩
        cases same

theorem Reading.pure_eq_ok_iff {value result : β} :
    (pure value : ReadingFrom σ Reason β) reader = .ok result after ↔
      value = result ∧ reader = after := by
  simp [pure, EStateM.pure]

end Chain

namespace Reader

variable [ByteSource σ Reason]

/-- What follows the header of the record of a type. -/
def tyFields (levels : Nat) : TyTag → ReadingFrom σ Reason Ty
  | .const => do return .const (← symbol)
  | .var => do return .var (← symbol)
  | .fn => do
      let domain ← tyWithin levels
      let range ← tyWithin levels
      return .fn domain range

/-- What follows the header of the record of a term. -/
def termFields (levels : Nat) : TermTag → ReadingFrom σ Reason Term
  | .ident kind => do return .ident (← identFields levels kind)
  | .binder kind => do
      let bound ← boundIdent levels
      let body ← termWithin levels
      return .binder kind bound body
  | .not => do return .not (← termWithin levels)
  | .binary connective => do
      let left ← termWithin levels
      let right ← termWithin levels
      return .binary connective left right
  | .equal => do
      let left ← termWithin levels
      let right ← termWithin levels
      return .equal left right
  | .app => do
      let function ← termWithin levels
      let argument ← termWithin levels
      return .app function argument

theorem tyWithin_succ (levels : Nat) :
    (tyWithin (levels + 1) : ReadingFrom σ Reason Ty) = nested (header >>= fun name =>
      match TyTag.ofName? name with
      | none => throw (.unknownTag name)
      | some tag => tyFields levels tag) := by
  rw [tyWithin]
  congr 2
  funext name
  rcases TyTag.ofName? name with _ | tag
  · rfl
  · cases tag <;> rfl

theorem termWithin_succ (levels : Nat) :
    (termWithin (levels + 1) : ReadingFrom σ Reason Term) = nested (header >>= fun name =>
      match TermTag.ofName? name with
      | none => throw (.unknownTag name)
      | some tag => termFields levels tag) := by
  rw [termWithin]
  congr 2
  funext name
  rcases TermTag.ofName? name with _ | tag
  · rfl
  · cases tag <;> rfl

end Reader

end Denotation
