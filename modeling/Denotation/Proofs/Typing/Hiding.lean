import Mathlib.Tactic.MkIffOfInductiveProp
import Denotation.Proofs.Typing.Uses

/-!
# What a binder sees of its variable

A binder over a polymorphic variable is specialized to the uses of that variable in its body.  It sees an
occurrence if no binder over the same name stands in between, and an occurrence is a use if the node
above it asks for a type without variables there: a negation asks for `t`, a function for its domain, an
equality for the type of its other side.

An occurrence that is bound but not seen is hidden.  The type of a term depends on it only if something is
asked there, and where a variable is not seen in any use, its type stays as it is.
-/

namespace Denotation.Term

/-- The identifier occurs at the path, and no binder above it has its name. -/
def ExposedAt (id : Ident) (term : Term) (path : Path) : Prop :=
  term.at? path = some (.ident id) ∧ ∀ other ∈ term.boundAround path, other.name ≠ id.name

/-- A type that is known and has no variables. -/
def isFixed : Except TypeError Ty → Bool
  | .ok ty => !ty.hasVariables
  | .error _ => false

/-- The node asks for a type without variables at its part of this number, if the identifier stands
there.  In the place of a function, the argument says which type is asked for. -/
def asksPart (id : Ident) : Term → Nat → Bool
  | .ident _, _ => false
  | .binder kind _ _, _ => kind != .lambda
  | .not _, _ => true
  | .binary _ _ _, _ => true
  | .equal left right, number => isFixed (if number = 0 then right.typeOf else left.typeOf)
  | .app function argument, number =>
      if number = 0 then
        match id.ty with
        | .fn _ _ => isFixed argument.typeOf
        | _ => false
      else
        match function.typeOf with
        | .ok (.fn domain _) => !domain.hasVariables
        | _ => false

/-- What is above the path asks for a type without variables there. -/
def asksAt (id : Ident) (term : Term) : Path → Bool
  | [] => false
  | [number] => term.asksPart id number
  | number :: next :: rest =>
      match term.parts[number]? with
      | some part => part.asksAt id (next :: rest)
      | none => false

structure UsedAt (id : Ident) (term : Term) (path : Path) : Prop where
  exposed : ExposedAt id term path
  asked : term.asksAt id path = true

/-- A binder that is specialized to the uses of its variable binds the occurrence at this path of its
body, and a binder in between that has the same name hides it. -/
@[mk_iff]
structure HiddenAt (kind : BinderKind) (bound : Ident) (body : Term) (path : Path) : Prop where
  specializes : kind = .lambda ∨ kind = .iota
  polymorphic : bound.ty.hasVariables = true
  occurs : body.at? path = some (.ident bound)
  binds : bound ∉ body.boundAround path
  hides : ∃ other ∈ body.boundAround path, other.name = bound.name

instance (kind : BinderKind) (bound : Ident) (body : Term) (path : Path) :
    Decidable (HiddenAt kind bound body path) := decidable_of_iff _ (hiddenAt_iff kind bound body path).symm

/-- The occurrence at the path `inner` below the binder at the path `outer` is hidden from it. -/
def Hides (term : Term) (outer inner : Path) : Prop :=
  ∃ kind bound body, term.at? outer = some (.binder kind bound body) ∧
    HiddenAt kind bound body inner

/-- The occurrence is hidden, and something is asked there. -/
def HidesUse (term : Term) (outer inner : Path) : Prop :=
  ∃ kind bound body, term.at? outer = some (.binder kind bound body) ∧
    HiddenAt kind bound body inner ∧ body.asksAt bound inner = true

/-- The first term hides every use that the second one hides. -/
def HidesUsesOf (left right : Term) : Prop :=
  ∀ outer inner, right.HidesUse outer inner → left.Hides outer inner

variable {id : Ident} {term part left right : Term} {number : Nat} {path : Path}

section Parts

theorem exposedAt_part (isPart : term.parts[number]? = some part) (path : Path) :
    ExposedAt id term (number :: path) ↔
      (∀ bound ∈ term.ownBound, bound.name ≠ id.name) ∧ ExposedAt id part path := by
  simp only [ExposedAt, at?_cons, isPart, Option.bind_some, boundAround, List.forall_mem_append]
  exact and_left_comm

theorem asksAt_part (isPart : term.parts[number]? = some part) (below : path ≠ []) :
    term.asksAt id (number :: path) = part.asksAt id path := by
  cases path with
  | nil => exact absurd rfl below
  | cons next rest => rw [asksAt, isPart]

theorem not_usedAt_nil : ¬ UsedAt id term [] := fun used => Bool.false_ne_true used.asked

theorem usedAt_part (isPart : term.parts[number]? = some part) (below : path ≠ []) :
    UsedAt id term (number :: path) ↔
      (∀ bound ∈ term.ownBound, bound.name ≠ id.name) ∧ UsedAt id part path := by
  constructor
  · intro used
    obtain ⟨clear, exposed⟩ := (exposedAt_part isPart path).mp used.exposed
    exact ⟨clear, exposed, (asksAt_part isPart below).symm.trans used.asked⟩
  · intro usedBelow
    obtain ⟨clear, used⟩ := usedBelow
    exact ⟨(exposedAt_part isPart path).mpr ⟨clear, used.exposed⟩,
      (asksAt_part isPart below).trans used.asked⟩

theorem hides_part (isPart : term.parts[number]? = some part) (outer inner : Path) :
    term.Hides (number :: outer) inner ↔ part.Hides outer inner := by
  simp only [Hides, at?_cons, isPart, Option.bind_some]

theorem hidesUse_part (isPart : term.parts[number]? = some part) (outer inner : Path) :
    term.HidesUse (number :: outer) inner ↔ part.HidesUse outer inner := by
  simp only [HidesUse, at?_cons, isPart, Option.bind_some]

theorem HidesUsesOf.inPart (hides : right.HidesUsesOf left) {part' : Term} (number : Nat)
    (isPart : left.parts[number]? = some part) (isPart' : right.parts[number]? = some part') :
    part'.HidesUsesOf part := by
  intro outer inner hidden
  rw [← hidesUse_part isPart] at hidden
  exact (hides_part isPart' outer inner).mp (hides (number :: outer) inner hidden)

theorem ExposedAt.name_ne {kind : BinderKind} {inner : Ident} {body : Term}
    (exposed : ExposedAt id (.binder kind inner body) path) : inner.name ≠ id.name := by
  rcases path with _ | ⟨_ | number, rest⟩
  · cases exposed.1
  · exact ((exposedAt_part rfl rest).mp exposed).1 inner (List.mem_singleton_self inner)
  · cases exposed.1

theorem hides_nil {kind : BinderKind} {bound : Ident} {body : Term} :
    (Term.binder kind bound body).Hides [] path ↔ HiddenAt kind bound body path := by
  constructor
  · intro hides
    obtain ⟨_, _, _, found, hidden⟩ := hides
    cases found
    exact hidden
  · exact fun hidden => ⟨kind, bound, body, rfl, hidden⟩

theorem hidesUse_nil {kind : BinderKind} {bound : Ident} {body : Term} :
    (Term.binder kind bound body).HidesUse [] path ↔
      HiddenAt kind bound body path ∧ body.asksAt bound path = true := by
  constructor
  · intro hides
    obtain ⟨_, _, _, found, hidden⟩ := hides
    cases found
    exact hidden
  · exact fun hidden => ⟨kind, bound, body, rfl, hidden⟩

theorem boundVariables_of_part (isPart : term.parts[number]? = some part) :
    (term.ownBound ++ part.boundVariables).Sublist term.boundVariables := by
  cases term with
  | ident _ => cases isPart
  | binder _ _ _ | not _ =>
      rcases number with _ | number
      · cases isPart
        exact .refl _
      · cases isPart
  | binary _ _ _ | equal _ _ | app _ _ =>
      rcases number with _ | _ | number
      · cases isPart
        exact List.sublist_append_left _ _
      · cases isPart
        exact List.sublist_append_right _ _
      · cases isPart

theorem boundVariables_of_at? {subterm : Term} {path : Path} (found : term.at? path = some subterm) :
    subterm.boundVariables.Sublist term.boundVariables := by
  induction path generalizing term with
  | nil =>
      cases found
      exact .refl _
  | cons number rest restIH =>
      rw [at?_cons] at found
      obtain ⟨part, isPart, below⟩ := Option.bind_eq_some_iff.mp found
      have inPart := (List.sublist_append_right term.ownBound _).trans (boundVariables_of_part isPart)
      exact (restIH below).trans inPart

/-- Where no other binder is over a polymorphic variable, uses are only hidden from the outermost one. -/
theorem hidesUse_outermost {kind : BinderKind} {bound : Ident} {body : Term} {outer inner : Path}
    (concrete : ∀ id ∈ body.boundVariables, id.ty.hasVariables = false)
    (hides : (Term.binder kind bound body).HidesUse outer inner) :
    outer = [] ∧ inner ∈ body.paths ∧ HiddenAt kind bound body inner ∧
      body.asksAt bound inner = true := by
  cases outer with
  | nil =>
      obtain ⟨hidden, asked⟩ := hidesUse_nil.mp hides
      exact ⟨rfl, mem_paths_iff.mpr ⟨_, hidden.occurs⟩, hidden, asked⟩
  | cons number rest =>
      obtain ⟨kind', bound', body', found, hidden, -⟩ := hides
      rcases number with _ | number
      · have inBody : body.at? rest = some (.binder kind' bound' body') := found
        have isBound : bound' ∈ body.boundVariables :=
          (boundVariables_of_at? inBody).subset List.mem_cons_self
        exact absurd hidden.polymorphic (Bool.eq_false_iff.mp (concrete bound' isBound))
      · cases found

end Parts

section Unused

variable {alignment : Alignment} {ty : Ty}

theorem not_usedAt_part (unused : ∀ path, ¬ UsedAt id term path) (number : Nat)
    (isPart : term.parts[number]? = some part)
    (clear : ∀ bound ∈ term.ownBound, bound.name ≠ id.name) (path : Path) :
    ¬ UsedAt id part path := by
  intro used
  have below : path ≠ [] := fun same => not_usedAt_nil (same ▸ used)
  exact unused (number :: path) ((usedAt_part isPart below).mpr ⟨clear, used⟩)

/-- Where a node asks for something, a variable without uses does not stand. -/
theorem ne_ident_of_asksPart (unused : ∀ path, ¬ UsedAt id term path)
    (clear : ∀ bound ∈ term.ownBound, bound.name ≠ id.name) (number : Nat)
    (isPart : term.parts[number]? = some part) (asks : term.asksPart id number = true) :
    part ≠ .ident id := by
  intro isUse
  have exposed : ExposedAt id part [] := ⟨congrArg some isUse, List.forall_mem_nil _⟩
  exact unused [number] ⟨(exposedAt_part isPart []).mpr ⟨clear, exposed⟩, asks⟩

/-- Where a type without variables would be asked for, there is no use, so nothing is asked. -/
theorem constrain_of_unused {isUse : Prop} [Decidable isUse] (variableSided : Ty)
    (unused : ty.hasVariables = false → ¬ isUse) :
    (if isUse then constrain alignment variableSided ty else .ok alignment) = .ok alignment := by
  split
  · rename_i used
    have polymorphic : ty.hasVariables = true := eq_true_of_ne_false fun fixed => unused fixed used
    exact if_pos polymorphic
  · rfl

theorem constrainSide_of_unused (typed : right.typeOf = .ok ty)
    (unused : ty.hasVariables = false → left ≠ .ident id) :
    constrainSide alignment id left right = .ok alignment := by
  rw [constrainSide, typed]
  exact constrain_of_unused id.ty unused

theorem constrainArgument_of_unused {domain range : Ty} (typed : left.typeOf = .ok (.fn domain range))
    (unused : domain.hasVariables = false → right ≠ .ident id) :
    constrainArgument alignment id left right = .ok alignment := by
  rw [constrainArgument, typed]
  exact constrain_of_unused id.ty unused

theorem constrainFunction_of_unused (typed : right.typeOf = .ok ty)
    (unused : ∀ domain range, id.ty = .fn domain range → ty.hasVariables = false → left ≠ .ident id) :
    constrainFunction alignment id left right = .ok alignment := by
  rw [constrainFunction, typed]
  cases shape : id.ty with
  | const _ => exact ite_self _
  | var _ => exact ite_self _
  | fn domain range => exact constrain_of_unused domain (unused domain range shape)

/-- A variable that is nowhere seen in a use is left as it is. -/
theorem alignUses_of_not_usedAt (unused : ∀ path, ¬ UsedAt id term path) (typed : term.typeOf = .ok ty)
    (alignment : Alignment) : term.alignUses id alignment = .ok alignment := by
  have clear : ∀ bound ∈ ([] : List Ident), bound.name ≠ id.name := List.forall_mem_nil _
  induction term generalizing alignment ty with
  | ident _ => rfl
  | binder kind inner body bodyIH =>
      obtain ⟨bodyTy, bodyTyped⟩ := exists_typeOf_of_mem_parts typed (List.mem_singleton_self body)
      rw [alignUses_binder]
      split
      · rfl
      · rename_i differ
        have clearHere : ∀ bound ∈ (Term.binder kind inner body).ownBound, bound.name ≠ id.name := by
          simpa [ownBound] using differ
        have notAsked : (if kind = .lambda then .ok alignment
            else constrainUse alignment id body .truth) = .ok alignment := by
          split
          · rfl
          · rename_i notLambda
            exact if_neg (ne_ident_of_asksPart unused clearHere 0 rfl (bne_iff_ne.mpr notLambda))
        rw [notAsked]
        exact bodyIH (not_usedAt_part unused 0 rfl clearHere) bodyTyped alignment
  | not operand operandIH =>
      obtain ⟨operandTy, operandTyped⟩ :=
        exists_typeOf_of_mem_parts typed (List.mem_singleton_self operand)
      rw [alignUses, bind_eq_ok_iff]
      exact ⟨alignment, if_neg (ne_ident_of_asksPart unused clear 0 rfl rfl),
        operandIH (not_usedAt_part unused 0 rfl clear) operandTyped alignment⟩
  | binary connective left right leftIH rightIH =>
      obtain ⟨⟨leftTy, leftTyped, -⟩, ⟨rightTy, rightTyped, -⟩, -⟩ := typeOf_binary_eq_ok_iff.mp typed
      have inLeft := leftIH (not_usedAt_part unused 0 rfl clear) leftTyped alignment
      have inRight := rightIH (not_usedAt_part unused 1 rfl clear) rightTyped alignment
      simp only [alignUses, bind_eq_ok_iff]
      exact ⟨alignment, if_neg (ne_ident_of_asksPart unused clear 0 rfl rfl), alignment, inLeft,
        alignment, if_neg (ne_ident_of_asksPart unused clear 1 rfl rfl), inRight⟩
  | equal left right leftIH rightIH =>
      obtain ⟨leftTy, rightTy, leftTyped, rightTyped, -⟩ := typeOf_equal_eq_ok_iff.mp typed
      have inLeft := leftIH (not_usedAt_part unused 0 rfl clear) leftTyped alignment
      have inRight := rightIH (not_usedAt_part unused 1 rfl clear) rightTyped alignment
      have atLeft : constrainSide alignment id left right = .ok alignment :=
        constrainSide_of_unused rightTyped fun fixed =>
          ne_ident_of_asksPart unused clear 0 rfl (by simp [asksPart, isFixed, rightTyped, fixed])
      have atRight : constrainSide alignment id right left = .ok alignment :=
        constrainSide_of_unused leftTyped fun fixed =>
          ne_ident_of_asksPart unused clear 1 rfl (by simp [asksPart, isFixed, leftTyped, fixed])
      simp only [alignUses_equal, bind_eq_ok_iff]
      exact ⟨alignment, atLeft, alignment, atRight, alignment, inLeft, inRight⟩
  | app function argument functionIH argumentIH =>
      obtain ⟨domain, range, argumentTy, functionTyped, argumentTyped, -⟩ :=
        typeOf_app_eq_ok_iff.mp typed
      have inFunction := functionIH (not_usedAt_part unused 0 rfl clear) functionTyped alignment
      have inArgument := argumentIH (not_usedAt_part unused 1 rfl clear) argumentTyped alignment
      have atArgument : constrainArgument alignment id function argument = .ok alignment :=
        constrainArgument_of_unused functionTyped fun fixed =>
          ne_ident_of_asksPart unused clear 1 rfl (by simp [asksPart, functionTyped, fixed])
      have atFunction : constrainFunction alignment id function argument = .ok alignment :=
        constrainFunction_of_unused argumentTyped fun domain range isFn fixed =>
          ne_ident_of_asksPart unused clear 0 rfl (by simp [asksPart, isFixed, isFn, argumentTyped, fixed])
      simp only [alignUses_app, bind_eq_ok_iff]
      exact ⟨alignment, atArgument, alignment, atFunction, alignment, inFunction, inArgument⟩

end Unused

end Denotation.Term
