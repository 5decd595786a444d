import Denotation.Term.Clash
import Denotation.Proofs.Reduction.Scope

/-!
# Where binders clash

The binders of a term that clash with a replacement are those of its parts, and perhaps the node itself.

When a binder is renamed, the substitution goes on in a body that is no longer that of the term.  The new
body has the same binders at the same places, and the variable to be replaced is free below the same
ones.  So the same binders clash, and whatever name the old body used is used by the new one, except for
that of the old variable.
-/

namespace Denotation.Term

theorem mem_preorder_of_at? {term subterm : Term} {path : Path} (found : term.at? path = some subterm) :
    path ∈ term.preorder := by
  induction term generalizing path with
  | ident id =>
      rcases path with _ | ⟨number, rest⟩
      · exact List.mem_singleton_self _
      · cases found
  | binder kind bound body bodyIH =>
      rcases path with _ | ⟨_ | number, rest⟩
      · exact List.mem_cons_self
      · exact List.mem_cons_of_mem _ (List.mem_map_of_mem (bodyIH found))
      · cases found
  | not operand operandIH =>
      rcases path with _ | ⟨_ | number, rest⟩
      · exact List.mem_cons_self
      · exact List.mem_cons_of_mem _ (List.mem_map_of_mem (operandIH found))
      · cases found
  | binary connective left right leftIH rightIH | equal left right leftIH rightIH
  | app left right leftIH rightIH =>
      rcases path with _ | ⟨_ | _ | number, rest⟩
      · exact List.mem_cons_self
      · exact List.mem_cons_of_mem _ (List.mem_append_left _ (List.mem_map_of_mem (leftIH found)))
      · exact List.mem_cons_of_mem _ (List.mem_append_right _ (List.mem_map_of_mem (rightIH found)))
      · cases found

theorem mem_clashes_iff {term : Term} {target : Ident} {names : List String} {path : Path} :
    path ∈ term.clashes target names ↔ term.clashesAt target names path = true := by
  rw [clashes, List.mem_filter, and_iff_right_iff_imp]
  intro clash
  obtain ⟨-, kind, bound, body, found, -⟩ := clashesAt_eq_true_iff.mp clash
  exact mem_preorder_of_at? found

section Node

variable {term part : Term} {target : Ident} {number : Nat}

theorem boundAround_cons (isPart : term.parts[number]? = some part) (rest : Path) :
    term.boundAround (number :: rest) = term.ownBound ++ part.boundAround rest := by
  rw [boundAround, isPart]

theorem clashesAt_cons (isPart : term.parts[number]? = some part) (unbound : target ∉ term.ownBound)
    (names : List String) (rest : Path) :
    term.clashesAt target names (number :: rest) = part.clashesAt target names rest := by
  rw [Bool.eq_iff_iff, clashesAt_eq_true_iff, clashesAt_eq_true_iff, boundAround_cons isPart, at?_cons,
    isPart, Option.bind_some, List.mem_append, not_or, and_iff_right unbound]

theorem filter_clashesAt_part (isPart : term.parts[number]? = some part)
    (unbound : target ∉ term.ownBound) (names : List String) :
    (part.preorder.map (number :: ·)).filter (term.clashesAt target names) =
      (part.clashes target names).map (number :: ·) := by
  rw [List.filter_map, clashes]
  congr 1
  exact List.filter_congr fun rest _ => clashesAt_cons isPart unbound names rest

theorem clashesAt_eq_false_of_not_free (absent : target ∉ term.freeVariables) (names : List String)
    (path : Path) : term.clashesAt target names path = false := by
  rw [Bool.eq_false_iff, Ne, clashesAt_eq_true_iff]
  rintro ⟨unbound, kind, bound, body, found, differ, free, -⟩
  have below : target ∈ (Term.binder kind bound body).freeVariables :=
    mem_freeVariables_binder.mpr ⟨free, differ.symm⟩
  exact absent (mem_freeVariables_of_at? found below unbound)

theorem clashes_of_not_free (absent : target ∉ term.freeVariables) (names : List String) :
    term.clashes target names = [] := by
  rw [clashes, List.filter_eq_nil_iff]
  intro path _
  rw [clashesAt_eq_false_of_not_free absent]
  decide

end Node

section Rename

variable {old new id : Ident} {term : Term}

theorem mem_freeVariables_rename_iff (notOld : id ≠ old) (notNew : id ≠ new) :
    id ∈ (term.rename old new).freeVariables ↔ id ∈ term.freeVariables := by
  refine ⟨fun free => (List.mem_filter.mp (mem_freeVariables_rename notNew free)).1, fun free => ?_⟩
  induction term with
  | ident other =>
      have kept : other ≠ old := (mem_freeVariables_ident.mp free).1 ▸ notOld
      rwa [rename, if_neg kept]
  | binder kind bound body bodyIH =>
      rw [rename]
      split
      · exact free
      · obtain ⟨inside, notBound⟩ := mem_freeVariables_binder.mp free
        exact mem_freeVariables_binder.mpr ⟨bodyIH inside, notBound⟩
  | not operand operandIH => exact operandIH free
  | binary connective left right leftIH rightIH =>
      exact List.mem_append.mpr ((List.mem_append.mp free).imp leftIH rightIH)
  | equal left right leftIH rightIH =>
      exact List.mem_append.mpr ((List.mem_append.mp free).imp leftIH rightIH)
  | app function argument functionIH argumentIH =>
      exact List.mem_append.mpr ((List.mem_append.mp free).imp functionIH argumentIH)

theorem mem_names_rename {name : String} (used : name ∈ term.names) (notOld : name ≠ old.name) :
    name ∈ (term.rename old new).names := by
  induction term with
  | ident other =>
      have kept : other ≠ old := by
        rintro rfl
        exact notOld (List.mem_singleton.mp used)
      rwa [rename, if_neg kept]
  | binder kind bound body bodyIH =>
      rw [rename]
      split
      · exact used
      · exact List.mem_cons.mpr ((List.mem_cons.mp used).imp_right bodyIH)
  | not operand operandIH => exact operandIH used
  | binary connective left right leftIH rightIH =>
      exact List.mem_append.mpr ((List.mem_append.mp used).imp leftIH rightIH)
  | equal left right leftIH rightIH =>
      exact List.mem_append.mpr ((List.mem_append.mp used).imp leftIH rightIH)
  | app function argument functionIH argumentIH =>
      exact List.mem_append.mpr ((List.mem_append.mp used).imp functionIH argumentIH)

theorem preorder_rename (term : Term) (old new : Ident) :
    (term.rename old new).preorder = term.preorder := by
  induction term with
  | ident id =>
      rw [rename]
      split <;> rfl
  | binder kind bound body bodyIH =>
      rw [rename]
      split
      · rfl
      · rw [preorder, preorder, bodyIH]
  | not operand operandIH => rw [rename, preorder, preorder, operandIH]
  | binary connective left right leftIH rightIH => rw [rename, preorder, preorder, leftIH, rightIH]
  | equal left right leftIH rightIH => rw [rename, preorder, preorder, leftIH, rightIH]
  | app function argument functionIH argumentIH =>
      rw [rename, preorder, preorder, functionIH, argumentIH]

/-- What renaming makes of a subterm: it goes on in it, or has stopped at a binder above. -/
def RenamedOrKept (old new : Ident) (term renamed : Term) : Prop :=
  renamed = term ∨ renamed = term.rename old new

theorem RenamedOrKept.of_rename (old new : Ident) (term : Term) :
    RenamedOrKept old new term (term.rename old new) := Or.inr rfl

theorem RenamedOrKept.ownBound {renamed : Term} (related : RenamedOrKept old new term renamed) :
    renamed.ownBound = term.ownBound := by
  rcases related with rfl | rfl
  · rfl
  · cases term with
    | ident id =>
        rw [rename]
        split <;> rfl
    | binder kind bound body =>
        rw [rename]
        split <;> rfl
    | _ => rfl

theorem RenamedOrKept.part {renamed : Term} (related : RenamedOrKept old new term renamed)
    (number : Nat) :
    Option.Rel (RenamedOrKept old new) term.parts[number]? renamed.parts[number]? := by
  have kept : ∀ part, Option.Rel (RenamedOrKept old new) part part := by
    rintro (_ | part)
    · exact .none
    · exact .some (Or.inl rfl)
  have node : ∀ parts : List Term,
      Option.Rel (RenamedOrKept old new) parts[number]? (parts.map (·.rename old new))[number]? := by
    intro parts
    rw [List.getElem?_map]
    cases parts[number]? with
    | none => exact .none
    | some part => exact .some (Or.inr rfl)
  rcases related with rfl | rfl
  · exact kept _
  · cases term with
    | ident id =>
        rw [rename]
        split <;> exact kept _
    | binder kind bound body =>
        rw [rename]
        split
        · exact kept _
        · exact node [body]
    | not operand => exact node [operand]
    | binary connective left right => exact node [left, right]
    | equal left right => exact node [left, right]
    | app function argument => exact node [function, argument]

theorem RenamedOrKept.at? {renamed : Term} (related : RenamedOrKept old new term renamed) (path : Path) :
    Option.Rel (RenamedOrKept old new) (term.at? path) (renamed.at? path) := by
  induction path generalizing term renamed with
  | nil => exact .some related
  | cons number rest induction =>
      have part := related.part number
      rw [at?_cons, at?_cons]
      generalize term.parts[number]? = original, renamed.parts[number]? = changed at part ⊢
      cases part with
      | none => exact .none
      | some below => exact induction below

theorem RenamedOrKept.boundAround {renamed : Term} (related : RenamedOrKept old new term renamed)
    (path : Path) : renamed.boundAround path = term.boundAround path := by
  induction path generalizing term renamed with
  | nil => rfl
  | cons number rest induction =>
      have part := related.part number
      rw [Term.boundAround, Term.boundAround, related.ownBound]
      generalize term.parts[number]? = original, renamed.parts[number]? = changed at part ⊢
      cases part with
      | none => rfl
      | some below => exact congrArg (_ ++ ·) (induction below)

theorem RenamedOrKept.of_binder {kind : BinderKind} {bound : Ident} {body renamed : Term}
    (related : RenamedOrKept old new (.binder kind bound body) renamed) :
    ∃ body', renamed = .binder kind bound body' ∧ RenamedOrKept old new body body' := by
  rcases related with rfl | rfl
  · exact ⟨body, rfl, Or.inl rfl⟩
  · rw [rename]
    split
    · exact ⟨body, rfl, Or.inl rfl⟩
    · exact ⟨_, rfl, Or.inr rfl⟩

theorem RenamedOrKept.to_binder {kind : BinderKind} {bound : Ident} {body' : Term}
    (related : RenamedOrKept old new term (.binder kind bound body')) :
    ∃ body, term = .binder kind bound body ∧ RenamedOrKept old new body body' := by
  have sameBound := related.ownBound
  cases term with
  | binder kind' bound' body =>
      obtain ⟨_, same, below⟩ := related.of_binder
      cases same
      exact ⟨body, rfl, below⟩
  | _ => cases sameBound

theorem exists_binder_at?_rename (old new : Ident) {kind : BinderKind} {bound : Ident} {body : Term}
    {path : Path} (found : term.at? path = some (.binder kind bound body)) :
    ∃ body', (term.rename old new).at? path = some (.binder kind bound body') ∧
      RenamedOrKept old new body body' := by
  have related := (RenamedOrKept.of_rename old new term).at? path
  rw [found] at related
  generalize (term.rename old new).at? path = renamed at related ⊢
  cases related with
  | some related =>
      obtain ⟨body', rfl, below⟩ := related.of_binder
      exact ⟨body', rfl, below⟩

theorem exists_binder_of_at?_rename {kind : BinderKind} {bound : Ident} {body' : Term} {path : Path}
    (found : (term.rename old new).at? path = some (.binder kind bound body')) :
    ∃ body, term.at? path = some (.binder kind bound body) ∧ RenamedOrKept old new body body' := by
  have related := (RenamedOrKept.of_rename old new term).at? path
  rw [found] at related
  generalize term.at? path = original at related ⊢
  cases related with
  | some related =>
      obtain ⟨body, rfl, below⟩ := related.to_binder
      exact ⟨body, rfl, below⟩

theorem RenamedOrKept.mem_freeVariables_iff {renamed : Term} (related : RenamedOrKept old new term renamed)
    (notOld : id ≠ old) (notNew : id ≠ new) : id ∈ renamed.freeVariables ↔ id ∈ term.freeVariables := by
  rcases related with rfl | rfl
  · exact Iff.rfl
  · exact mem_freeVariables_rename_iff notOld notNew

theorem RenamedOrKept.mem_names {renamed : Term} {name : String}
    (related : RenamedOrKept old new term renamed) (used : name ∈ term.names) (notOld : name ≠ old.name) :
    name ∈ renamed.names := by
  rcases related with rfl | rfl
  · exact used
  · exact mem_names_rename used notOld

theorem boundAround_rename (term : Term) (old new : Ident) (path : Path) :
    (term.rename old new).boundAround path = term.boundAround path :=
  (RenamedOrKept.of_rename old new term).boundAround path

theorem clashesAt_rename {target : Ident} (names : List String) (notOld : target ≠ old)
    (notNew : target ≠ new) (path : Path) :
    (term.rename old new).clashesAt target names path = term.clashesAt target names path := by
  rw [Bool.eq_iff_iff, clashesAt_eq_true_iff, clashesAt_eq_true_iff, boundAround_rename]
  refine and_congr_right fun _ => ⟨?_, ?_⟩
  · rintro ⟨kind, bound, body', found, differ, free, named⟩
    obtain ⟨body, original, related⟩ := exists_binder_of_at?_rename found
    exact ⟨kind, bound, body, original, differ, (related.mem_freeVariables_iff notOld notNew).mp free, named⟩
  · rintro ⟨kind, bound, body, found, differ, free, named⟩
    obtain ⟨body', renamed, related⟩ := exists_binder_at?_rename old new found
    exact ⟨kind, bound, body', renamed, differ, (related.mem_freeVariables_iff notOld notNew).mpr free, named⟩

/-- The binders that clash are the same after an outer one has been renamed. -/
theorem clashes_rename {target : Ident} (names : List String) (notOld : target ≠ old)
    (notNew : target ≠ new) : (term.rename old new).clashes target names = term.clashes target names := by
  rw [clashes, clashes, preorder_rename]
  exact List.filter_congr fun path _ => clashesAt_rename names notOld notNew path

end Rename

end Denotation.Term
