import Mathlib.Data.Nat.Basic
import Denotation.Proofs.Reduction.Step
import Denotation.Proofs.Typing.Simple

/-!
# Scope under reduction

Substitution lets no variable out of its scope: what is free afterwards was free before.  A contraction
that specializes types can do so.  It gives new types to the identifiers inside the redex only, and
a variable of another type is another variable; so an occurrence whose binder stands around the redex is
no longer bound by it.

This is the only way in which a step can add a name to the free ones, and a run none of whose steps takes
it adds none.
-/

namespace Denotation

theorem Ident.specialize_empty (id : Ident) : id.specialize .empty = id := by
  simp only [specialize, Alignment.apply_empty]

namespace Term

theorem specialize_empty (term : Term) : term.specialize .empty = term := by
  induction term with
  | ident id => rw [specialize, Ident.specialize_empty]
  | binder kind bound body bodyIH => rw [specialize, Ident.specialize_empty, bodyIH]
  | not operand operandIH => rw [specialize, operandIH]
  | binary connective left right leftIH rightIH => rw [specialize, leftIH, rightIH]
  | equal left right leftIH rightIH => rw [specialize, leftIH, rightIH]
  | app function argument functionIH argumentIH => rw [specialize, functionIH, argumentIH]

theorem mem_freeVariables_ident {id other : Ident} :
    id ∈ (Term.ident other).freeVariables ↔ id = other ∧ other.isVar = true := by
  cases isVar : other.isVar <;> simp [freeVariables, isVar]

/-- Specializing binders and occurrences alike frees nothing.  It may bind more, where different
variables get the same type. -/
theorem mem_freeVariables_specialize {id : Ident} {alignment : Alignment} {term : Term}
    (free : id ∈ (term.specialize alignment).freeVariables) :
    id ∈ term.freeVariables.map (Ident.specialize alignment) := by
  induction term with
  | ident other =>
      obtain ⟨rfl, isVar⟩ := mem_freeVariables_ident.mp free
      exact List.mem_map_of_mem (mem_freeVariables_ident.mpr ⟨rfl, isVar⟩)
  | binder kind bound body bodyIH =>
      obtain ⟨inside, different⟩ := mem_freeVariables_binder.mp free
      obtain ⟨original, originalFree, rfl⟩ := List.mem_map.mp (bodyIH inside)
      refine List.mem_map_of_mem (mem_freeVariables_binder.mpr ⟨originalFree, ?_⟩)
      intro same
      exact different (congrArg (Ident.specialize alignment) same)
  | not operand operandIH => exact operandIH free
  | binary connective left right leftIH rightIH =>
      rw [freeVariables, List.map_append]
      exact List.mem_append.mpr ((List.mem_append.mp free).imp leftIH rightIH)
  | equal left right leftIH rightIH =>
      rw [freeVariables, List.map_append]
      exact List.mem_append.mpr ((List.mem_append.mp free).imp leftIH rightIH)
  | app function argument functionIH argumentIH =>
      rw [freeVariables, List.map_append]
      exact List.mem_append.mpr ((List.mem_append.mp free).imp functionIH argumentIH)

section Replacing

variable {id : Ident}

theorem mem_filter_of_not_mem {target : Ident} {free : List Ident} (member : id ∈ free)
    (absent : target ∉ free) : id ∈ free.filter (· ≠ target) := by
  refine List.mem_filter.mpr ⟨member, decide_eq_true ?_⟩
  rintro rfl
  exact absent member

theorem mem_filter_append {left left' right right' : List Ident} {keeps : Ident → Bool}
    (inLeft : id ∈ left' → id ∈ left.filter keeps) (inRight : id ∈ right' → id ∈ right.filter keeps)
    (member : id ∈ left' ++ right') : id ∈ (left ++ right).filter keeps := by
  rw [List.filter_append]
  exact List.mem_append.mpr ((List.mem_append.mp member).imp inLeft inRight)

theorem not_free_of_untouched {target bound : Ident} {kind : BinderKind} {body : Term}
    (untouched : bound = target ∨ ¬ body.hasFree target) :
    target ∉ (Term.binder kind bound body).freeVariables := by
  intro free
  obtain ⟨inside, different⟩ := mem_freeVariables_binder.mp free
  rcases untouched with same | absent
  · exact different same.symm
  · exact absent (decide_eq_true inside)

theorem mem_freeVariables_rename {old new : Ident} {term : Term} (different : id ≠ new)
    (free : id ∈ (term.rename old new).freeVariables) :
    id ∈ term.freeVariables.filter (· ≠ old) := by
  induction term with
  | ident other =>
      rw [rename] at free
      split at free
      · exact absurd (mem_freeVariables_ident.mp free).1 different
      · rename_i apart
        apply mem_filter_of_not_mem free
        intro same
        exact apart (mem_freeVariables_ident.mp same).1.symm
  | binder kind bound body bodyIH =>
      rw [rename] at free
      split at free
      · rename_i untouched
        exact mem_filter_of_not_mem free (not_free_of_untouched untouched)
      · obtain ⟨inside, notBound⟩ := mem_freeVariables_binder.mp free
        obtain ⟨bodyFree, notOld⟩ := List.mem_filter.mp (bodyIH inside)
        exact List.mem_filter.mpr ⟨mem_freeVariables_binder.mpr ⟨bodyFree, notBound⟩, notOld⟩
  | not operand operandIH => exact operandIH free
  | binary connective left right leftIH rightIH => exact mem_filter_append leftIH rightIH free
  | equal left right leftIH rightIH => exact mem_filter_append leftIH rightIH free
  | app function argument functionIH argumentIH => exact mem_filter_append functionIH argumentIH free

/-- What is free after a substitution and does not come from the replacement was free before. -/
theorem mem_freeVariables_substitute {target : Ident} {term replacement : Term} {log : List Renaming}
    (foreign : id ∉ replacement.freeVariables)
    (free : id ∈ (term.substitute target replacement log).term.freeVariables) :
    id ∈ term.freeVariables.filter (· ≠ target) := by
  induction term, log using substitute.induct target replacement with
  | case1 log other =>
      rw [substitute] at free
      split at free
      · exact absurd free foreign
      · rename_i apart
        apply mem_filter_of_not_mem free
        intro same
        exact apart (mem_freeVariables_ident.mp same).1.symm
  | case2 log kind bound body untouched =>
      rw [substitute, if_pos untouched] at free
      exact mem_filter_of_not_mem free (not_free_of_untouched untouched)
  | @case3 log kind bound body passes clash variant bodyIH =>
      rw [substitute, if_neg passes, if_pos clash] at free
      obtain ⟨inside, notVariant⟩ := mem_freeVariables_binder.mp free
      obtain ⟨renamedFree, notTarget⟩ := List.mem_filter.mp (bodyIH inside)
      obtain ⟨bodyFree, notBound⟩ := List.mem_filter.mp (mem_freeVariables_rename notVariant renamedFree)
      exact List.mem_filter.mpr
        ⟨mem_freeVariables_binder.mpr ⟨bodyFree, of_decide_eq_true notBound⟩, notTarget⟩
  | case4 log kind bound body passes noClash bodyIH =>
      rw [substitute, if_neg passes, if_neg noClash] at free
      obtain ⟨inside, notBound⟩ := mem_freeVariables_binder.mp free
      obtain ⟨bodyFree, notTarget⟩ := List.mem_filter.mp (bodyIH inside)
      exact List.mem_filter.mpr ⟨mem_freeVariables_binder.mpr ⟨bodyFree, notBound⟩, notTarget⟩
  | case5 log operand operandIH =>
      rw [substitute] at free
      exact operandIH free
  | @case6 log connective left right first leftIH rightIH =>
      rw [substitute] at free
      exact mem_filter_append leftIH rightIH free
  | @case7 log left right first leftIH rightIH =>
      rw [substitute] at free
      exact mem_filter_append leftIH rightIH free
  | @case8 log function argument first functionIH argumentIH =>
      rw [substitute] at free
      exact mem_filter_append functionIH argumentIH free

end Replacing

section Occurrence

variable {id : Ident} {term part : Term} {number : Nat}

theorem mem_freeVariables_iff_of_part (isPart : term.parts[number]? = some part) :
    id ∈ term.freeVariables ↔ id ∉ term.ownBound ∧ ∃ part ∈ term.parts, id ∈ part.freeVariables := by
  cases term with
  | ident other => simp [parts] at isPart
  | binder kind bound body => simp [mem_freeVariables_binder, ownBound, parts, and_comm]
  | not operand => simp [freeVariables, ownBound, parts]
  | binary connective left right => simp [freeVariables, ownBound, parts]
  | equal left right => simp [freeVariables, ownBound, parts]
  | app function argument => simp [freeVariables, ownBound, parts]

theorem ownBound_putPart (term : Term) (number : Nat) (part : Term) :
    (term.putPart number part).ownBound = term.ownBound := by
  cases term <;> rfl

theorem mem_freeVariables_of_part (isPart : term.parts[number]? = some part)
    (free : id ∈ part.freeVariables) (unbound : id ∉ term.ownBound) : id ∈ term.freeVariables :=
  (mem_freeVariables_iff_of_part isPart).mpr ⟨unbound, part, List.mem_of_getElem? isPart, free⟩

theorem mem_freeVariables_putPart {part' : Term} (isPart : term.parts[number]? = some part)
    (free : id ∈ (term.putPart number part').freeVariables) :
    id ∈ term.freeVariables ∨ id ∈ part'.freeVariables ∧ id ∉ term.ownBound := by
  have isPart' := getElem?_parts_putPart part' isPart
  obtain ⟨unbound, found, member, inside⟩ := (mem_freeVariables_iff_of_part isPart').mp free
  rw [ownBound_putPart] at unbound
  rw [parts_putPart] at member
  rcases List.mem_or_eq_of_mem_set member with old | rfl
  · exact Or.inl ((mem_freeVariables_iff_of_part isPart).mpr ⟨unbound, found, old, inside⟩)
  · exact Or.inr ⟨inside, unbound⟩

theorem mem_freeVariables_of_at? {subterm : Term} {path : Path}
    (found : term.at? path = some subterm) (free : id ∈ subterm.freeVariables)
    (unbound : id ∉ term.boundAround path) : id ∈ term.freeVariables := by
  induction path generalizing term with
  | nil =>
      cases found
      exact free
  | cons number rest induction =>
      rw [at?_cons] at found
      obtain ⟨part, isPart, below⟩ := Option.bind_eq_some_iff.mp found
      simp only [boundAround, isPart, List.mem_append, not_or] at unbound
      exact mem_freeVariables_of_part isPart (induction below unbound.2) unbound.1

/-- Exchanging a subterm only adds the free variables of the new one that no binder around it binds. -/
theorem mem_freeVariables_putAt {subterm subterm' : Term} {path : Path}
    (found : term.at? path = some subterm)
    (free : id ∈ (term.putAt subterm' path).freeVariables) :
    id ∈ term.freeVariables ∨ id ∈ subterm'.freeVariables ∧ id ∉ term.boundAround path := by
  induction path generalizing term with
  | nil => exact Or.inr ⟨free, List.not_mem_nil⟩
  | cons number rest induction =>
      rw [at?_cons] at found
      obtain ⟨part, isPart, below⟩ := Option.bind_eq_some_iff.mp found
      simp only [putAt, isPart] at free
      rcases mem_freeVariables_putPart isPart free with outside | ⟨inside, unbound⟩
      · exact Or.inl outside
      · rcases induction below inside with inPart | ⟨inSubterm, unboundBelow⟩
        · exact Or.inl (mem_freeVariables_of_part isPart inPart unbound)
        · refine Or.inr ⟨inSubterm, ?_⟩
          simp only [boundAround, isPart, List.mem_append, not_or]
          exact ⟨unbound, unboundBelow⟩

end Occurrence

/-- What the contraction of a redex takes the type variables of the bound variable for. -/
def specialization : Term → Alignment
  | .app (.binder .lambda bound _) argument =>
      match argument.typeOf with
      | .error _ => .empty
      | .ok argumentTy =>
          if bound.ty.hasVariables then
            match bound.ty.align argumentTy with
            | .error _ => .empty
            | .ok alignment => alignment
          else .empty
  | _ => .empty

theorem eq_substitute_of_betaReduce {bound : Ident} {body argument : Term} {contracted : Substituted}
    {alignment : Alignment}
    (specialized : specialization (.app (.binder .lambda bound body) argument) = alignment)
    (succeeds : betaReduce (.app (.binder .lambda bound body) argument) = .ok contracted) :
    contracted =
      (body.specialize alignment).substitute (bound.specialize alignment) argument [] := by
  rw [betaReduce, mapError_eq_ok_iff, contract] at succeeds
  split at succeeds
  · obtain ⟨argumentTy, argumentTyped, succeeds⟩ := bind_eq_ok_iff.mp succeeds
    obtain ⟨_, -, succeeds⟩ := bind_eq_ok_iff.mp succeeds
    simp only [specialization, argumentTyped] at specialized
    split at succeeds
    · rename_i polymorphic
      obtain ⟨found, aligned, succeeds⟩ := bind_eq_ok_iff.mp succeeds
      rw [mapError_eq_ok_iff] at aligned
      simp only [polymorphic, if_true, aligned] at specialized
      subst specialized
      exact (pure_eq_ok_iff.mp succeeds).symm
    · rename_i concrete
      simp only [concrete, if_false, Bool.false_eq_true] at specialized
      subst specialized
      rw [specialize_empty, Ident.specialize_empty]
      exact (pure_eq_ok_iff.mp succeeds).symm
  · cases succeeds

/-- The free variables of the function of an application.  Contraction takes nothing but these to
other types: the argument stays as it is. -/
def functionVariables : Term → List Ident
  | .app function _ => function.freeVariables
  | _ => []

theorem functionVariables_subset {term : Term} {id : Ident} (free : id ∈ term.functionVariables) :
    id ∈ term.freeVariables := by
  cases term with
  | app function argument => exact List.mem_append_left _ free
  | _ => exact absurd free List.not_mem_nil

/-- A free variable of a contractum is one of the redex, or one of its function in the type that
contraction gives it. -/
theorem mem_freeVariables_betaReduce {redex : Term} {contracted : Substituted} {id : Ident}
    (isRedex : redex.isRedex = true) (succeeds : redex.betaReduce = .ok contracted)
    (free : id ∈ contracted.term.freeVariables) :
    id ∈ redex.freeVariables ∨
      ∃ original ∈ redex.functionVariables, original.specialize redex.specialization = id := by
  obtain ⟨bound, body, argument, rfl⟩ := isRedex_eq_true_iff.mp isRedex
  rw [eq_substitute_of_betaReduce rfl succeeds] at free
  by_cases fromArgument : id ∈ argument.freeVariables
  · exact Or.inl (List.mem_append_right _ fromArgument)
  · obtain ⟨specialized, notBound⟩ :=
      List.mem_filter.mp (mem_freeVariables_substitute fromArgument free)
    obtain ⟨original, originalFree, rfl⟩ := List.mem_map.mp (mem_freeVariables_specialize specialized)
    have different : original ≠ bound := fun same =>
      of_decide_eq_true notBound (congrArg (Ident.specialize _) same)
    have inFunction : original ∈ (lambda bound body).freeVariables :=
      mem_freeVariables_binder.mpr ⟨originalFree, different⟩
    exact Or.inr ⟨original, inFunction, rfl⟩

/-- A variable that the step takes away from its binder, which stands around the redex: it is free in
the function of the redex, and contraction gives it another type. -/
structure Releases (term : Term) (step : Step) (path : Path) (outer : Ident) : Prop where
  bound : outer ∈ term.boundAround path
  free : outer ∈ step.redex.functionVariables
  changed : outer.specialize step.redex.specialization ≠ outer

theorem ContractsAt.freeVariables {term : Term} {step : Step} {path : Path}
    (contracts : ContractsAt step term path) {id : Ident} (free : id ∈ step.result.freeVariables) :
    id.name ∈ term.freeNames ∨
      ∃ outer, term.Releases step path outer ∧ outer.specialize step.redex.specialization = id := by
  obtain ⟨found, isRedex, contracted, rebuilt⟩ := contracts
  rw [rebuilt] at free
  rcases mem_freeVariables_putAt found free with before | ⟨inContractum, unbound⟩
  · exact Or.inl (List.mem_map_of_mem before)
  · rcases mem_freeVariables_betaReduce isRedex contracted inContractum with
      inRedex | ⟨original, originalFree, rfl⟩
    · exact Or.inl (List.mem_map_of_mem (mem_freeVariables_of_at? found inRedex unbound))
    · by_cases enclosed : original ∈ term.boundAround path
      · refine Or.inr ⟨original, ⟨enclosed, originalFree, ?_⟩, rfl⟩
        intro unchanged
        exact unbound (unchanged.symm ▸ enclosed)
      · have stillFree :=
          mem_freeVariables_of_at? found (functionVariables_subset originalFree) enclosed
        have sameName : (original.specialize step.redex.specialization).name = original.name := rfl
        rw [sameName]
        exact Or.inl (List.mem_map_of_mem stillFree)

/-- One step that releases no variable from its binder. -/
def ReducesInScope (term result : Term) : Prop :=
  ∃ step path, term.reduceOnce = .ok (some step) ∧ ContractsAt step term path ∧
    (∀ outer, ¬ term.Releases step path outer) ∧ step.result = result

theorem ReducesInScope.freeNames {term result : Term} (reduces : ReducesInScope term result)
    {name : String} (free : name ∈ result.freeNames) : name ∈ term.freeNames := by
  obtain ⟨step, path, -, contracts, inScope, rfl⟩ := reduces
  obtain ⟨id, idFree, rfl⟩ := List.mem_map.mp free
  rcases contracts.freeVariables idFree with kept | ⟨outer, released, -⟩
  · exact kept
  · exact absurd released (inScope outer)

/-- A free variable of the result of a step has the name of one that was free before, unless the step
has released it from a binder around the redex by giving it another type.  In a run without such steps
no name gets free, and a closed term stays closed. -/
theorem freeNames_of_reduceOnce (term : Term) :
    (∀ step, term.reduceOnce = .ok (some step) → ∃ path, ContractsAt step term path ∧
      ∀ id ∈ step.result.freeVariables, id.name ∈ term.freeNames ∨
        ∃ outer, term.Releases step path outer ∧
          outer.specialize step.redex.specialization = id) ∧
    ∀ reached, Relation.ReflTransGen ReducesInScope term reached →
      (∀ name ∈ reached.freeNames, name ∈ term.freeNames) ∧
        (term.freeVariables = [] → reached.freeVariables = []) := by
  constructor
  · intro step reduced
    obtain ⟨path, contracts⟩ := exists_contractsAt reduced
    exact ⟨path, contracts, fun id free => contracts.freeVariables free⟩
  · intro reached run
    have kept : ∀ name ∈ reached.freeNames, name ∈ term.freeNames := by
      induction run with
      | refl => exact fun name free => free
      | tail _ last runIH => exact fun name free => runIH name (last.freeNames free)
    refine ⟨kept, fun closed => ?_⟩
    apply List.eq_nil_iff_forall_not_mem.mpr
    intro id free
    have wasFree := kept id.name (List.mem_map_of_mem free)
    rw [freeNames, closed] at wasFree
    exact List.not_mem_nil wasFree

/-- In `λz[(λX[λy[X(y)]])(λw[R(z)(w)])]`, where `X` is of type `<'a,t>` and `y` and `z` of type `'a`, the
first step specializes `y` with its binder.  It leaves `z` as it is, which only the argument has. -/
theorem freeNames_of_reduceOnce_inner_binder :
    let z : Ident := ⟨.var, "z", .var 'a'⟩
    let w : Ident := ⟨.var, "w", .entity⟩
    let y : Ident := ⟨.var, "y", .var 'a'⟩
    let y' : Ident := ⟨.var, "y", .entity⟩
    let x : Ident := ⟨.var, "X", .fn (.var 'a') .truth⟩
    let r := Term.ident ⟨.const, "R", .fn (.var 'a') .predicate⟩
    let argument := lambda w (.app (.app r (.ident z)) (.ident w))
    let redex := Term.app (lambda x (lambda y (.app (.ident x) (.ident y)))) argument
    let contractum := lambda y' (.app argument (.ident y'))
    ReducesInScope (lambda z redex) (lambda z contractum) ∧
      (∀ name ∈ (lambda z contractum).freeNames, name ∈ (lambda z redex).freeNames) ∧
      (lambda z contractum).freeVariables = [] := by
  intro z w y y' x r argument redex contractum
  let step : Step := ⟨redex, contractum, [], lambda z contractum⟩
  have reduced : (lambda z redex).reduceOnce = .ok (some step) := by cbv
  have contracts : ContractsAt step (lambda z redex) [0] := ⟨rfl, rfl, by cbv, rfl⟩
  have inScope : ∀ outer, ¬ (lambda z redex).Releases step [0] outer := by
    intro outer released
    have onlyBound : outer ∈ [z] := released.bound
    cases List.mem_singleton.mp onlyBound
    have notInFunction : z ∉ redex.functionVariables := by decide
    exact notInFunction released.free
  have reduces : ReducesInScope (lambda z redex) (lambda z contractum) :=
    ⟨step, [0], reduced, contracts, inScope, rfl⟩
  obtain ⟨kept, closed⟩ := (freeNames_of_reduceOnce (lambda z redex)).2 _ (.single reduces)
  exact ⟨reduces, kept, closed (by decide)⟩

/-- In `λy[(λX[X(y)])(Happy)]`, where `X` is of type `<'a,t>` and `y` of type `'a`, the contraction of the
redex makes `y` a variable of type `e`, which the binder around it does not bind. -/
theorem freeVariables_reduceOnce_released :
    let y : Ident := ⟨.var, "y", .var 'a'⟩
    let y' : Ident := ⟨.var, "y", .entity⟩
    let x : Ident := ⟨.var, "X", .fn (.var 'a') .truth⟩
    let happy := Term.ident ⟨.const, "Happy", .predicate⟩
    let redex := Term.app (lambda x (.app (.ident x) (.ident y))) happy
    let contractum := Term.app happy (.ident y')
    (lambda y redex).typeOf = .ok (.fn (.var 'a') .truth) ∧ (lambda y redex).freeVariables = [] ∧
      (lambda y redex).reduceOnce = .ok (some ⟨redex, contractum, [], lambda y contractum⟩) ∧
      (lambda y contractum).freeVariables = [y'] := by
  intro y y' x happy redex contractum
  refine ⟨?_, ?_, ?_, ?_⟩
  · cbv
  · decide
  · cbv
  · decide

end Term

end Denotation
