import Mathlib.Logic.Relation
import Denotation.Conversion
import Denotation.Term.Path
import Denotation.Proofs.Outcome

/-!
# Steps of reduction

What one step does to a term: it exchanges one redex for its contractum and leaves all other nodes
as they are.  There is no step exactly if there is no redex.  A run makes one such step after the
other, and its order is fixed: the parts of a node are reduced from left to right, and then the node
itself.
-/

namespace Denotation.Term

theorem isRedex_eq_true_iff {term : Term} :
    term.isRedex = true ↔
      ∃ bound body argument, term = .app (.binder .lambda bound body) argument := by
  constructor
  · intro redex
    unfold isRedex at redex
    split at redex
    · exact ⟨_, _, _, rfl⟩
    · contradiction
  · rintro ⟨bound, body, argument, rfl⟩
    rfl

theorem occursIn_iff {subterm term : Term} :
    OccursIn subterm term ↔ subterm = term ∨ ∃ part ∈ term.parts, OccursIn subterm part := by
  constructor
  · rintro ⟨path, found⟩
    cases path with
    | nil =>
        cases found
        exact Or.inl rfl
    | cons number rest =>
        rw [at?_cons] at found
        obtain ⟨part, isPart, below⟩ := Option.bind_eq_some_iff.mp found
        exact Or.inr ⟨part, List.mem_of_getElem? isPart, rest, below⟩
  · rintro (rfl | ⟨part, member, path, found⟩)
    · exact ⟨[], rfl⟩
    · obtain ⟨number, isPart⟩ := List.mem_iff_getElem?.mp member
      exact ⟨number :: path, by rw [at?_cons, isPart, Option.bind_some, found]⟩

theorem isNormal_iff {term : Term} :
    term.IsNormal ↔ term.isRedex = false ∧ ∀ part ∈ term.parts, part.IsNormal := by
  constructor
  · intro normal
    refine ⟨normal term ⟨[], rfl⟩, fun part member subterm occurs => ?_⟩
    exact normal subterm (occursIn_iff.mpr (Or.inr ⟨part, member, occurs⟩))
  · rintro ⟨notRedex, partsNormal⟩ subterm occurs
    rcases occursIn_iff.mp occurs with rfl | ⟨part, member, below⟩
    · exact notRedex
    · exact partsNormal part member subterm below

@[simp] theorem isNormal_ident (id : Ident) : (Term.ident id).IsNormal := by
  rw [isNormal_iff]
  simp [isRedex, parts]

@[simp] theorem isNormal_binder {kind : BinderKind} {bound : Ident} {body : Term} :
    (Term.binder kind bound body).IsNormal ↔ body.IsNormal := by
  rw [isNormal_iff]
  simp [isRedex, parts]

@[simp] theorem isNormal_not {operand : Term} : (Term.not operand).IsNormal ↔ operand.IsNormal := by
  rw [isNormal_iff]
  simp [isRedex, parts]

@[simp] theorem isNormal_binary {connective : Connective} {left right : Term} :
    (Term.binary connective left right).IsNormal ↔ left.IsNormal ∧ right.IsNormal := by
  rw [isNormal_iff]
  simp [isRedex, parts]

@[simp] theorem isNormal_equal {left right : Term} :
    (Term.equal left right).IsNormal ↔ left.IsNormal ∧ right.IsNormal := by
  rw [isNormal_iff]
  simp [isRedex, parts]

@[simp] theorem isNormal_app {function argument : Term} :
    (Term.app function argument).IsNormal ↔
      (Term.app function argument).isRedex = false ∧ function.IsNormal ∧ argument.IsNormal := by
  rw [isNormal_iff]
  simp [parts]

/-- The search for a redex in two parts of a node, the first one before the second. -/
def searchParts (first second : Except ConversionError (Option Step))
    (encloseFirst encloseSecond : Term → Term) : Except ConversionError (Option Step) := do
  match ← first with
  | some step => return some (step.within encloseFirst)
  | none => return (← second).map (Step.within encloseSecond)

section Search

variable {first second : Except ConversionError (Option Step)}
  {encloseFirst encloseSecond : Term → Term}

theorem searchParts_eq_none_iff :
    searchParts first second encloseFirst encloseSecond = .ok none ↔
      first = .ok none ∧ second = .ok none := by
  rcases first with error | _ | step
  · simp [searchParts, bind, Except.bind]
  · cases second <;> simp [searchParts, bind, Except.bind, pure, Except.pure]
  · simp [searchParts, bind, Except.bind, pure, Except.pure]

theorem searchParts_eq_some_iff {step : Step} :
    searchParts first second encloseFirst encloseSecond = .ok (some step) ↔
      (∃ inside, first = .ok (some inside) ∧ inside.within encloseFirst = step) ∨
        first = .ok none ∧
          ∃ inside, second = .ok (some inside) ∧ inside.within encloseSecond = step := by
  rcases first with error | _ | found
  · simp [searchParts, bind, Except.bind]
  · cases second <;> simp [searchParts, bind, Except.bind, pure, Except.pure]
  · simp [searchParts, bind, Except.bind, pure, Except.pure]

end Search

theorem reduceOnce_binder (kind : BinderKind) (bound : Ident) (body : Term) :
    (Term.binder kind bound body).reduceOnce =
      body.reduceOnce.map (Option.map (Step.within (.binder kind bound ·))) := by
  simp only [reduceOnce]
  cases body.reduceOnce <;> rfl

theorem reduceOnce_not (operand : Term) :
    (Term.not operand).reduceOnce = operand.reduceOnce.map (Option.map (Step.within .not)) := by
  simp only [reduceOnce]
  cases operand.reduceOnce <;> rfl

theorem reduceOnce_binary (connective : Connective) (left right : Term) :
    (Term.binary connective left right).reduceOnce =
      searchParts left.reduceOnce right.reduceOnce (.binary connective · right)
        (.binary connective left ·) :=
  rfl

theorem reduceOnce_equal (left right : Term) :
    (Term.equal left right).reduceOnce =
      searchParts left.reduceOnce right.reduceOnce (.equal · right) (.equal left ·) :=
  rfl

/-- The node itself is looked at after its parts. -/
theorem reduceOnce_app (function argument : Term) :
    (Term.app function argument).reduceOnce =
      searchParts function.reduceOnce argument.reduceOnce (.app · argument) (.app function ·) >>=
        fun outcome => match outcome with
          | some step => pure (some step)
          | none =>
              if (Term.app function argument).isRedex then
                (Term.app function argument).betaReduce.map fun contracted =>
                  some ⟨.app function argument, contracted.term, contracted.log, contracted.term⟩
              else pure none := by
  simp only [reduceOnce, searchParts]
  rcases function.reduceOnce with error | _ | step
  · rfl
  · rcases argument.reduceOnce with error | _ | step
    · rfl
    · simp only [bind, Except.bind, pure, Except.pure, Option.map_none]
      cases (Term.app function argument).betaReduce <;> rfl
    · rfl
  · rfl

theorem reduceOnce_eq_none_iff {term : Term} : term.reduceOnce = .ok none ↔ term.IsNormal := by
  induction term with
  | ident id => simp [reduceOnce, pure, Except.pure]
  | binder kind bound body bodyIH =>
      rw [isNormal_binder, ← bodyIH, reduceOnce_binder]
      rcases body.reduceOnce with error | _ | step <;> simp [Except.map]
  | not operand operandIH =>
      rw [isNormal_not, ← operandIH, reduceOnce_not]
      rcases operand.reduceOnce with error | _ | step <;> simp [Except.map]
  | binary connective left right leftIH rightIH =>
      rw [isNormal_binary, ← leftIH, ← rightIH, reduceOnce_binary, searchParts_eq_none_iff]
  | equal left right leftIH rightIH =>
      rw [isNormal_equal, ← leftIH, ← rightIH, reduceOnce_equal, searchParts_eq_none_iff]
  | app function argument functionIH argumentIH =>
      rw [isNormal_app, ← functionIH, ← argumentIH, reduceOnce_app, bind_eq_ok_iff]
      constructor
      · rintro ⟨_ | step, searched, rooted⟩
        · refine ⟨?_, searchParts_eq_none_iff.mp searched⟩
          cases redex : (Term.app function argument).isRedex with
          | false => rfl
          | true =>
              rw [if_pos redex] at rooted
              cases contracted : (Term.app function argument).betaReduce <;>
                simp [contracted, Except.map] at rooted
        · simp [pure, Except.pure] at rooted
      · rintro ⟨notRedex, functionNormal, argumentNormal⟩
        refine ⟨none, searchParts_eq_none_iff.mpr ⟨functionNormal, argumentNormal⟩, ?_⟩
        simp [notRedex, pure, Except.pure]

/-- A bound variable without type variables is not specialized before the argument takes its place. -/
theorem betaReduce_of_concrete {bound : Ident} {argument : Term} {argumentTy : Ty} (body : Term)
    (isVar : bound.isVar = true) (concrete : bound.ty.hasVariables = false)
    (typed : argument.typeOf = .ok argumentTy) (fits : bound.ty.compatible argumentTy = true) :
    betaReduce (.app (.binder .lambda bound body) argument) =
      .ok (body.substitute bound argument []) := by
  have fit : fit bound.ty argument argumentTy = .ok () := if_pos fits
  rw [betaReduce, mapError_eq_ok_iff, contract, if_pos isVar, typed]
  simp only [bind, Except.bind, fit, concrete]
  rfl

/-- The step contracts the redex at the path and leaves the rest of the term as it is. -/
structure ContractsAt (step : Step) (term : Term) (path : Path) : Prop where
  found : term.at? path = some step.redex
  redex : step.redex.isRedex = true
  contracted : step.redex.betaReduce = .ok ⟨step.contractum, step.renamings⟩
  rebuilt : step.result = term.putAt step.contractum path

theorem ContractsAt.of_part {step : Step} {term part : Term} {number : Nat} {path : Path}
    (contracts : ContractsAt step part path) (isPart : term.parts[number]? = some part) :
    ContractsAt (step.within (term.putPart number ·)) term (number :: path) where
  found := by
    rw [at?_cons, isPart]
    exact contracts.found
  redex := contracts.redex
  contracted := contracts.contracted
  rebuilt := by
    simp only [Step.within, putAt, isPart, contracts.rebuilt]

/-- A search in two parts finds its step in one of them. -/
theorem contractsAt_of_searchParts {term first second : Term} {step : Step}
    (isFirst : term.parts[0]? = some first) (isSecond : term.parts[1]? = some second)
    (inFirst : ∀ inside, first.reduceOnce = .ok (some inside) →
      ∃ path, ContractsAt inside first path)
    (inSecond : ∀ inside, second.reduceOnce = .ok (some inside) →
      ∃ path, ContractsAt inside second path)
    (searched : searchParts first.reduceOnce second.reduceOnce (term.putPart 0 ·)
      (term.putPart 1 ·) = .ok (some step)) :
    ∃ path, ContractsAt step term path := by
  rcases searchParts_eq_some_iff.mp searched with ⟨inside, run, rfl⟩ | ⟨_, inside, run, rfl⟩
  · obtain ⟨path, contracts⟩ := inFirst inside run
    exact ⟨0 :: path, contracts.of_part isFirst⟩
  · obtain ⟨path, contracts⟩ := inSecond inside run
    exact ⟨1 :: path, contracts.of_part isSecond⟩

theorem exists_contractsAt {term : Term} {step : Step}
    (reduced : term.reduceOnce = .ok (some step)) : ∃ path, ContractsAt step term path := by
  induction term generalizing step with
  | ident id => simp [reduceOnce, pure, Except.pure] at reduced
  | binder kind bound body bodyIH =>
      rw [reduceOnce_binder] at reduced
      rcases run : body.reduceOnce with error | _ | inside <;>
        simp [run, Except.map] at reduced
      subst reduced
      obtain ⟨path, contracts⟩ := bodyIH run
      have isPart : (Term.binder kind bound body).parts[0]? = some body := rfl
      exact ⟨0 :: path, contracts.of_part isPart⟩
  | not operand operandIH =>
      rw [reduceOnce_not] at reduced
      rcases run : operand.reduceOnce with error | _ | inside <;>
        simp [run, Except.map] at reduced
      subst reduced
      obtain ⟨path, contracts⟩ := operandIH run
      have isPart : (Term.not operand).parts[0]? = some operand := rfl
      exact ⟨0 :: path, contracts.of_part isPart⟩
  | binary connective left right leftIH rightIH =>
      rw [reduceOnce_binary] at reduced
      exact contractsAt_of_searchParts rfl rfl (fun _ => leftIH) (fun _ => rightIH) reduced
  | equal left right leftIH rightIH =>
      rw [reduceOnce_equal] at reduced
      exact contractsAt_of_searchParts rfl rfl (fun _ => leftIH) (fun _ => rightIH) reduced
  | app function argument functionIH argumentIH =>
      rw [reduceOnce_app, bind_eq_ok_iff] at reduced
      obtain ⟨_ | inside, searched, rooted⟩ := reduced
      · cases redex : (Term.app function argument).isRedex with
        | false => simp [redex, pure, Except.pure] at rooted
        | true =>
            rw [if_pos redex] at rooted
            cases contracted : (Term.app function argument).betaReduce with
            | error error => simp [contracted, Except.map] at rooted
            | ok result =>
                simp only [contracted, Except.map, Except.ok.injEq, Option.some.injEq] at rooted
                subst rooted
                exact ⟨[], rfl, redex, contracted, rfl⟩
      · cases rooted
        exact contractsAt_of_searchParts rfl rfl (fun _ => functionIH) (fun _ => argumentIH) searched

/-- One step of reduction leads from the first term to the second one. -/
def Reduces (term result : Term) : Prop :=
  ∃ step, term.reduceOnce = .ok (some step) ∧ step.result = result

theorem Reduces.binder {kind : BinderKind} {bound : Ident} {body body' : Term}
    (reduces : Reduces body body') : Reduces (.binder kind bound body) (.binder kind bound body') := by
  obtain ⟨step, run, rfl⟩ := reduces
  exact ⟨_, by rw [reduceOnce_binder, run]; rfl, rfl⟩

theorem Reduces.not {operand operand' : Term} (reduces : Reduces operand operand') :
    Reduces (.not operand) (.not operand') := by
  obtain ⟨step, run, rfl⟩ := reduces
  exact ⟨_, by rw [reduceOnce_not, run]; rfl, rfl⟩

theorem Reduces.binaryLeft {connective : Connective} {left left' right : Term}
    (reduces : Reduces left left') :
    Reduces (.binary connective left right) (.binary connective left' right) := by
  obtain ⟨step, run, rfl⟩ := reduces
  exact ⟨_, by rw [reduceOnce_binary, run]; rfl, rfl⟩

theorem Reduces.binaryRight {connective : Connective} {left right right' : Term}
    (normal : left.IsNormal) (reduces : Reduces right right') :
    Reduces (.binary connective left right) (.binary connective left right') := by
  obtain ⟨step, run, rfl⟩ := reduces
  exact ⟨_, by rw [reduceOnce_binary, reduceOnce_eq_none_iff.mpr normal, run]; rfl, rfl⟩

theorem Reduces.equalLeft {left left' right : Term} (reduces : Reduces left left') :
    Reduces (.equal left right) (.equal left' right) := by
  obtain ⟨step, run, rfl⟩ := reduces
  exact ⟨_, by rw [reduceOnce_equal, run]; rfl, rfl⟩

theorem Reduces.equalRight {left right right' : Term} (normal : left.IsNormal)
    (reduces : Reduces right right') : Reduces (.equal left right) (.equal left right') := by
  obtain ⟨step, run, rfl⟩ := reduces
  exact ⟨_, by rw [reduceOnce_equal, reduceOnce_eq_none_iff.mpr normal, run]; rfl, rfl⟩

theorem Reduces.function {function function' argument : Term}
    (reduces : Reduces function function') :
    Reduces (.app function argument) (.app function' argument) := by
  obtain ⟨step, run, rfl⟩ := reduces
  exact ⟨_, by rw [reduceOnce_app, run]; rfl, rfl⟩

theorem Reduces.argument {function argument argument' : Term} (normal : function.IsNormal)
    (reduces : Reduces argument argument') :
    Reduces (.app function argument) (.app function argument') := by
  obtain ⟨step, run, rfl⟩ := reduces
  exact ⟨_, by rw [reduceOnce_app, reduceOnce_eq_none_iff.mpr normal, run]; rfl, rfl⟩

/-- A redex is contracted once nothing is left to do in its parts. -/
theorem Reduces.contract {function argument : Term} {contracted : Substituted}
    (functionNormal : function.IsNormal) (argumentNormal : argument.IsNormal)
    (redex : (Term.app function argument).isRedex = true)
    (succeeds : (Term.app function argument).betaReduce = .ok contracted) :
    Reduces (.app function argument) contracted.term := by
  refine ⟨⟨.app function argument, contracted.term, contracted.log, contracted.term⟩, ?_, rfl⟩
  have searched : searchParts function.reduceOnce argument.reduceOnce (.app · argument)
      (.app function ·) = .ok none :=
    searchParts_eq_none_iff.mpr
      ⟨reduceOnce_eq_none_iff.mpr functionNormal, reduceOnce_eq_none_iff.mpr argumentNormal⟩
  rw [reduceOnce_app, searched, succeeds]
  simp only [redex, bind, Except.bind, if_true, Except.map]

section Counting

variable {term : Term} (limit : Nat)

theorem reduceCounting_of_none (steps : Nat) (normal : term.reduceOnce = .ok none) :
    reduceCounting limit steps term = .ok term := by
  rw [reduceCounting, normal]
  rfl

theorem reduceCounting_of_error (steps : Nat) {error : ConversionError}
    (failed : term.reduceOnce = .error error) :
    reduceCounting limit steps term = .error error := by
  rw [reduceCounting, failed]
  rfl

theorem reduceCounting_zero_of_some {step : Step} (reduced : term.reduceOnce = .ok (some step)) :
    reduceCounting limit 0 term = .error (.stepLimitExceeded limit) := by
  rw [reduceCounting, reduced]
  rfl

theorem reduceCounting_succ_of_some (remaining : Nat) {step : Step}
    (reduced : term.reduceOnce = .ok (some step)) :
    reduceCounting limit (remaining + 1) term = reduceCounting limit remaining step.result := by
  rw [reduceCounting, reduced]
  rfl

end Counting

/-- Reduction runs from the first term through any number of steps to the second one, which has no
redex. -/
structure RunsTo (term normal : Term) : Prop where
  run : Relation.ReflTransGen Reduces term normal
  isNormal : normal.IsNormal

/-- A run that ends takes a certain number of steps.  Bounded reduction finds its end if it allows so
many steps, and reports its limit otherwise. -/
theorem RunsTo.exists_reduceCounting {term normal : Term} (runs : RunsTo term normal) :
    ∃ count, ∀ limit steps,
      (count ≤ steps → reduceCounting limit steps term = .ok normal) ∧
        (steps < count → reduceCounting limit steps term = .error (.stepLimitExceeded limit)) := by
  obtain ⟨run, isNormal⟩ := runs
  induction run using Relation.ReflTransGen.head_induction_on with
  | refl =>
      have found := reduceOnce_eq_none_iff.mpr isNormal
      exact ⟨0, fun limit steps =>
        ⟨fun _ => reduceCounting_of_none limit steps found, fun less => absurd less (Nat.not_lt_zero _)⟩⟩
  | @head start _ first _ runIH =>
      obtain ⟨step, run, rfl⟩ := first
      obtain ⟨count, counted⟩ := runIH
      refine ⟨count + 1, fun limit steps => ?_⟩
      cases steps with
      | zero =>
          exact ⟨fun enough => absurd enough (Nat.not_succ_le_zero _),
            fun _ => reduceCounting_zero_of_some limit run⟩
      | succ remaining =>
          rw [reduceCounting_succ_of_some limit remaining run]
          obtain ⟨ends, exceeds⟩ := counted limit remaining
          exact ⟨fun enough => ends (Nat.le_of_succ_le_succ enough),
            fun less => exceeds (Nat.lt_of_succ_lt_succ less)⟩

end Denotation.Term
