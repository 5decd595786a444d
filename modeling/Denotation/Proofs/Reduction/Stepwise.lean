import Mathlib.Data.List.Basic
import Denotation.Proofs.Reduction.Step

/-!
# Stepwise and automatic conversion

Stepwise conversion called again and again, automatic conversion and bounded reduction make the same
steps.  They count them in three ways: from outside, after a first step that is always made, and
before each step.  That they agree is shown for what is left of a run after any number of stepwise
conversions, and from this for whole runs.
-/

namespace Denotation

/-- The same error, but for the number of steps that it says were allowed. -/
def ConversionError.withLimit (limit : Nat) : ConversionError → ConversionError
  | .stepLimitExceeded _ => .stepLimitExceeded limit
  | error => error

/-- A conversion whose result has a redex is not at a normal form, also where that redex cannot be
contracted. -/
theorem Conversion.isNormalForm_iff (conversion : Conversion) :
    conversion.isNormalForm = true ↔ conversion.result.IsNormal := by
  rw [isNormalForm, ← Term.reduceOnce_eq_none_iff]
  split
  · case _ normal => exact iff_of_true rfl normal
  · case _ other => exact iff_of_false Bool.false_ne_true other

namespace Term

theorem convert_stepwise_eq_ok_iff {term : Term} {conversion : Conversion} :
    term.convert { mode := .stepwise } = .ok conversion ↔
      ∃ step, term.reduceOnce = .ok (some step) ∧ ⟨[step], step.result⟩ = conversion := by
  rw [convert]
  rcases term.reduceOnce with error | _ | step <;>
    simp [bind, Except.bind, pure, Except.pure, throw, throwThe, MonadExceptOf.throw]

theorem convert_stepwise_eq_error_iff {term : Term} {error : ConversionError} :
    term.convert { mode := .stepwise } = .error error ↔
      term.reduceOnce = .error error ∨
        term.reduceOnce = .ok none ∧ error = .notReducible term := by
  rw [convert]
  rcases term.reduceOnce with failure | _ | step <;>
    simp [bind, Except.bind, pure, Except.pure, throw, throwThe, MonadExceptOf.throw, eq_comm]

theorem searchParts_eq_error_iff {first second : Except ConversionError (Option Step)}
    {encloseFirst encloseSecond : Term → Term} {error : ConversionError} :
    searchParts first second encloseFirst encloseSecond = .error error ↔
      first = .error error ∨ first = .ok none ∧ second = .error error := by
  rcases first with failure | _ | step
  · simp [searchParts, bind, Except.bind]
  · cases second <;> simp [searchParts, bind, Except.bind, pure, Except.pure]
  · simp [searchParts, bind, Except.bind, pure, Except.pure]

theorem exists_typing_of_betaReduce {redex : Term} {error : ConversionError}
    (isRedex : redex.isRedex = true) (failed : redex.betaReduce = .error error) :
    ∃ cause, error = .typing cause := by
  obtain ⟨bound, body, argument, rfl⟩ := isRedex_eq_true_iff.mp isRedex
  cases contracted : contract bound body argument with
  | error cause =>
      simp only [betaReduce, contracted, Except.mapError, Except.error.injEq] at failed
      exact ⟨cause, failed.symm⟩
  | ok result => simp [betaReduce, contracted, Except.mapError] at failed

/-- A search for a redex only fails where a redex is found that cannot be contracted. -/
theorem exists_typing_of_reduceOnce {term : Term} {error : ConversionError}
    (failed : term.reduceOnce = .error error) : ∃ cause, error = .typing cause := by
  induction term with
  | ident id => simp [reduceOnce, pure, Except.pure] at failed
  | binder kind bound body bodyIH =>
      rw [reduceOnce_binder] at failed
      exact bodyIH (map_eq_error_iff.mp failed)
  | not operand operandIH =>
      rw [reduceOnce_not] at failed
      exact operandIH (map_eq_error_iff.mp failed)
  | binary connective left right leftIH rightIH =>
      rw [reduceOnce_binary] at failed
      rcases searchParts_eq_error_iff.mp failed with inLeft | ⟨-, inRight⟩
      · exact leftIH inLeft
      · exact rightIH inRight
  | equal left right leftIH rightIH =>
      rw [reduceOnce_equal] at failed
      rcases searchParts_eq_error_iff.mp failed with inLeft | ⟨-, inRight⟩
      · exact leftIH inLeft
      · exact rightIH inRight
  | app function argument functionIH argumentIH =>
      rw [reduceOnce_app] at failed
      rcases searched : searchParts function.reduceOnce argument.reduceOnce (.app · argument)
        (.app function ·) with failure | _ | step
      · rw [searched] at failed
        cases failed
        rcases searchParts_eq_error_iff.mp searched with inFunction | ⟨-, inArgument⟩
        · exact functionIH inFunction
        · exact argumentIH inArgument
      · rw [searched] at failed
        cases isRedex : (Term.app function argument).isRedex with
        | false => simp [isRedex, bind, Except.bind, pure, Except.pure] at failed
        | true =>
            simp only [isRedex, bind, Except.bind, if_true] at failed
            exact exists_typing_of_betaReduce isRedex (map_eq_error_iff.mp failed)
      · rw [searched] at failed
        cases failed

section Counting

variable {term : Term} (limit : Nat)

theorem convertCounting_of_none (steps : Nat) (normal : term.reduceOnce = .ok none) :
    convertCounting limit steps term = .ok ⟨[], term⟩ := by
  rw [convertCounting, normal]
  rfl

theorem convertCounting_of_error (steps : Nat) {error : ConversionError}
    (failed : term.reduceOnce = .error error) :
    convertCounting limit steps term = .error error := by
  rw [convertCounting, failed]
  rfl

theorem convertCounting_zero_of_some {step : Step} (reduced : term.reduceOnce = .ok (some step)) :
    convertCounting limit 0 term = .error (.stepLimitExceeded limit) := by
  rw [convertCounting, reduced]
  rfl

theorem convertCounting_succ_of_some (remaining : Nat) {step : Step}
    (reduced : term.reduceOnce = .ok (some step)) :
    convertCounting limit (remaining + 1) term =
      (convertCounting limit remaining step.result).map (Conversion.after step) := by
  rw [convertCounting, reduced]
  simp only [bind, Except.bind, pure, Except.pure]
  cases convertCounting limit remaining step.result <;> rfl

end Counting

/-- Counting conversion and counting reduction only differ in that the one reports its steps. -/
theorem convertCounting_map_result (limit steps : Nat) (term : Term) :
    (convertCounting limit steps term).map Conversion.result = reduceCounting limit steps term := by
  induction steps generalizing term with
  | zero =>
      rcases run : term.reduceOnce with error | _ | step
      · rw [convertCounting_of_error limit 0 run, reduceCounting_of_error limit 0 run]
        rfl
      · rw [convertCounting_of_none limit 0 run, reduceCounting_of_none limit 0 run]
        rfl
      · rw [convertCounting_zero_of_some limit run, reduceCounting_zero_of_some limit run]
        rfl
  | succ remaining induction =>
      rcases run : term.reduceOnce with error | _ | step
      · rw [convertCounting_of_error limit _ run, reduceCounting_of_error limit _ run]
        rfl
      · rw [convertCounting_of_none limit _ run, reduceCounting_of_none limit _ run]
        rfl
      · rw [convertCounting_succ_of_some limit remaining run,
          reduceCounting_succ_of_some limit remaining run, ← induction step.result]
        cases convertCounting limit remaining step.result <;> rfl

/-- Automatic conversion counts its steps like a run that is allowed at least one. -/
theorem convert_automatic_eq_max {term : Term} (limit : Nat) (reducible : term.reduceOnce ≠ .ok none) :
    term.convert { mode := .automatic, stepLimit := limit } =
      convertCounting limit (max limit 1) term := by
  have allowed : max limit 1 = limit - 1 + 1 := by omega
  rcases run : term.reduceOnce with error | _ | step
  · rw [convertCounting_of_error _ _ run, convert, run]
    rfl
  · exact absurd run reducible
  · rw [allowed, convertCounting_succ_of_some _ _ run, convert, run]
    simp only [bind, Except.bind, pure, Except.pure]
    cases convertCounting limit (limit - 1) step.result <;> rfl

/-- The step that automatic conversion always makes is the first of those that it counts, as long as
at least one is allowed. -/
theorem convert_automatic_eq {term : Term} {limit : Nat} (positive : 1 ≤ limit)
    (reducible : term.reduceOnce ≠ .ok none) :
    term.convert { mode := .automatic, stepLimit := limit } = convertCounting limit limit term := by
  rw [convert_automatic_eq_max limit reducible, Nat.max_eq_left positive]

/-- Stepwise conversion, called again and again, reports the steps one by one and gets from the first
term to the second one. -/
inductive StepwiseRun : Term → List Step → Term → Prop where
  | refl (term : Term) : StepwiseRun term [] term
  | head {term reached : Term} {step : Step} {steps : List Step} :
      term.convert { mode := .stepwise } = .ok ⟨[step], step.result⟩ →
        StepwiseRun step.result steps reached → StepwiseRun term (step :: steps) reached

/-- Stepwise conversion reports the steps, gets to the term `reached` and fails there. -/
structure StepwiseEnds (term : Term) (steps : List Step) (reached : Term)
    (error : ConversionError) : Prop where
  run : StepwiseRun term steps reached
  fails : reached.convert { mode := .stepwise } = .error error

theorem reduceOnce_of_convert_stepwise {term : Term} {step : Step}
    (converted : term.convert { mode := .stepwise } = .ok ⟨[step], step.result⟩) :
    term.reduceOnce = .ok (some step) := by
  obtain ⟨same, reduced, reported⟩ := convert_stepwise_eq_ok_iff.mp converted
  simp only [Conversion.mk.injEq, List.cons.injEq, and_true] at reported
  rw [← reported.1]
  exact reduced

/-- What automatic conversion has left to do after a stepwise run, it does as if it began there. -/
theorem convertCounting_of_run {term reached : Term} {steps : List Step}
    (run : StepwiseRun term steps reached) (limit remaining : Nat) :
    convertCounting limit (steps.length + remaining) term =
      (convertCounting limit remaining reached).map fun rest =>
        ⟨steps ++ rest.steps, rest.result⟩ := by
  induction run with
  | refl term =>
      rw [List.length_nil, Nat.zero_add]
      cases convertCounting limit remaining term <;> rfl
  | @head term reached step steps converted _ runIH =>
      have reduced := reduceOnce_of_convert_stepwise converted
      rw [List.length_cons, Nat.add_right_comm, convertCounting_succ_of_some limit _ reduced, runIH]
      cases convertCounting limit remaining reached <;> rfl

theorem reduceCounting_of_run {term reached : Term} {steps : List Step}
    (run : StepwiseRun term steps reached) (limit remaining : Nat) :
    reduceCounting limit (steps.length + remaining) term = reduceCounting limit remaining reached := by
  rw [← convertCounting_map_result, ← convertCounting_map_result, convertCounting_of_run run]
  cases convertCounting limit remaining reached <;> rfl

theorem StepwiseRun.reducible {term reached : Term} {steps : List Step}
    (run : StepwiseRun term steps reached) (nonempty : 1 ≤ steps.length) :
    term.reduceOnce ≠ .ok none := by
  cases run with
  | refl => contradiction
  | head converted _ =>
      rw [reduceOnce_of_convert_stepwise converted]
      intro none
      cases none

theorem StepwiseEnds.of_notReducible {term reached other : Term} {steps : List Step}
    (ends : StepwiseEnds term steps reached (.notReducible other)) :
    other = reached ∧ reached.reduceOnce = .ok none := by
  rcases convert_stepwise_eq_error_iff.mp ends.fails with failed | ⟨normal, same⟩
  · obtain ⟨cause, impossible⟩ := exists_typing_of_reduceOnce failed
    cases impossible
  · cases same
    exact ⟨rfl, normal⟩

theorem StepwiseEnds.of_failure {term reached : Term} {steps : List Step} {error : ConversionError}
    (ends : StepwiseEnds term steps reached error)
    (different : ∀ other, error ≠ .notReducible other) : reached.reduceOnce = .error error := by
  rcases convert_stepwise_eq_error_iff.mp ends.fails with failed | ⟨-, same⟩
  · exact failed
  · exact absurd same (different reached)

theorem StepwiseEnds.reducible {term reached : Term} {steps : List Step} {error : ConversionError}
    (ends : StepwiseEnds term steps reached error)
    (different : ∀ other, error ≠ .notReducible other) : term.reduceOnce ≠ .ok none := by
  cases steps with
  | nil =>
      have failed := ends.of_failure different
      cases ends.run
      rw [failed]
      intro normal
      cases normal
  | cons step rest => exact ends.run.reducible (Nat.le_add_left 1 rest.length)

/-- Stepwise conversion succeeds a given number of times, or ends before. -/
theorem exists_stepwiseRun_or_ends (term : Term) (count : Nat) :
    (∃ steps reached, StepwiseRun term steps reached ∧ steps.length = count) ∨
      ∃ steps reached error, StepwiseEnds term steps reached error ∧ steps.length < count := by
  induction count generalizing term with
  | zero => exact Or.inl ⟨[], term, .refl term, rfl⟩
  | succ count induction =>
      cases converted : term.convert { mode := .stepwise } with
      | error error => exact Or.inr ⟨[], term, error, ⟨.refl term, converted⟩, Nat.succ_pos count⟩
      | ok conversion =>
          obtain ⟨step, -, rfl⟩ := convert_stepwise_eq_ok_iff.mp converted
          rcases induction step.result with
            ⟨steps, reached, run, length⟩ | ⟨steps, reached, error, ends, fewer⟩
          · exact Or.inl ⟨step :: steps, reached, .head converted run, congrArg (· + 1) length⟩
          · exact Or.inr ⟨step :: steps, reached, error, ⟨.head converted ends.run, ends.fails⟩,
              Nat.succ_lt_succ fewer⟩

section Limit

variable {term reached : Term} {steps : List Step} {limit : Nat}

theorem StepwiseEnds.convertCounting_eq_ok {other : Term}
    (ends : StepwiseEnds term steps reached (.notReducible other)) (enough : steps.length ≤ limit) :
    convertCounting limit limit term = .ok ⟨steps, reached⟩ := by
  obtain ⟨remaining, same⟩ := Nat.exists_eq_add_of_le enough
  have counted := convertCounting_of_run ends.run limit remaining
  rw [convertCounting_of_none limit remaining ends.of_notReducible.2, ← same] at counted
  rw [counted, Except.map, List.append_nil]

theorem StepwiseEnds.convertCounting_eq_error {error : ConversionError}
    (ends : StepwiseEnds term steps reached error)
    (different : ∀ other, error ≠ .notReducible other) (enough : steps.length ≤ limit) :
    convertCounting limit limit term = .error error := by
  obtain ⟨remaining, same⟩ := Nat.exists_eq_add_of_le enough
  have counted := convertCounting_of_run ends.run limit remaining
  rw [convertCounting_of_error limit remaining (ends.of_failure different), ← same] at counted
  exact counted

theorem reducible_of_endless
    (endless : ∀ steps reached error, StepwiseEnds term steps reached error → limit < steps.length) :
    term.reduceOnce ≠ .ok none := by
  intro normal
  have fails := convert_stepwise_eq_error_iff.mpr (Or.inr ⟨normal, rfl⟩)
  exact Nat.not_lt_zero limit (endless [] term _ ⟨.refl term, fails⟩)

/-- Where stepwise conversion does not end within the limit, the limit is what ends the count. -/
theorem convertCounting_eq_stepLimitExceeded
    (endless : ∀ steps reached error, StepwiseEnds term steps reached error → limit < steps.length) :
    convertCounting limit limit term = .error (.stepLimitExceeded limit) := by
  rcases exists_stepwiseRun_or_ends term limit with
    ⟨steps, reached, run, length⟩ | ⟨steps, reached, error, ends, fewer⟩
  · have counted := convertCounting_of_run run limit 0
    cases converted : reached.convert { mode := .stepwise } with
    | error error => exact absurd (endless _ _ _ ⟨run, converted⟩) (by omega)
    | ok conversion =>
        obtain ⟨step, reduced, -⟩ := convert_stepwise_eq_ok_iff.mp converted
        rw [length, convertCounting_zero_of_some limit reduced] at counted
        exact counted
  · exact absurd (endless _ _ _ ends) (by omega)

end Limit

theorem reduceWithin_eq_map (limit : Nat) (term : Term) :
    term.reduceWithin limit = (convertCounting limit limit term).map Conversion.result :=
  (convertCounting_map_result limit limit term).symm

/-- The limit is of no consequence but for its number in the error. -/
theorem reduceCounting_withLimit (limit other steps : Nat) (term : Term) :
    reduceCounting limit steps term =
      (reduceCounting other steps term).mapError (ConversionError.withLimit limit) := by
  induction steps generalizing term with
  | zero =>
      rcases run : term.reduceOnce with error | _ | step
      · obtain ⟨cause, rfl⟩ := exists_typing_of_reduceOnce run
        rw [reduceCounting_of_error _ _ run, reduceCounting_of_error _ _ run]
        rfl
      · rw [reduceCounting_of_none _ _ run, reduceCounting_of_none _ _ run]
        rfl
      · rw [reduceCounting_zero_of_some _ run, reduceCounting_zero_of_some _ run]
        rfl
  | succ remaining induction =>
      rcases run : term.reduceOnce with error | _ | step
      · obtain ⟨cause, rfl⟩ := exists_typing_of_reduceOnce run
        rw [reduceCounting_of_error _ _ run, reduceCounting_of_error _ _ run]
        rfl
      · rw [reduceCounting_of_none _ _ run, reduceCounting_of_none _ _ run]
        rfl
      · rw [reduceCounting_succ_of_some _ _ run, reduceCounting_succ_of_some _ _ run]
        exact induction step.result

/-- Stepwise conversion makes one step at a time.  Where it comes to a normal form within the limit,
automatic conversion reports the same steps and ends in the same term as bounded reduction; where it
fails otherwise within the limit, they fail with its error; and where it does neither, they run into
the limit.  So a run can be taken up again at any of its terms.  A conversion is at a normal form
exactly if its result has no redex. -/
theorem convert_agrees_with_stepwise (term : Term) {limit : Nat} (positive : 1 ≤ limit) :
    (∀ (reached : Term) (conversion : Conversion),
      reached.convert { mode := .stepwise } = .ok conversion →
        ∃ step : Step, conversion = ⟨[step], step.result⟩) ∧
    (∀ steps reached other, StepwiseEnds term steps reached (.notReducible other) →
      1 ≤ steps.length → steps.length ≤ limit →
        term.convert { mode := .automatic, stepLimit := limit } = .ok ⟨steps, reached⟩ ∧
          (Conversion.mk steps reached).isNormalForm = true ∧
          term.reduceWithin limit = .ok reached) ∧
    (∀ reached other, StepwiseEnds term [] reached (.notReducible other) →
      term.convert { mode := .stepwise } = .error (.notReducible term) ∧
        term.convert { mode := .automatic, stepLimit := limit } = .error (.notReducible term) ∧
        term.reduceWithin limit = .ok term) ∧
    (∀ steps reached error, StepwiseEnds term steps reached error →
      (∀ other, error ≠ .notReducible other) → steps.length ≤ limit →
        term.convert { mode := .automatic, stepLimit := limit } = .error error ∧
          term.reduceWithin limit = .error error) ∧
    ((∀ steps reached error, StepwiseEnds term steps reached error → limit < steps.length) →
      term.convert { mode := .automatic, stepLimit := limit } = .error (.stepLimitExceeded limit) ∧
        term.reduceWithin limit = .error (.stepLimitExceeded limit)) ∧
    (∀ steps reached, StepwiseRun term steps reached → ∀ further,
      term.reduceWithin (steps.length + further) =
        (reached.reduceWithin further).mapError (ConversionError.withLimit (steps.length + further))) ∧
    ∀ conversion : Conversion, conversion.isNormalForm = true ↔ conversion.result.IsNormal := by
  refine ⟨?_, ?_, ?_, ?_, ?_, ?_, Conversion.isNormalForm_iff⟩
  · intro reached conversion converted
    obtain ⟨step, -, rfl⟩ := convert_stepwise_eq_ok_iff.mp converted
    exact ⟨step, rfl⟩
  · intro steps reached other ends nonempty enough
    have counted := ends.convertCounting_eq_ok enough
    refine ⟨?_, ?_, ?_⟩
    · rw [convert_automatic_eq positive (ends.run.reducible nonempty), counted]
    · exact (Conversion.isNormalForm_iff _).mpr (reduceOnce_eq_none_iff.mp ends.of_notReducible.2)
    · rw [reduceWithin_eq_map, counted]
      rfl
  · intro reached other ends
    cases ends.run
    obtain ⟨rfl, normal⟩ := ends.of_notReducible
    refine ⟨ends.fails, ?_, reduceCounting_of_none limit limit normal⟩
    rw [convert, normal]
    rfl
  · intro steps reached error ends different enough
    have counted := ends.convertCounting_eq_error different enough
    refine ⟨?_, ?_⟩
    · rw [convert_automatic_eq positive (ends.reducible different), counted]
    · rw [reduceWithin_eq_map, counted]
      rfl
  · intro endless
    have counted := convertCounting_eq_stepLimitExceeded endless
    refine ⟨?_, ?_⟩
    · rw [convert_automatic_eq positive (reducible_of_endless endless), counted]
    · rw [reduceWithin_eq_map, counted]
      rfl
  · intro steps reached run further
    rw [reduceWithin, reduceCounting_of_run run, reduceWithin]
    exact reduceCounting_withLimit _ _ _ reached

/-- Both redexes of a conjunction are contracted in exactly as many steps as are allowed. -/
theorem convert_agrees_with_stepwise_at_limit :
    let x : Ident := ⟨.var, "x", .entity⟩
    let john := Term.ident ⟨.const, "John", .entity⟩
    let happy := Term.ident ⟨.const, "Happy", .predicate⟩
    let redex := Term.app (lambda x (.app happy (.ident x))) john
    let contractum := Term.app happy john
    let first : Step := ⟨redex, contractum, [], .binary .and contractum redex⟩
    let second : Step := ⟨redex, contractum, [], .binary .and contractum contractum⟩
    let term := Term.binary .and redex redex
    StepwiseEnds term [first, second] second.result (.notReducible second.result) ∧
      term.convert { mode := .automatic, stepLimit := 2 } = .ok ⟨[first, second], second.result⟩ ∧
      (Conversion.mk [first, second] second.result).isNormalForm = true ∧
      term.reduceWithin 2 = .ok second.result := by
  intro x john happy redex contractum first second term
  have firstConverted : term.convert { mode := .stepwise } = .ok ⟨[first], first.result⟩ := by cbv
  have secondConverted :
      first.result.convert { mode := .stepwise } = .ok ⟨[second], second.result⟩ := by cbv
  have fails :
      second.result.convert { mode := .stepwise } = .error (.notReducible second.result) := by cbv
  have ends : StepwiseEnds term [first, second] second.result (.notReducible second.result) :=
    ⟨.head firstConverted (.head secondConverted (.refl _)), fails⟩
  have positive : 1 ≤ 2 := by decide
  exact ⟨ends, (convert_agrees_with_stepwise term positive).2.1 _ _ _ ends (by decide) (by decide)⟩

end Term

end Denotation
