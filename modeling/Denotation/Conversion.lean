import Denotation.Term.Reduction

/-!
# Lambda conversion

A conversion takes a term some steps towards its normal form and reports every step.  The mode says
how far it goes: stepwise conversion makes one step at a time, automatic conversion goes on until no
redex is left.  Both make the same steps, so repeated stepwise conversion passes through the terms
that automatic conversion reports.

A term without redexes cannot be converted at all, in either mode.  The first step is made before
the limit is looked at, so a conversion that is allowed no steps still makes one.
-/

namespace Denotation

inductive ConversionMode where
  | stepwise
  | automatic
deriving DecidableEq, Inhabited

structure ConversionConfig where
  mode : ConversionMode := .automatic
  stepLimit : Nat := Term.defaultStepLimit
deriving DecidableEq, Inhabited

structure Conversion where
  steps : List Step
  result : Term
deriving DecidableEq

namespace Conversion

def isNormalForm (conversion : Conversion) : Bool :=
  match conversion.result.reduceOnce with
  | .ok none => true
  | _ => false

def after (step : Step) (conversion : Conversion) : Conversion :=
  { conversion with steps := step :: conversion.steps }

end Conversion

namespace Term

/-- Convert until no redex is left, in at most `steps` steps, which may be none.  The error names
`limit`. -/
def convertCounting (limit : Nat) (steps : Nat) (term : Term) :
    Except ConversionError Conversion := do
  match ← term.reduceOnce with
  | none => return ⟨[], term⟩
  | some step =>
      match steps with
      | 0 => throw (.stepLimitExceeded limit)
      | remaining + 1 => return (← convertCounting limit remaining step.result).after step

def convert (config : ConversionConfig) (term : Term) : Except ConversionError Conversion := do
  match ← term.reduceOnce with
  | none => throw (.notReducible term)
  | some step =>
      match config.mode with
      | .stepwise => return ⟨[step], step.result⟩
      | .automatic =>
          let rest ← convertCounting config.stepLimit (config.stepLimit - 1) step.result
          return rest.after step

/-- Convert stepwise again and again, at most `count` times.  The history holds the conversions in
their order, and the error that ended it before, if any. -/
def history (term : Term) : Nat → List Conversion × Option ConversionError
  | 0 => ([], none)
  | count + 1 =>
      match term.convert { mode := .stepwise } with
      | .error error => ([], some error)
      | .ok conversion =>
          let later := conversion.result.history count
          (conversion :: later.1, later.2)

end Term

end Denotation
