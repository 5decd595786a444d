import Mathlib.Data.List.Find
import Denotation.Proofs.FreshName
import Denotation.Proofs.Pattern.Usual

/-!
# Fresh names keep the usual conventions

A prime is a mark and begins no name, so a name has the same of the usual patterns with a prime at its
end as without.  Then the first pattern of the table that it has is the same one, whichever others it has,
and a fresh name is read like the name that it was made of.

All that is used of the engine is where it finds the patterns that it takes.  If it refuses one of them,
there are no conventions and nothing is read at all.
-/

namespace Denotation.Conventions

section Primes

variable [engine : PatternEngine]

/-- No pattern of the conventions takes notice of a prime at the end of a name. -/
def IgnorePrimes (conventions : Conventions) : Prop :=
  ∀ convention ∈ conventions.entries, ∀ name : String,
    engine.occursIn convention.pattern (name.push '\'') = engine.occursIn convention.pattern name

variable {conventions extended : Conventions} {written : String} {kind : IdentKind} {ty : Ty}

theorem IgnorePrimes.addWritten {describes : List Char → List Char → List Char → Prop}
    (ignore : conventions.IgnorePrimes) (finds : PatternEngine.Finds written describes)
    (samePrimed : ∀ chars : List Char,
      (∃ before matched after, chars ++ ['\''] = before ++ matched ++ after ∧
        describes before matched after) ↔
      ∃ before matched after, chars = before ++ matched ++ after ∧ describes before matched after)
    (added : conventions.addWritten? written kind ty = some extended) : extended.IgnorePrimes := by
  obtain ⟨pattern, taken, rfl⟩ := Option.map_eq_some_iff.mp added
  intro convention member name
  rcases List.mem_append.mp member with earlier | last
  · exact ignore convention earlier name
  · cases List.mem_singleton.mp last
    rw [Bool.eq_iff_iff, finds pattern taken, finds pattern taken, String.toList_push]
    exact samePrimed name.toList

theorem IgnorePrimes.addMarkedLetter {isLetter : Char → Prop} (ignore : conventions.IgnorePrimes)
    (finds : PatternEngine.Finds written (MarkedLetter isLetter)) (noPrime : ¬ isLetter '\'')
    (added : conventions.addWritten? written kind ty = some extended) : extended.IgnorePrimes := by
  refine ignore.addWritten finds (fun chars => ?_) added
  rw [exists_markedLetter_iff, exists_markedLetter_iff]
  exact beginsWith_append_prime noPrime (Or.inr (Or.inr rfl))

theorem IgnorePrimes.addInitialLetter {isLetter : Char → Prop} (ignore : conventions.IgnorePrimes)
    (finds : PatternEngine.Finds written (InitialLetter isLetter)) (noPrime : ¬ isLetter '\'')
    (added : conventions.addWritten? written kind ty = some extended) : extended.IgnorePrimes := by
  refine ignore.addWritten finds (fun chars => ?_) added
  rw [exists_initialLetter_iff, exists_initialLetter_iff]
  exact beginsWith_append_prime noPrime trivial

theorem ignorePrimes_empty : empty.IgnorePrimes := List.forall_mem_nil _

theorem ignorePrimes_standard (documented : PatternEngine.FindsUsualPatterns) :
    standard.IgnorePrimes := by
  rw [standard]
  cases built : standard? with
  | none => exact ignorePrimes_empty
  | some conventions =>
      simp only [standard?, bind, Option.bind_eq_some_iff] at built
      obtain ⟨first, addedFirst, second, addedSecond, third, addedThird, fourth, addedFourth,
        addedLast⟩ := built
      have ignoreFirst :=
        ignorePrimes_empty.addMarkedLetter documented.entityVariables (by decide) addedFirst
      have ignoreSecond :=
        ignoreFirst.addMarkedLetter documented.predicateVariables (by decide) addedSecond
      have ignoreThird := ignoreSecond.addInitialLetter documented.entities (by decide) addedThird
      have ignoreFourth := ignoreThird.addMarkedLetter documented.relations (by decide) addedFourth
      exact ignoreFourth.addInitialLetter documented.predicates (by decide) addedLast

theorem IgnorePrimes.lookup?_push (ignore : conventions.IgnorePrimes) (name : String) :
    conventions.lookup? (name.push '\'') = conventions.lookup? name :=
  List.find?_congr fun convention member => ignore convention member name

theorem IgnorePrimes.lookup?_pushn (ignore : conventions.IgnorePrimes) (name : String) (primes : Nat) :
    conventions.lookup? (name.pushn '\'' primes) = conventions.lookup? name := by
  induction primes with
  | zero => rfl
  | succ primes induction => exact (ignore.lookup?_push _).trans induction

theorem identifier_eq_ok_iff {name : String} {id : Ident} :
    conventions.identifier name = .ok id ↔
      ∃ convention, conventions.lookup? name = some convention ∧
        id = ⟨convention.kind, name, convention.ty⟩ := by
  rw [identifier]
  cases found : conventions.lookup? name with
  | none => simp
  | some convention => simp [eq_comm]

/-- With any engine that finds the usual patterns as it should, a variable that was read by the usual
conventions and renamed to a fresh name is what they read from its new name. -/
theorem identifier_freshVariable (documented : PatternEngine.FindsUsualPatterns) {name : String}
    {id : Ident} (read : standard.identifier name = .ok id) (isVar : id.isVar = true) (avoid : List String) :
    standard.identifier (freshVariable id avoid).name = .ok (freshVariable id avoid) := by
  obtain ⟨convention, found, rfl⟩ := identifier_eq_ok_iff.mp read
  obtain ⟨primes, fresh, -⟩ := freshName_eq_pushn name avoid
  have sameConvention : standard.lookup? (freshName name avoid) = some convention := by
    rw [fresh, (ignorePrimes_standard documented).lookup?_pushn, found]
  have varKind : convention.kind = .var := eq_of_beq isVar
  refine identifier_eq_ok_iff.mpr ⟨convention, sameConvention, ?_⟩
  rw [freshVariable, varKind]

end Primes

/-- `Z_9'` has the pattern of variables over predicates and that of predicates, of which the first
decides. -/
theorem identifier_freshVariable_two_patterns :
    let id : Ident := ⟨.var, "Z_9'", .predicate⟩
    let avoid := ["Z_9'", "Z_9''", "Z"]
    PatternEngine.FindsUsualPatterns ∧ standard.identifier "Z_9'" = .ok id ∧ id.isVar = true ∧
      freshVariable id avoid = ⟨.var, "Z_9'''", .predicate⟩ ∧
      standard.identifier "Z_9'''" = .ok ⟨.var, "Z_9'''", .predicate⟩ := by
  intro id avoid
  have documented : PatternEngine.FindsUsualPatterns := Pattern.findsUsualPatterns
  have read : standard.identifier "Z_9'" = .ok id := by decide +kernel
  have fresh : freshVariable id avoid = ⟨.var, "Z_9'''", .predicate⟩ := by decide +kernel
  have readAgain := identifier_freshVariable documented read rfl avoid
  rw [fresh] at readAgain
  exact ⟨documented, read, rfl, fresh, readAgain⟩

end Denotation.Conventions
