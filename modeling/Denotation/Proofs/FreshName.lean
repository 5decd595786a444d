import Mathlib.Data.Finset.Card
import Denotation.Term.Variables

/-!
# Names with the fewest primes

The search for a fresh name appends a prime as long as the name is one to be avoided.  It keeps no count, and
it ends because no candidate comes twice: each one is longer than those before it, so no more candidates can
be refused than there are names to be avoided.  `freshName` makes this a matter of its recursion by striking
off the list what was refused.  As a loop that leaves the list as it is, the search gives the same name.
-/

namespace Denotation

/-- A run of the search, as a loop that keeps the names to be avoided: from one name to the result, in so
many rounds. -/
inductive PrimingLoop (avoid : List String) : String → Nat → String → Prop where
  | leave {name : String} (unused : name ∉ avoid) : PrimingLoop avoid name 0 name
  | round {name result : String} {rounds : Nat} (used : name ∈ avoid)
      (later : PrimingLoop avoid (name.push '\'') rounds result) :
      PrimingLoop avoid name (rounds + 1) result

variable {avoid : List String} {name result : String} {rounds primes : Nat}

theorem pushn_push (name : String) (char : Char) (count : Nat) :
    (name.push char).pushn char count = name.pushn char (count + 1) := by
  induction count with
  | zero => rfl
  | succ count induction => exact congrArg (String.push · char) induction

theorem freshName_eq_pushn (name : String) (avoid : List String) :
    ∃ primes, freshName name avoid = name.pushn '\'' primes ∧
      ∀ fewer < primes, name.pushn '\'' fewer ∈ avoid := by
  fun_induction freshName name avoid with
  | case1 name avoid used induction =>
      obtain ⟨primes, found, refused⟩ := induction
      refine ⟨primes + 1, found.trans (pushn_push name '\'' primes), fun fewer less => ?_⟩
      cases fewer with
      | zero => exact used
      | succ fewer =>
          rw [← pushn_push]
          exact List.mem_of_mem_erase (refused fewer (by omega))
  | case2 name avoid unused => exact ⟨0, rfl, fun _ less => absurd less (Nat.not_lt_zero _)⟩

theorem pushn_injective (name : String) (char : Char) : Function.Injective (name.pushn char) := by
  intro first second same
  have lengths := congrArg String.length same
  rw [String.length_pushn, String.length_pushn] at lengths
  omega

/-- The refused candidates are different names to be avoided. -/
theorem le_card_of_refused (refused : ∀ fewer < primes, name.pushn '\'' fewer ∈ avoid) :
    primes ≤ avoid.toFinset.card := by
  have within : Set.MapsTo (name.pushn '\'') (Finset.range primes) avoid.toFinset := by
    intro fewer less
    have less := Finset.mem_range.mp less
    exact List.mem_toFinset.mpr (refused fewer less)
  calc primes
    _ = (Finset.range primes).card := (Finset.card_range primes).symm
    _ ≤ avoid.toFinset.card :=
        Finset.card_le_card_of_injOn _ within (pushn_injective name '\'').injOn

theorem primingLoop_iff :
    PrimingLoop avoid name rounds result ↔
      result = name.pushn '\'' rounds ∧ result ∉ avoid ∧
        ∀ fewer < rounds, name.pushn '\'' fewer ∈ avoid := by
  constructor
  · intro loop
    induction loop with
    | leave unused => exact ⟨rfl, unused, fun _ less => absurd less (Nat.not_lt_zero _)⟩
    | round used _ laterIH =>
        obtain ⟨found, unused, refused⟩ := laterIH
        refine ⟨found.trans (pushn_push _ _ _), unused, fun fewer less => ?_⟩
        cases fewer with
        | zero => exact used
        | succ fewer =>
            rw [← pushn_push]
            exact refused fewer (by omega)
  · intro ends
    obtain ⟨rfl, unused, refused⟩ := ends
    induction rounds generalizing name with
    | zero => exact .leave unused
    | succ rounds induction =>
        have used : name ∈ avoid := refused 0 (by omega)
        rw [← pushn_push] at unused ⊢
        refine .round used (induction unused fun fewer less => ?_)
        rw [pushn_push]
        exact refused (fewer + 1) (by omega)

/-- The search ends, after at most as many rounds as there are names to be avoided, and in no other way.  It
gives a variable of the same type with the fewest primes for which its name is not to be avoided. -/
theorem freshVariable_has_fewest_primes (base : Ident) (avoid : List String) :
    ∃ primes, primes ≤ avoid.toFinset.card ∧
      (∀ rounds result, PrimingLoop avoid base.name rounds result ↔
        rounds = primes ∧ result = (freshVariable base avoid).name) ∧
      freshVariable base avoid = ⟨.var, base.name.pushn '\'' primes, base.ty⟩ ∧
      base.name.pushn '\'' primes ∉ avoid ∧
      ∀ fewer < primes, base.name.pushn '\'' fewer ∈ avoid := by
  obtain ⟨primes, found, refused⟩ := freshName_eq_pushn base.name avoid
  have unused : base.name.pushn '\'' primes ∉ avoid := found ▸ freshName_not_mem base.name avoid
  refine ⟨primes, le_card_of_refused refused, fun rounds result => ?_, ?_, unused, refused⟩
  · rw [primingLoop_iff, freshVariable, found]
    constructor
    · intro ends
      obtain ⟨rfl, unusedHere, refusedHere⟩ := ends
      have notMore : ¬ primes < rounds := fun more => unused (refusedHere primes more)
      have notFewer : ¬ rounds < primes := fun fewer => unusedHere (refused rounds fewer)
      have same : rounds = primes := by omega
      exact ⟨same, by rw [same]⟩
    · intro same
      obtain ⟨rfl, rfl⟩ := same
      exact ⟨rfl, unused, refused⟩
  · rw [freshVariable, found]

end Denotation
