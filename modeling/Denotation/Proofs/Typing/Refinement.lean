import Denotation.Proofs.Typing.Matching

/-!
# Refining an alignment in any order

A refinement never takes a binding back, and it binds no variable to a larger type that contains it.  It
does so demand by demand, so this holds also of one that stops in the middle.

What a list of pairs comes to does not depend on its order.  Whether all demands can be met is a condition
on the demands as a set, and so is the alignment that is reached: it holds the old bindings and those that
were demanded.  The order only decides which demand fails first.
-/

namespace Denotation

namespace Alignment

variable {alignment : Alignment} {symbol : Char} {ty : Ty}

/-- Each binding that is added is one that the variable could take, also where a later demand fails. -/
theorem get?_or_sound_of_meetAll {demands : List Demand}
    (found : (alignment.meetAll demands).alignment.get? symbol = some ty) :
    alignment.get? symbol = some ty ∨ ty = .var symbol ∨ ty.mentions symbol = false := by
  induction demands generalizing alignment with
  | nil => exact Or.inl found
  | cons demand rest restIH =>
      rw [meetAll] at found
      split at found
      · rename_i next met
        refine (restIH found).elim (fun bound => ?_) Or.inr
        cases demand with
        | refuse error => cases met
        | bind target image =>
            rw [get?_of_bind met] at bound
            split at bound
            · rename_i same
              subst same
              cases bound
              exact (admits_iff.mpr ⟨next, met⟩).imp_right And.right
            · exact Or.inl bound
      · exact Or.inl found

theorem Reconciles.of_mem {first second : List Demand} (within : ∀ demand ∈ second, demand ∈ first)
    (reconciled : alignment.Reconciles first) : alignment.Reconciles second := by
  intro symbol ty member
  obtain ⟨admitted, agrees⟩ := reconciled symbol ty (within _ member)
  exact ⟨admitted, fun other otherMember => agrees other (within _ otherMember)⟩

/-- Demands that can be met can be met in any order and any number of times, with the same outcome. -/
theorem meetAll_of_mem_iff {first second : List Demand}
    (same : ∀ demand, demand ∈ second ↔ demand ∈ first)
    (met : (alignment.meetAll first).fault = none) :
    alignment.meetAll second = alignment.meetAll first := by
  have metSecond : (alignment.meetAll second).fault = none := by
    obtain ⟨unrefused, reconciled⟩ := fault_meetAll_eq_none_iff.mp met
    refine fault_meetAll_eq_none_iff.mpr ⟨fun error refused => ?_, ?_⟩
    · exact unrefused error ((same _).mp refused)
    · exact reconciled.of_mem fun demand member => (same demand).mp member
  have sameAlignment : (alignment.meetAll second).alignment = (alignment.meetAll first).alignment := by
    apply eq_of_get?_eq
    intro symbol
    apply Option.ext
    intro ty
    rw [get?_meetAll_eq_some_iff metSecond, get?_meetAll_eq_some_iff met, same]
  cases outcomeFirst : alignment.meetAll first
  cases outcomeSecond : alignment.meetAll second
  rw [outcomeFirst] at met sameAlignment
  rw [outcomeSecond] at metSecond sameAlignment
  cases met
  cases metSecond
  cases sameAlignment
  rfl

theorem refineAll_of_perm {pairs others : List (Ty × Ty)} (permuted : pairs.Perm others)
    (refined : (alignment.refineAll pairs).fault = none) :
    alignment.refineAll others = alignment.refineAll pairs := by
  rw [refineAll_eq_meetAll] at refined
  rw [refineAll_eq_meetAll, refineAll_eq_meetAll]
  refine meetAll_of_mem_iff (fun demand => ?_) refined
  simp only [List.mem_flatMap, permuted.mem_iff]

/-- Whether it succeeds or fails, a refinement keeps every binding and binds no variable anew to a
different type that contains it.  A list of pairs can be aligned in turn exactly if it can in any other
order, and then the same alignment is reached in every order. -/
theorem refinement_order_independent (alignment : Alignment) :
    (∀ variableSided concrete symbol ty,
      (alignment.get? symbol = some ty →
        (alignment.refine variableSided concrete).alignment.get? symbol = some ty) ∧
      (alignment.get? symbol = none →
        (alignment.refine variableSided concrete).alignment.get? symbol = some ty →
          ty.mentions symbol = true → ty = .var symbol)) ∧
    ∀ pairs,
      ((alignment.refineAll pairs).fault = none ↔
        ∀ others, pairs.Perm others → (alignment.refineAll others).fault = none) ∧
      ((alignment.refineAll pairs).fault = none → ∀ others, pairs.Perm others →
        (alignment.refineAll others).alignment = (alignment.refineAll pairs).alignment) := by
  refine ⟨fun variableSided concrete symbol ty => ⟨?_, ?_⟩, fun pairs => ⟨⟨?_, ?_⟩, ?_⟩⟩
  · exact extends_meetAll alignment _ symbol ty
  · intro unbound found occurs
    rcases get?_or_sound_of_meetAll found with before | self | absent
    · cases unbound.symm.trans before
    · exact self
    · cases absent.symm.trans occurs
  · intro refined others permuted
    rw [refineAll_of_perm permuted refined]
    exact refined
  · intro inAnyOrder
    exact inAnyOrder pairs (.refl pairs)
  · intro refined others permuted
    rw [refineAll_of_perm permuted refined]

/-- On top of `'b := t`, the pairs of `'a` and `e`, of `<'a,'b>` and `<e,t>`, and of `'c` and `'c` are
aligned in any order, here backwards.  A refinement by `'a` and `<'a,t>` fails, keeps the binding of `'b`
and does not bind `'a`. -/
theorem refinement_order_independent_three_pairs :
    let alignment : Alignment := .ofList [('b', .truth)]
    let pairs : List (Ty × Ty) :=
      [(.var 'a', .entity), (.fn (.var 'a') (.var 'b'), .predicate), (.var 'c', .var 'c')]
    (alignment.refineAll pairs.reverse).fault = none ∧
      (alignment.refineAll pairs.reverse).alignment = (alignment.refineAll pairs).alignment ∧
      (alignment.refine (.var 'a') (.fn (.var 'a') .truth)).fault ≠ none ∧
      (alignment.refine (.var 'a') (.fn (.var 'a') .truth)).alignment.get? 'b' = some .truth ∧
      (alignment.refine (.var 'a') (.fn (.var 'a') .truth)).alignment.get? 'a' ≠
        some (.fn (.var 'a') .truth) := by
  intro alignment pairs
  obtain ⟨monotone, orderFree⟩ := refinement_order_independent alignment
  obtain ⟨succeeds, sameAlignment⟩ := orderFree pairs
  have refined : (alignment.refineAll pairs).fault = none := by decide
  have permuted : pairs.Perm pairs.reverse := (List.reverse_perm pairs).symm
  refine ⟨succeeds.mp refined _ permuted, sameAlignment refined _ permuted, by decide, ?_, ?_⟩
  · exact (monotone (.var 'a') (.fn (.var 'a') .truth) 'b' .truth).1 (by decide)
  · intro found
    have self := (monotone _ _ 'a' (.fn (.var 'a') .truth)).2 (by decide) found (by decide)
    cases self

end Alignment

end Denotation
