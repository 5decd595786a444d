import Denotation.Term.Nameless
import Denotation.Proofs.Reduction.Scope

/-!
# Alphabetic variants side by side

Two alphabetic variants are built alike, and their binders come in pairs.  Below such pairs an identifier
of the one term corresponds to an identifier of the other: both are bound by the same pair, or they are
the same identifier and bound by none.  Corresponding identifiers have the same type, and each
corresponds to one only.

So whatever occurs in one of the variants has its counterpart at the same path in the other one.
-/

namespace Denotation

/-- Two identifiers stand for the same thing below pairs of binders, the innermost pair first. -/
inductive Ident.Corresponds : List (Ident × Ident) → Ident → Ident → Prop where
  | free (id : Ident) : Corresponds [] id id
  | here {scope : List (Ident × Ident)} {left right : Ident} :
      left.ty = right.ty → Corresponds ((left, right) :: scope) left right
  | there {scope : List (Ident × Ident)} {leftBound rightBound left right : Ident} :
      left ≠ leftBound → right ≠ rightBound → Corresponds scope left right →
        Corresponds ((leftBound, rightBound) :: scope) left right

namespace Ident.Corresponds

variable {scope : List (Ident × Ident)} {left right : Ident}

theorem sameTy (corresponds : Corresponds scope left right) : left.ty = right.ty := by
  induction corresponds with
  | free _ => rfl
  | here same => exact same
  | there _ _ _ outerIH => exact outerIH

theorem symm (corresponds : Corresponds scope left right) :
    Corresponds (scope.map Prod.swap) right left := by
  induction corresponds with
  | free id => exact .free id
  | here same => exact .here same.symm
  | there leftApart rightApart _ outerIH => exact .there rightApart leftApart outerIH

theorem unique {other : Ident} (corresponds : Corresponds scope left right)
    (corresponds' : Corresponds scope left other) : other = right := by
  induction corresponds with
  | free _ =>
      cases corresponds'
      rfl
  | here _ =>
      cases corresponds' with
      | here _ => rfl
      | there apart _ _ => exact absurd rfl apart
  | there apart _ _ outerIH =>
      cases corresponds' with
      | here _ => exact absurd rfl apart
      | there _ _ outer => exact outerIH outer

theorem of_namelessIn_eq (sameTys : ∀ pair ∈ scope, pair.1.ty = pair.2.ty)
    (same : (Term.ident left).namelessIn (scope.map Prod.fst) =
      (Term.ident right).namelessIn (scope.map Prod.snd)) : Corresponds scope left right := by
  induction scope with
  | nil =>
      cases same
      exact .free left
  | cons pair rest restIH =>
      obtain ⟨leftBound, rightBound⟩ := pair
      obtain ⟨sameTy, sameTysRest⟩ := List.forall_mem_cons.mp sameTys
      simp only [Term.namelessIn, List.map_cons, List.idxOf?_cons, beq_iff_eq] at same restIH
      by_cases leftHere : leftBound = left <;> by_cases rightHere : rightBound = right
      · subst leftHere rightHere
        exact .here sameTy
      · rw [if_pos leftHere, if_neg rightHere] at same
        cases place : (rest.map Prod.snd).idxOf? right <;> simp [place] at same
      · rw [if_neg leftHere, if_pos rightHere] at same
        cases place : (rest.map Prod.fst).idxOf? left <;> simp [place] at same
      · rw [if_neg leftHere, if_neg rightHere] at same
        refine .there (Ne.symm leftHere) (Ne.symm rightHere) (restIH sameTysRest ?_)
        cases leftPlace : (rest.map Prod.fst).idxOf? left <;>
          cases rightPlace : (rest.map Prod.snd).idxOf? right <;>
            simp [leftPlace, rightPlace] at same ⊢ <;> exact same

end Ident.Corresponds

namespace Term

/-- Two terms are alphabetic variants of each other below pairs of binders. -/
inductive VariantsIn : List (Ident × Ident) → Term → Term → Prop where
  | ident {scope : List (Ident × Ident)} {left right : Ident} :
      Ident.Corresponds scope left right → VariantsIn scope (.ident left) (.ident right)
  | binder {scope : List (Ident × Ident)} (kind : BinderKind) {leftBound rightBound : Ident}
      {leftBody rightBody : Term} :
      leftBound.ty = rightBound.ty →
        VariantsIn ((leftBound, rightBound) :: scope) leftBody rightBody →
          VariantsIn scope (.binder kind leftBound leftBody) (.binder kind rightBound rightBody)
  | not {scope : List (Ident × Ident)} {left right : Term} :
      VariantsIn scope left right → VariantsIn scope (.not left) (.not right)
  | binary {scope : List (Ident × Ident)} (connective : Connective) {left left' right right' : Term} :
      VariantsIn scope left left' → VariantsIn scope right right' →
        VariantsIn scope (.binary connective left right) (.binary connective left' right')
  | equal {scope : List (Ident × Ident)} {left left' right right' : Term} :
      VariantsIn scope left left' → VariantsIn scope right right' →
        VariantsIn scope (.equal left right) (.equal left' right')
  | app {scope : List (Ident × Ident)} {function function' argument argument' : Term} :
      VariantsIn scope function function' → VariantsIn scope argument argument' →
        VariantsIn scope (.app function argument) (.app function' argument')

/-- The nameless form still tells identifiers from other terms. -/
theorem exists_ident_of_namelessIn_eq {id : Ident} {term : Term} {scope scope' : List Ident}
    (same : (Term.ident id).namelessIn scope = term.namelessIn scope') : ∃ other, term = .ident other := by
  cases term with
  | ident other => exact ⟨other, rfl⟩
  | _ =>
      simp only [namelessIn] at same
      split at same <;> cases same

namespace VariantsIn

variable {scope : List (Ident × Ident)} {left right : Term}

theorem symm (variants : VariantsIn scope left right) :
    VariantsIn (scope.map Prod.swap) right left := by
  induction variants with
  | ident corresponds => exact .ident corresponds.symm
  | binder kind sameTy _ bodyIH => exact .binder kind sameTy.symm bodyIH
  | not _ operandIH => exact .not operandIH
  | binary connective _ _ leftIH rightIH => exact .binary connective leftIH rightIH
  | equal _ _ leftIH rightIH => exact .equal leftIH rightIH
  | app _ _ functionIH argumentIH => exact .app functionIH argumentIH

theorem of_namelessIn_eq (sameTys : ∀ pair ∈ scope, pair.1.ty = pair.2.ty)
    (same : left.namelessIn (scope.map Prod.fst) = right.namelessIn (scope.map Prod.snd)) :
    VariantsIn scope left right := by
  induction left generalizing scope right with
  | ident id =>
      obtain ⟨other, rfl⟩ := exists_ident_of_namelessIn_eq same
      exact .ident (.of_namelessIn_eq sameTys same)
  | binder kind bound body bodyIH =>
      cases right with
      | ident id =>
          obtain ⟨_, isIdent⟩ := exists_ident_of_namelessIn_eq same.symm
          cases isIdent
      | binder kind' bound' body' =>
          simp only [namelessIn, Nameless.binder.injEq] at same
          obtain ⟨rfl, sameTy, sameBody⟩ := same
          exact .binder kind sameTy (bodyIH (List.forall_mem_cons.mpr ⟨sameTy, sameTys⟩) sameBody)
      | _ => cases same
  | not operand operandIH =>
      cases right with
      | ident id =>
          obtain ⟨_, isIdent⟩ := exists_ident_of_namelessIn_eq same.symm
          cases isIdent
      | not operand' =>
          simp only [namelessIn, Nameless.not.injEq] at same
          exact .not (operandIH sameTys same)
      | _ => cases same
  | binary connective first second firstIH secondIH =>
      cases right with
      | ident id =>
          obtain ⟨_, isIdent⟩ := exists_ident_of_namelessIn_eq same.symm
          cases isIdent
      | binary connective' first' second' =>
          simp only [namelessIn, Nameless.binary.injEq] at same
          obtain ⟨rfl, sameFirst, sameSecond⟩ := same
          exact .binary connective (firstIH sameTys sameFirst) (secondIH sameTys sameSecond)
      | _ => cases same
  | equal first second firstIH secondIH =>
      cases right with
      | ident id =>
          obtain ⟨_, isIdent⟩ := exists_ident_of_namelessIn_eq same.symm
          cases isIdent
      | equal first' second' =>
          simp only [namelessIn, Nameless.equal.injEq] at same
          exact .equal (firstIH sameTys same.1) (secondIH sameTys same.2)
      | _ => cases same
  | app first second firstIH secondIH =>
      cases right with
      | ident id =>
          obtain ⟨_, isIdent⟩ := exists_ident_of_namelessIn_eq same.symm
          cases isIdent
      | app first' second' =>
          simp only [namelessIn, Nameless.app.injEq] at same
          exact .app (firstIH sameTys same.1) (secondIH sameTys same.2)
      | _ => cases same

/-- The parts of variants are variants below one more pair of binders, if the nodes are binders. -/
theorem exists_part (variants : VariantsIn scope left right) {number : Nat} {part : Term}
    (isPart : left.parts[number]? = some part) :
    ∃ part', right.parts[number]? = some part' ∧
      VariantsIn (left.ownBound.zip right.ownBound ++ scope) part part' := by
  cases variants with
  | ident _ => cases isPart
  | binder _ _ body | not body =>
      rcases number with _ | number
      · cases isPart
        exact ⟨_, rfl, body⟩
      · cases isPart
  | binary _ first second | equal first second | app first second =>
      rcases number with _ | _ | number
      · cases isPart
        exact ⟨_, rfl, first⟩
      · cases isPart
        exact ⟨_, rfl, second⟩
      · cases isPart

theorem ownBound_cases (variants : VariantsIn scope left right) :
    left.ownBound = [] ∧ right.ownBound = [] ∨
      ∃ leftBound rightBound, left.ownBound = [leftBound] ∧ right.ownBound = [rightBound] := by
  cases variants with
  | binder _ _ _ => exact Or.inr ⟨_, _, rfl, rfl⟩
  | _ => exact Or.inl ⟨rfl, rfl⟩

/-- An occurrence that no binder above it in its own term binds has a counterpart in the other one. -/
theorem exists_counterpart (variants : VariantsIn scope left right) {path : Path} {id : Ident}
    (found : left.at? path = some (.ident id)) (unbound : id ∉ left.boundAround path) :
    ∃ other, right.at? path = some (.ident other) ∧ other ∉ right.boundAround path ∧
      Ident.Corresponds scope id other := by
  induction path generalizing scope left right with
  | nil =>
      cases found
      cases variants with
      | ident corresponds => exact ⟨_, rfl, List.not_mem_nil, corresponds⟩
  | cons number rest restIH =>
      rw [at?_cons] at found
      obtain ⟨part, isPart, below⟩ := Option.bind_eq_some_iff.mp found
      obtain ⟨part', isPart', variantParts⟩ := variants.exists_part isPart
      simp only [boundAround, isPart, List.mem_append, not_or] at unbound
      obtain ⟨other, found', unbound', corresponds⟩ := restIH variantParts below unbound.2
      refine ⟨other, by rw [at?_cons, isPart', Option.bind_some, found'], ?_⟩
      simp only [boundAround, isPart', List.mem_append, not_or]
      rcases variants.ownBound_cases with ⟨none, none'⟩ | ⟨leftBound, rightBound, own, own'⟩
      · rw [none, none'] at corresponds
        exact ⟨⟨none' ▸ List.not_mem_nil, unbound'⟩, corresponds⟩
      · rw [own, own'] at corresponds
        rw [own] at unbound
        cases corresponds with
        | here _ => exact absurd (List.mem_singleton_self _) unbound.1
        | there _ apart outer =>
            exact ⟨⟨own' ▸ fun member => apart (List.mem_singleton.mp member), unbound'⟩, outer⟩

theorem eq_ident_iff {id other : Ident} (variants : VariantsIn scope left right)
    (corresponds : Ident.Corresponds scope id other) : left = .ident id ↔ right = .ident other := by
  cases variants with
  | ident pair =>
      simp only [Term.ident.injEq]
      constructor
      · rintro rfl
        exact corresponds.unique pair
      · rintro rfl
        exact corresponds.symm.unique pair.symm
  | _ => simp

end VariantsIn

theorem AlphabeticVariants.variantsIn {left right : Term} (variants : AlphabeticVariants left right) :
    VariantsIn [] left right :=
  .of_namelessIn_eq (by simp) variants

end Term

end Denotation
