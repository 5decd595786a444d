import Denotation.Ty.Basic

/-!
# Alignment of a polymorphic type with a concrete one

An alignment says which type each type variable stands for.  It is found by one-way matching: the
variable-sided type and the concrete type are walked in parallel from left to right, and a variable
of the first stands for whatever it faces in the second.  A variable on the concrete side asks
for nothing.

The walk is kept apart from its effect.  `demands` lists what the two types ask of an alignment,
position by position, and `Alignment.refine` meets these demands in turn.  The first one that cannot
be met ends the refinement, and what was bound before it stays bound.
-/

namespace Denotation

inductive AlignmentError where
  | shapeMismatch (expected found : Ty)
  | constantClash (expected found : Ty)
  | conflictingBinding (symbol : Char) (bound found : Ty)
  | occursCheck (symbol : Char) (ty : Ty)
deriving DecidableEq

namespace AlignmentError

def message : AlignmentError → String
  | .shapeMismatch expected found =>
      "cannot align " ++ expected.text ++ " with " ++ found.text ++ ": incompatible shapes"
  | .constantClash expected found =>
      "cannot align " ++ expected.text ++ " with " ++ found.text
  | .conflictingBinding symbol bound found =>
      "type variable '" ++ symbol.toString ++ " is bound to " ++ bound.text ++
        " but must also be " ++ found.text
  | .occursCheck symbol ty =>
      "type variable '" ++ symbol.toString ++ " cannot stand for " ++ ty.text ++
        ", which contains it"

end AlignmentError

/-- An assignment of types to finitely many type variables.  The bindings are kept in ascending
order of their symbols, so two alignments that bind alike are equal. -/
structure Alignment where
  bindings : List (Char × Ty)
  ascending : bindings.Pairwise (fun earlier later => earlier.1 < later.1)
deriving DecidableEq

namespace Alignment

def empty : Alignment := ⟨[], .nil⟩

instance : Inhabited Alignment := ⟨empty⟩

def find (symbol : Char) : List (Char × Ty) → Option Ty
  | [] => none
  | (other, ty) :: rest => if other = symbol then some ty else find symbol rest

def get? (alignment : Alignment) (symbol : Char) : Option Ty :=
  find symbol alignment.bindings

def size (alignment : Alignment) : Nat := alignment.bindings.length

def isEmpty (alignment : Alignment) : Bool := alignment.bindings.isEmpty

def isIdentity (alignment : Alignment) : Bool :=
  alignment.bindings.all fun binding => binding.2 == .var binding.1

/-- Put a binding at its place in an ascending list, over an earlier one of the same symbol. -/
def place (symbol : Char) (ty : Ty) : List (Char × Ty) → List (Char × Ty)
  | [] => [(symbol, ty)]
  | (other, bound) :: rest =>
      if symbol < other then (symbol, ty) :: (other, bound) :: rest
      else if other = symbol then (symbol, ty) :: rest
      else (other, bound) :: place symbol ty rest

theorem mem_place {symbol : Char} {ty : Ty} {bindings : List (Char × Ty)}
    {binding : Char × Ty} (member : binding ∈ place symbol ty bindings) :
    binding = (symbol, ty) ∨ binding ∈ bindings := by
  induction bindings with
  | nil => exact Or.inl (by simpa [place] using member)
  | cons head rest induction =>
      simp only [place] at member
      split at member
      · exact List.mem_cons.mp member
      · split at member
        · rcases List.mem_cons.mp member with same | later
          · exact Or.inl same
          · exact Or.inr (List.mem_cons_of_mem _ later)
        · rcases List.mem_cons.mp member with same | later
          · exact Or.inr (same ▸ List.mem_cons_self)
          · exact (induction later).imp_right (List.mem_cons_of_mem _)

theorem lt_of_not_lt_of_ne {left right : Char} (notLess : ¬ left < right) (differ : right ≠ left) :
    right < left :=
  Classical.byContradiction fun notGreater =>
    differ (Char.le_antisymm (Char.not_lt.mp notLess) (Char.not_lt.mp notGreater))

theorem ascending_place {symbol : Char} {ty : Ty} {bindings : List (Char × Ty)}
    (ascending : bindings.Pairwise (fun earlier later => earlier.1 < later.1)) :
    (place symbol ty bindings).Pairwise (fun earlier later => earlier.1 < later.1) := by
  induction bindings with
  | nil => exact List.pairwise_singleton _ _
  | cons head rest induction =>
      have before : ∀ later ∈ rest, head.1 < later.1 := fun _ member =>
        List.rel_of_pairwise_cons ascending member
      have restAscending := ascending.of_cons
      simp only [place]
      split
      · rename_i less
        refine List.Pairwise.cons ?_ ascending
        intro later member
        rcases List.mem_cons.mp member with same | member
        · exact same ▸ less
        · exact Char.lt_trans less (before later member)
      · rename_i notLess
        split
        · rename_i same
          exact List.Pairwise.cons (fun later member => same ▸ before later member) restAscending
        · rename_i differ
          refine List.Pairwise.cons ?_ (induction restAscending)
          intro later member
          rcases mem_place member with same | member
          · exact same ▸ lt_of_not_lt_of_ne notLess differ
          · exact before later member

def insert (alignment : Alignment) (symbol : Char) (ty : Ty) : Alignment :=
  ⟨place symbol ty alignment.bindings, ascending_place alignment.ascending⟩

/-- The alignment with the listed bindings; a later one replaces an earlier one. -/
def ofList (bindings : List (Char × Ty)) : Alignment :=
  bindings.foldl (fun alignment binding => alignment.insert binding.1 binding.2) empty

def apply (alignment : Alignment) : Ty → Ty
  | .const symbol => .const symbol
  | .var symbol => (alignment.get? symbol).getD (.var symbol)
  | .fn domain range => .fn (alignment.apply domain) (alignment.apply range)

theorem find_place (symbol sought : Char) (ty : Ty) (bindings : List (Char × Ty)) :
    find sought (place symbol ty bindings) =
      if symbol = sought then some ty else find sought bindings := by
  induction bindings with
  | nil => rfl
  | cons head rest induction =>
      simp only [place]
      split
      · rfl
      · split
        · rename_i same
          subst same
          simp only [find]
          split <;> rfl
        · rename_i differ
          simp only [find, induction]
          by_cases found : head.1 = sought
          · have apart : symbol ≠ sought := fun same => differ (found.trans same.symm)
            simp [found, apart]
          · simp [found]

theorem find_eq_none_of_before {symbol : Char} {bindings : List (Char × Ty)}
    (before : ∀ binding ∈ bindings, symbol < binding.1) : find symbol bindings = none := by
  induction bindings with
  | nil => rfl
  | cons head rest induction =>
      have headLater : symbol < head.1 := before head List.mem_cons_self
      have differ : head.1 ≠ symbol := fun same => Char.lt_irrefl symbol (same ▸ headLater)
      simp only [find, if_neg differ]
      exact induction fun binding member => before binding (List.mem_cons_of_mem _ member)

theorem eq_of_find_eq {left right : List (Char × Ty)}
    (leftAscending : left.Pairwise (fun earlier later => earlier.1 < later.1))
    (rightAscending : right.Pairwise (fun earlier later => earlier.1 < later.1))
    (alike : ∀ symbol, find symbol left = find symbol right) : left = right := by
  induction left generalizing right with
  | nil =>
      cases right with
      | nil => rfl
      | cons head rest => simpa [find] using alike head.1
  | cons leftHead leftRest induction =>
      cases right with
      | nil => simpa [find] using alike leftHead.1
      | cons rightHead rightRest =>
          have leftBefore : ∀ binding ∈ leftRest, leftHead.1 < binding.1 := fun _ member =>
            List.rel_of_pairwise_cons leftAscending member
          have rightBefore : ∀ binding ∈ rightRest, rightHead.1 < binding.1 := fun _ member =>
            List.rel_of_pairwise_cons rightAscending member
          have notLess : ¬ leftHead.1 < rightHead.1 := by
            intro less
            have absent : find leftHead.1 (rightHead :: rightRest) = none :=
              find_eq_none_of_before fun binding member => by
                rcases List.mem_cons.mp member with same | later
                · exact same ▸ less
                · exact Char.lt_trans less (rightBefore binding later)
            simpa [find, absent] using (alike leftHead.1).trans absent
          have notGreater : ¬ rightHead.1 < leftHead.1 := by
            intro less
            have absent : find rightHead.1 (leftHead :: leftRest) = none :=
              find_eq_none_of_before fun binding member => by
                rcases List.mem_cons.mp member with same | later
                · exact same ▸ less
                · exact Char.lt_trans less (leftBefore binding later)
            simpa [find, absent] using (alike rightHead.1).symm.trans absent
          have sameSymbol : leftHead.1 = rightHead.1 :=
            Char.le_antisymm (Char.not_lt.mp notGreater) (Char.not_lt.mp notLess)
          have sameTy : leftHead.2 = rightHead.2 := by
            simpa [find, sameSymbol] using alike leftHead.1
          have sameRest : leftRest = rightRest := by
            refine induction leftAscending.of_cons rightAscending.of_cons fun symbol => ?_
            by_cases found : leftHead.1 = symbol
            · rw [find_eq_none_of_before (found ▸ leftBefore),
                find_eq_none_of_before (found ▸ sameSymbol ▸ rightBefore)]
            · simpa [find, found, sameSymbol ▸ found] using alike symbol
          rw [Prod.ext sameSymbol sameTy, sameRest]

theorem eq_of_get?_eq {left right : Alignment}
    (alike : ∀ symbol, left.get? symbol = right.get? symbol) : left = right := by
  have sameBindings := eq_of_find_eq left.ascending right.ascending alike
  cases left
  cases right
  cases sameBindings
  rfl

theorem get?_insert (alignment : Alignment) (symbol sought : Char) (ty : Ty) :
    (alignment.insert symbol ty).get? sought =
      if symbol = sought then some ty else alignment.get? sought :=
  find_place symbol sought ty alignment.bindings

theorem get?_empty (symbol : Char) : empty.get? symbol = none := rfl

end Alignment

inductive Demand where
  | bind (symbol : Char) (ty : Ty)
  | refuse (error : AlignmentError)
deriving DecidableEq

def demands : Ty → Ty → List Demand
  | .var symbol, concrete => [.bind symbol concrete]
  | _, .var _ => []
  | .const expected, .const found =>
      if expected = found then [] else [.refuse (.constantClash (.const expected) (.const found))]
  | .fn domain range, .fn domain' range' => demands domain domain' ++ demands range range'
  | .const symbol, .fn domain' range' =>
      [.refuse (.shapeMismatch (.const symbol) (.fn domain' range'))]
  | .fn domain range, .const symbol =>
      [.refuse (.shapeMismatch (.fn domain range) (.const symbol))]

structure Refinement where
  alignment : Alignment
  fault : Option AlignmentError
deriving DecidableEq

def Refinement.result : Refinement → Except AlignmentError Alignment
  | ⟨alignment, none⟩ => .ok alignment
  | ⟨_, some error⟩ => .error error

namespace Alignment

/-- Let the variable `symbol` stand for `ty`.  A bound variable only accepts the type it has; an
unbound one may not stand for a larger type in which it occurs. -/
def bind (alignment : Alignment) (symbol : Char) (ty : Ty) : Except AlignmentError Alignment :=
  match alignment.get? symbol with
  | some bound =>
      if bound = ty then .ok alignment else .error (.conflictingBinding symbol bound ty)
  | none =>
      if ty ≠ .var symbol ∧ ty.mentions symbol then .error (.occursCheck symbol ty)
      else .ok (alignment.insert symbol ty)

def meet (alignment : Alignment) : Demand → Except AlignmentError Alignment
  | .bind symbol ty => alignment.bind symbol ty
  | .refuse error => .error error

def meetAll (alignment : Alignment) : List Demand → Refinement
  | [] => ⟨alignment, none⟩
  | demand :: rest =>
      match alignment.meet demand with
      | .ok next => next.meetAll rest
      | .error error => ⟨alignment, some error⟩

def refine (alignment : Alignment) (variableSided concrete : Ty) : Refinement :=
  alignment.meetAll (demands variableSided concrete)

/-- Refine an alignment by pairs of a variable-sided and a concrete type in turn, up to the first
that cannot be aligned. -/
def refineAll (alignment : Alignment) : List (Ty × Ty) → Refinement
  | [] => ⟨alignment, none⟩
  | (variableSided, concrete) :: rest =>
      match alignment.refine variableSided concrete with
      | ⟨reached, none⟩ => reached.refineAll rest
      | ⟨reached, some error⟩ => ⟨reached, some error⟩

theorem meetAll_append (alignment : Alignment) (first second : List Demand) :
    alignment.meetAll (first ++ second) =
      match alignment.meetAll first with
      | ⟨reached, none⟩ => reached.meetAll second
      | ⟨reached, some error⟩ => ⟨reached, some error⟩ := by
  induction first generalizing alignment with
  | nil => rfl
  | cons demand rest induction =>
      simp only [List.cons_append, meetAll]
      cases alignment.meet demand with
      | ok next => exact induction next
      | error _ => rfl

theorem refineAll_eq_meetAll (alignment : Alignment) (pairs : List (Ty × Ty)) :
    alignment.refineAll pairs =
      alignment.meetAll (pairs.flatMap fun pair => demands pair.1 pair.2) := by
  induction pairs generalizing alignment with
  | nil => rfl
  | cons pair rest induction =>
      obtain ⟨variableSided, concrete⟩ := pair
      simp only [refineAll, refine, List.flatMap_cons, meetAll_append]
      split
      · exact induction _
      · rfl

end Alignment

def Ty.align (variableSided concrete : Ty) : Except AlignmentError Alignment :=
  (Alignment.empty.refine variableSided concrete).result

end Denotation
