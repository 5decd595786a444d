import Mathlib.Data.List.Forall2
import Denotation.Proofs.Nameless.Variants
import Denotation.Proofs.Typing.Hiding

/-!
# Types of alphabetic variants

The type of a term depends on the names of its bound variables.  A binder is specialized to the uses of
its variable, and these are looked for by name: a binder over another variable of the same name hides
the occurrences below it, although it does not bind them.  Renaming one of the two binders brings
them back to light.

This is the only way in which names matter.  Alphabetic variants have the same type unless one of them
hides a use that the other one shows.
-/

namespace Denotation.Term

section Variants

variable {scope : List (Ident × Ident)} {left right left' right' part part' : Term}
  {id other : Ident} {alignment next : Alignment}

/-- Two identifiers are seen in uses at the same paths of two terms. -/
def UsedAlike (id other : Ident) (left right : Term) : Prop :=
  ∀ path, UsedAt id left path ↔ UsedAt other right path

/-- A node over which both identifiers can be seen hides none of their uses in its parts. -/
theorem UsedAlike.below (alike : UsedAlike id other left right) (number : Nat)
    (isPart : left.parts[number]? = some part) (isPart' : right.parts[number]? = some part')
    (clear : ∀ bound ∈ left.ownBound, bound.name ≠ id.name)
    (clear' : ∀ bound ∈ right.ownBound, bound.name ≠ other.name) :
    UsedAlike id other part part' := by
  intro path
  by_cases below : path = []
  · rw [below]
    exact iff_of_false not_usedAt_nil not_usedAt_nil
  · have above := alike (number :: path)
    rw [usedAt_part isPart below, usedAt_part isPart' below] at above
    exact (and_iff_right clear).symm.trans (above.trans (and_iff_right clear'))

theorem UsedAlike.inPart (alike : UsedAlike id other left right) (number : Nat)
    (isPart : left.parts[number]? = some part) (isPart' : right.parts[number]? = some part')
    (bindsNone : left.ownBound = []) (bindsNone' : right.ownBound = []) :
    UsedAlike id other part part' := by
  apply alike.below number isPart isPart'
  · rw [bindsNone]
    exact List.forall_mem_nil _
  · rw [bindsNone']
    exact List.forall_mem_nil _

/-- Something is asked at the same paths of two terms that ask for it at the same parts. -/
theorem asksAt_eq_of_parts (here : ∀ number, left.asksPart id number = right.asksPart other number)
    (below : List.Forall₂ (fun part part' => ∀ path, part.asksAt id path = part'.asksAt other path)
      left.parts right.parts) (path : Path) : left.asksAt id path = right.asksAt other path := by
  rcases path with _ | ⟨number, _ | ⟨next, rest⟩⟩
  · rfl
  · exact here number
  · simp only [asksAt]
    generalize left.parts = parts, right.parts = parts' at below
    induction below generalizing number with
    | nil => rfl
    | cons first _ laterIH =>
        cases number with
        | zero => exact first (next :: rest)
        | succ number => exact laterIH number

/-- What two terms that are built alike have in common: a type of the first is one of the second, and if
there is one, identifiers of the same type are asked for at the same places, and identifiers that
correspond to each other are specialized alike if they are seen in the same uses. -/
structure TypedAlike (scope : List (Ident × Ident)) (left right : Term) : Prop where
  typeOf : ∀ {ty}, left.typeOf = .ok ty → right.typeOf = .ok ty
  asksAt : ∀ {ty}, left.typeOf = .ok ty → ∀ {id other : Ident}, id.ty = other.ty →
    ∀ path, left.asksAt id path = right.asksAt other path
  alignUses : ∀ {ty}, left.typeOf = .ok ty → ∀ {id other}, Ident.Corresponds scope id other →
    UsedAlike id other left right → ∀ {alignment next}, left.alignUses id alignment = .ok next →
      right.alignUses other alignment = .ok next

theorem VariantsIn.constrainUse_eq (variants : VariantsIn scope left right)
    (corresponds : Ident.Corresponds scope id other) (alignment : Alignment) (expected : Ty) :
    constrainUse alignment other right expected = constrainUse alignment id left expected := by
  simp only [constrainUse, variants.eq_ident_iff corresponds, corresponds.sameTy]

/-- Where the one term is a use of the one variable, the other is a use of the other, and if its effect
carries over, so does that of a term that may be a use. -/
theorem VariantsIn.atUse (variants : VariantsIn scope left right)
    (corresponds : Ident.Corresponds scope id other) {used used' : Except TypeError Alignment}
    (carries : used = .ok next → used' = .ok next)
    (constrained : (if left = .ident id then used else .ok alignment) = .ok next) :
    (if right = .ident other then used' else .ok alignment) = .ok next := by
  simp only [← variants.eq_ident_iff corresponds]
  split at constrained
  · rename_i isUse
    rw [if_pos isUse, carries constrained]
  · rename_i notUse
    rw [if_neg notUse, constrained]

theorem VariantsIn.constrainSide (variants : VariantsIn scope left left')
    (corresponds : Ident.Corresponds scope id other)
    (typed : ∀ {ty}, right.typeOf = .ok ty → right'.typeOf = .ok ty)
    (constrained : constrainSide alignment id left right = .ok next) :
    constrainSide alignment other left' right' = .ok next := by
  refine variants.atUse corresponds (fun used => ?_) constrained
  obtain ⟨expected, isTy, used⟩ := bind_eq_ok_iff.mp used
  rw [← corresponds.sameTy, typed isTy]
  exact used

theorem VariantsIn.constrainArgument (variants : VariantsIn scope right right')
    (corresponds : Ident.Corresponds scope id other)
    (typed : ∀ {ty}, left.typeOf = .ok ty → left'.typeOf = .ok ty)
    (constrained : constrainArgument alignment id left right = .ok next) :
    constrainArgument alignment other left' right' = .ok next := by
  refine variants.atUse corresponds (fun used => ?_) constrained
  obtain ⟨functionTy, isTy, used⟩ := bind_eq_ok_iff.mp used
  rw [← corresponds.sameTy, typed isTy]
  exact used

theorem VariantsIn.constrainFunction (variants : VariantsIn scope left left')
    (corresponds : Ident.Corresponds scope id other)
    (typed : ∀ {ty}, right.typeOf = .ok ty → right'.typeOf = .ok ty)
    (constrained : constrainFunction alignment id left right = .ok next) :
    constrainFunction alignment other left' right' = .ok next := by
  refine variants.atUse corresponds (fun used => ?_) constrained
  rw [← corresponds.sameTy]
  split at used
  · obtain ⟨argumentTy, isTy, used⟩ := bind_eq_ok_iff.mp used
    rw [typed isTy]
    exact used
  · exact used

theorem TypedAlike.ident (corresponds : Ident.Corresponds scope id other) :
    TypedAlike scope (.ident id) (.ident other) where
  typeOf typed := by rwa [Term.typeOf, ← corresponds.sameTy]
  asksAt _ _ _ _ := asksAt_eq_of_parts (fun _ => rfl) .nil
  alignUses _ _ _ _ _ _ _ aligned := by rwa [Term.alignUses] at aligned ⊢

theorem TypedAlike.not (variants : VariantsIn scope left right) (alike : TypedAlike scope left right) :
    TypedAlike scope (.not left) (.not right) where
  typeOf typed := by
    obtain ⟨⟨operandTy, operandTyped, fits⟩, isTruth⟩ := typeOf_not_eq_ok_iff.mp typed
    exact typeOf_not_eq_ok_iff.mpr ⟨⟨operandTy, alike.typeOf operandTyped, fits⟩, isTruth⟩
  asksAt typed _ _ sameTy := by
    obtain ⟨⟨operandTy, operandTyped, -⟩, -⟩ := typeOf_not_eq_ok_iff.mp typed
    exact asksAt_eq_of_parts (fun _ => rfl) (.cons (alike.asksAt operandTyped sameTy) .nil)
  alignUses typed _ _ corresponds used _ _ aligned := by
    obtain ⟨⟨operandTy, operandTyped, -⟩, -⟩ := typeOf_not_eq_ok_iff.mp typed
    simp only [Term.alignUses, bind_eq_ok_iff, variants.constrainUse_eq corresponds] at aligned ⊢
    obtain ⟨next, isUse, aligned⟩ := aligned
    exact ⟨next, isUse,
      alike.alignUses operandTyped corresponds (used.inPart 0 rfl rfl rfl rfl) aligned⟩

theorem TypedAlike.binary (connective : Connective) (leftVariants : VariantsIn scope left left')
    (rightVariants : VariantsIn scope right right') (leftAlike : TypedAlike scope left left')
    (rightAlike : TypedAlike scope right right') :
    TypedAlike scope (.binary connective left right) (.binary connective left' right') where
  typeOf typed := by
    rw [typeOf_binary_eq_ok_iff] at typed ⊢
    obtain ⟨⟨leftTy, leftTyped, leftFits⟩, ⟨rightTy, rightTyped, rightFits⟩, isTruth⟩ := typed
    exact ⟨⟨leftTy, leftAlike.typeOf leftTyped, leftFits⟩,
      ⟨rightTy, rightAlike.typeOf rightTyped, rightFits⟩, isTruth⟩
  asksAt typed _ _ sameTy := by
    obtain ⟨⟨leftTy, leftTyped, -⟩, ⟨rightTy, rightTyped, -⟩, -⟩ := typeOf_binary_eq_ok_iff.mp typed
    exact asksAt_eq_of_parts (fun _ => rfl)
      (.cons (leftAlike.asksAt leftTyped sameTy) (.cons (rightAlike.asksAt rightTyped sameTy) .nil))
  alignUses typed _ _ corresponds used _ _ aligned := by
    obtain ⟨⟨leftTy, leftTyped, -⟩, ⟨rightTy, rightTyped, -⟩, -⟩ := typeOf_binary_eq_ok_iff.mp typed
    simp only [Term.alignUses, bind_eq_ok_iff, leftVariants.constrainUse_eq corresponds,
      rightVariants.constrainUse_eq corresponds] at aligned ⊢
    obtain ⟨leftUsed, isLeftUse, leftAligned, inLeft, rightUsed, isRightUse, inRight⟩ := aligned
    exact ⟨leftUsed, isLeftUse, leftAligned,
      leftAlike.alignUses leftTyped corresponds (used.inPart 0 rfl rfl rfl rfl) inLeft,
      rightUsed, isRightUse,
      rightAlike.alignUses rightTyped corresponds (used.inPart 1 rfl rfl rfl rfl) inRight⟩

theorem TypedAlike.equal (leftVariants : VariantsIn scope left left')
    (rightVariants : VariantsIn scope right right') (leftAlike : TypedAlike scope left left')
    (rightAlike : TypedAlike scope right right') :
    TypedAlike scope (.equal left right) (.equal left' right') where
  typeOf typed := by
    rw [typeOf_equal_eq_ok_iff] at typed ⊢
    obtain ⟨leftTy, rightTy, leftTyped, rightTyped, premises⟩ := typed
    exact ⟨leftTy, rightTy, leftAlike.typeOf leftTyped, rightAlike.typeOf rightTyped, premises⟩
  asksAt typed _ _ sameTy := by
    obtain ⟨leftTy, rightTy, leftTyped, rightTyped, -⟩ := typeOf_equal_eq_ok_iff.mp typed
    refine asksAt_eq_of_parts (fun number => ?_)
      (.cons (leftAlike.asksAt leftTyped sameTy) (.cons (rightAlike.asksAt rightTyped sameTy) .nil))
    rw [asksPart, asksPart, leftTyped, rightTyped, leftAlike.typeOf leftTyped,
      rightAlike.typeOf rightTyped]
  alignUses typed _ _ corresponds used _ _ aligned := by
    obtain ⟨leftTy, rightTy, leftTyped, rightTyped, -⟩ := typeOf_equal_eq_ok_iff.mp typed
    simp only [alignUses_equal, bind_eq_ok_iff] at aligned ⊢
    obtain ⟨leftUsed, isLeftUse, rightUsed, isRightUse, leftAligned, inLeft, inRight⟩ := aligned
    exact ⟨leftUsed, leftVariants.constrainSide corresponds rightAlike.typeOf isLeftUse,
      rightUsed, rightVariants.constrainSide corresponds leftAlike.typeOf isRightUse, leftAligned,
      leftAlike.alignUses leftTyped corresponds (used.inPart 0 rfl rfl rfl rfl) inLeft,
      rightAlike.alignUses rightTyped corresponds (used.inPart 1 rfl rfl rfl rfl) inRight⟩

theorem TypedAlike.app (functionVariants : VariantsIn scope left left')
    (argumentVariants : VariantsIn scope right right') (functionAlike : TypedAlike scope left left')
    (argumentAlike : TypedAlike scope right right') :
    TypedAlike scope (.app left right) (.app left' right') where
  typeOf typed := by
    rw [typeOf_app_eq_ok_iff] at typed ⊢
    obtain ⟨domain, range, argumentTy, functionTyped, argumentTyped, applied⟩ := typed
    exact ⟨domain, range, argumentTy, functionAlike.typeOf functionTyped,
      argumentAlike.typeOf argumentTyped, applied⟩
  asksAt typed _ _ sameTy := by
    obtain ⟨domain, range, argumentTy, functionTyped, argumentTyped, -⟩ := typeOf_app_eq_ok_iff.mp typed
    refine asksAt_eq_of_parts (fun number => ?_)
      (.cons (functionAlike.asksAt functionTyped sameTy)
        (.cons (argumentAlike.asksAt argumentTyped sameTy) .nil))
    rw [asksPart, asksPart, sameTy, functionTyped, argumentTyped, functionAlike.typeOf functionTyped,
      argumentAlike.typeOf argumentTyped]
  alignUses typed _ _ corresponds used _ _ aligned := by
    obtain ⟨domain, range, argumentTy, functionTyped, argumentTyped, -⟩ := typeOf_app_eq_ok_iff.mp typed
    simp only [alignUses_app, bind_eq_ok_iff] at aligned ⊢
    obtain ⟨argumentUsed, isArgumentUse, functionUsed, isFunctionUse, functionAligned, inFunction,
      inArgument⟩ := aligned
    exact ⟨argumentUsed,
      argumentVariants.constrainArgument corresponds functionAlike.typeOf isArgumentUse,
      functionUsed,
      functionVariants.constrainFunction corresponds argumentAlike.typeOf isFunctionUse,
      functionAligned,
      functionAlike.alignUses functionTyped corresponds (used.inPart 0 rfl rfl rfl rfl) inFunction,
      argumentAlike.alignUses argumentTyped corresponds (used.inPart 1 rfl rfl rfl rfl) inArgument⟩

section Binder

variable {kind : BinderKind} {leftBound rightBound : Ident} {ty : Ty}

/-- A use that is seen in the first term is seen in the second one, unless it is hidden there only. -/
theorem VariantsIn.usedAt_bound
    (variants : VariantsIn ((leftBound, rightBound) :: scope) left right)
    (sameTy : leftBound.ty = rightBound.ty) (specializes : kind = .lambda ∨ kind = .iota)
    (polymorphic : rightBound.ty.hasVariables = true)
    (asksAlike : ∀ path, left.asksAt leftBound path = right.asksAt rightBound path)
    (hides : (Term.binder kind leftBound left).HidesUsesOf (.binder kind rightBound right))
    {path : Path} (used : UsedAt leftBound left path) : UsedAt rightBound right path := by
  obtain ⟨⟨found, clear⟩, asked⟩ := used
  have unbound : leftBound ∉ left.boundAround path := fun member => clear leftBound member rfl
  obtain ⟨other, found', unbound', corresponds⟩ := variants.exists_counterpart found unbound
  obtain rfl := (Ident.Corresponds.here sameTy).unique corresponds
  have asked' := (asksAlike path).symm.trans asked
  refine ⟨⟨found', fun between member sameName => ?_⟩, asked'⟩
  have hiddenUse := hidesUse_nil.mpr
    ⟨⟨specializes, polymorphic, found', unbound', between, member, sameName⟩, asked'⟩
  obtain ⟨between', member', sameName'⟩ := (hides_nil.mp (hides [] path hiddenUse)).hides
  exact clear between' member' sameName'

theorem TypedAlike.usesAlignment
    (variants : VariantsIn ((leftBound, rightBound) :: scope) left right)
    (alike : TypedAlike ((leftBound, rightBound) :: scope) left right)
    (sameTy : leftBound.ty = rightBound.ty) (specializes : kind = .lambda ∨ kind = .iota)
    (hides : (Term.binder kind leftBound left).HidesUsesOf (.binder kind rightBound right))
    (hides' : (Term.binder kind rightBound right).HidesUsesOf (.binder kind leftBound left))
    (typed : left.typeOf = .ok ty) (aligned : usesAlignment leftBound left = .ok alignment) :
    usesAlignment rightBound right = .ok alignment := by
  unfold Term.usesAlignment at aligned ⊢
  rw [← sameTy]
  split at aligned
  · rename_i polymorphic
    have asksAlike := alike.asksAt typed sameTy
    rw [if_pos polymorphic]
    refine alike.alignUses typed (.here sameTy) (fun path => ⟨?_, ?_⟩) aligned
    · exact variants.usedAt_bound sameTy specializes (sameTy ▸ polymorphic) asksAlike hides
    · exact variants.symm.usedAt_bound sameTy.symm specializes polymorphic
        (fun path => (asksAlike path).symm) hides'
  · rename_i concrete
    rw [if_neg concrete]
    exact aligned

theorem TypedAlike.typeOf_binder (variants : VariantsIn ((leftBound, rightBound) :: scope) left right)
    (alike : TypedAlike ((leftBound, rightBound) :: scope) left right)
    (sameTy : leftBound.ty = rightBound.ty) (isVar : rightBound.isVar = true)
    (hides : (Term.binder kind leftBound left).HidesUsesOf (.binder kind rightBound right))
    (hides' : (Term.binder kind rightBound right).HidesUsesOf (.binder kind leftBound left))
    (typed : (Term.binder kind leftBound left).typeOf = .ok ty) :
    (Term.binder kind rightBound right).typeOf = .ok ty := by
  cases kind with
  | lambda =>
      obtain ⟨-, bodyTy, bodyTyped, alignment, aligned, isTy⟩ := typeOf_lambda_eq_ok_iff.mp typed
      have aligned' :=
        alike.usesAlignment variants sameTy (Or.inl rfl) hides hides' bodyTyped aligned
      exact typeOf_lambda_eq_ok_iff.mpr
        ⟨isVar, bodyTy, alike.typeOf bodyTyped, alignment, aligned', sameTy ▸ isTy⟩
  | iota =>
      obtain ⟨-, ⟨bodyTy, bodyTyped, fits⟩, alignment, aligned, isTy⟩ := typeOf_iota_eq_ok_iff.mp typed
      have aligned' :=
        alike.usesAlignment variants sameTy (Or.inr rfl) hides hides' bodyTyped aligned
      exact typeOf_iota_eq_ok_iff.mpr
        ⟨isVar, ⟨bodyTy, alike.typeOf bodyTyped, fits⟩, alignment, aligned', sameTy ▸ isTy⟩
  | existential | universal =>
      rw [typeOf_quantifier_eq_ok_iff (by simp)] at typed ⊢
      obtain ⟨-, ⟨bodyTy, bodyTyped, fits⟩, isTruth⟩ := typed
      exact ⟨isVar, ⟨bodyTy, alike.typeOf bodyTyped, fits⟩, isTruth⟩

theorem TypedAlike.alignUses_binder
    (variants : VariantsIn ((leftBound, rightBound) :: scope) left right)
    (alike : TypedAlike ((leftBound, rightBound) :: scope) left right)
    (typed : (Term.binder kind leftBound left).typeOf = .ok ty)
    (typed' : (Term.binder kind rightBound right).typeOf = .ok ty)
    (corresponds : Ident.Corresponds scope id other)
    (used : UsedAlike id other (.binder kind leftBound left) (.binder kind rightBound right))
    (aligned : (Term.binder kind leftBound left).alignUses id alignment = .ok next) :
    (Term.binder kind rightBound right).alignUses other alignment = .ok next := by
  by_cases unused : ∀ path, ¬ UsedAt id (.binder kind leftBound left) path
  · have unused' := fun path usedAt => unused path ((used path).mpr usedAt)
    rw [alignUses_of_not_usedAt unused typed] at aligned
    rw [alignUses_of_not_usedAt unused' typed', aligned]
  · -- some use is seen in both terms, so neither binder has the name of its variable
    obtain ⟨path, usedAt⟩ := Classical.not_forall_not.mp unused
    have differ := usedAt.exposed.name_ne
    have differ' := ((used path).mp usedAt).exposed.name_ne
    have apart : id ≠ leftBound := fun same => differ (same ▸ rfl)
    have apart' : other ≠ rightBound := fun same => differ' (same ▸ rfl)
    have below : Ident.Corresponds ((leftBound, rightBound) :: scope) id other :=
      .there apart apart' corresponds
    obtain ⟨bodyTy, bodyTyped⟩ := exists_typeOf_of_mem_parts typed (List.mem_singleton_self left)
    have inBody : UsedAlike id other left right :=
      used.below 0 rfl rfl (List.forall_mem_singleton.mpr differ) (List.forall_mem_singleton.mpr differ')
    rw [Term.alignUses_binder, if_neg differ, bind_eq_ok_iff] at aligned
    rw [Term.alignUses_binder, if_neg differ', bind_eq_ok_iff, variants.constrainUse_eq below]
    obtain ⟨constrained, isUse, aligned⟩ := aligned
    exact ⟨constrained, isUse, alike.alignUses bodyTyped below inBody aligned⟩

theorem TypedAlike.binder (variants : VariantsIn ((leftBound, rightBound) :: scope) left right)
    (alike : TypedAlike ((leftBound, rightBound) :: scope) left right)
    (sameTy : leftBound.ty = rightBound.ty) (isVar : rightBound.isVar = true)
    (hides : (Term.binder kind leftBound left).HidesUsesOf (.binder kind rightBound right))
    (hides' : (Term.binder kind rightBound right).HidesUsesOf (.binder kind leftBound left)) :
    TypedAlike scope (.binder kind leftBound left) (.binder kind rightBound right) where
  typeOf typed := alike.typeOf_binder variants sameTy isVar hides hides' typed
  asksAt typed _ _ sameTys := by
    obtain ⟨bodyTy, bodyTyped⟩ := exists_typeOf_of_mem_parts typed (List.mem_singleton_self left)
    exact asksAt_eq_of_parts (fun _ => rfl) (.cons (alike.asksAt bodyTyped sameTys) .nil)
  alignUses typed _ _ corresponds used _ _ aligned :=
    alike.alignUses_binder variants typed
      (alike.typeOf_binder variants sameTy isVar hides hides' typed) corresponds used aligned

end Binder

theorem VariantsIn.typedAlike (variants : VariantsIn scope left right)
    (bindsVars : ∀ id ∈ right.boundVariables, id.isVar = true) (hides : left.HidesUsesOf right)
    (hides' : right.HidesUsesOf left) : TypedAlike scope left right := by
  -- an abstraction is typed by the uses in its body, and a use by the type of what stands next to it,
  -- so one induction gives both
  induction variants with
  | ident corresponds => exact .ident corresponds
  | binder kind sameTy body bodyIH =>
      obtain ⟨isVar, bodyBindsVars⟩ := List.forall_mem_cons.mp bindsVars
      have bodyAlike := bodyIH bodyBindsVars (hides.inPart 0 rfl rfl) (hides'.inPart 0 rfl rfl)
      exact bodyAlike.binder body sameTy isVar hides hides'
  | not operand operandIH =>
      exact .not operand
        (operandIH bindsVars (hides.inPart 0 rfl rfl) (hides'.inPart 0 rfl rfl))
  | binary connective first second firstIH secondIH =>
      obtain ⟨firstBindsVars, secondBindsVars⟩ := List.forall_mem_append.mp bindsVars
      exact .binary connective first second
        (firstIH firstBindsVars (hides.inPart 0 rfl rfl) (hides'.inPart 0 rfl rfl))
        (secondIH secondBindsVars (hides.inPart 1 rfl rfl) (hides'.inPart 1 rfl rfl))
  | equal first second firstIH secondIH =>
      obtain ⟨firstBindsVars, secondBindsVars⟩ := List.forall_mem_append.mp bindsVars
      exact .equal first second
        (firstIH firstBindsVars (hides.inPart 0 rfl rfl) (hides'.inPart 0 rfl rfl))
        (secondIH secondBindsVars (hides.inPart 1 rfl rfl) (hides'.inPart 1 rfl rfl))
  | app function argument functionIH argumentIH =>
      obtain ⟨functionBindsVars, argumentBindsVars⟩ := List.forall_mem_append.mp bindsVars
      exact .app function argument
        (functionIH functionBindsVars (hides.inPart 0 rfl rfl) (hides'.inPart 0 rfl rfl))
        (argumentIH argumentBindsVars (hides.inPart 1 rfl rfl) (hides'.inPart 1 rfl rfl))

/-- Alphabetic variants have the same type if neither hides a use of a variable from the binder that is
specialized to it which the other one shows. -/
theorem typeOf_eq_ok_iff_of_alphabeticVariants (variants : AlphabeticVariants left right)
    (leftBindsVars : ∀ id ∈ left.boundVariables, id.isVar = true)
    (rightBindsVars : ∀ id ∈ right.boundVariables, id.isVar = true)
    (leftHides : ∀ outer inner, left.HidesUse outer inner → right.Hides outer inner)
    (rightHides : ∀ outer inner, right.HidesUse outer inner → left.Hides outer inner) (ty : Ty) :
    left.typeOf = .ok ty ↔ right.typeOf = .ok ty := by
  have forward := variants.variantsIn.typedAlike rightBindsVars rightHides leftHides
  have backward := variants.symm.variantsIn.typedAlike leftBindsVars leftHides rightHides
  exact ⟨forward.typeOf, backward.typeOf⟩

/-- In `λx[∃x[Happy(x)] ∧ ∃x[Q(x)(x)]]` the outer variable is of type `'a`, and both inner binders, over a
variable of type `e`, hide an occurrence of it.  If the second one is over `y` it hides none, but its
occurrence is not asked for anything, since the domain of `Q` is of type `'b`. -/
theorem typeOf_eq_ok_iff_of_common_hidden_use :
    let x (ty : Ty) : Ident := ⟨.var, "x", ty⟩
    let y : Ident := ⟨.var, "y", .entity⟩
    let happy := Term.ident ⟨.const, "Happy", .predicate⟩
    let q := Term.ident ⟨.const, "Q", .fn (.var 'b') .predicate⟩
    let use := Term.binder .existential (x .entity) (.app happy (.ident (x (.var 'a'))))
    let related (id : Ident) := Term.app (.app q (.ident (x (.var 'a')))) (.ident id)
    let first := lambda (x (.var 'a'))
      (.binary .and use (.binder .existential (x .entity) (related (x .entity))))
    let second := lambda (x (.var 'a')) (.binary .and use (.binder .existential y (related y)))
    AlphabeticVariants first second ∧ first.HidesUse [] [0, 0, 1] ∧ first.Hides [] [1, 0, 0, 1] ∧
      ¬ second.Hides [] [1, 0, 0, 1] ∧ first.typeOf = .ok (.fn (.var 'a') .truth) ∧
      second.typeOf = .ok (.fn (.var 'a') .truth) := by
  intro x y happy q use related first second
  have variants : AlphabeticVariants first second := by decide
  let body := Term.binary .and use (.binder .existential (x .entity) (related (x .entity)))
  let body' := Term.binary .and use (.binder .existential y (related y))
  have leftHides : second.HidesUsesOf first := by
    intro outer inner hides
    obtain ⟨rfl, member, hidden, asked⟩ := hidesUse_outermost (by decide) hides
    have here : ∀ path ∈ body.paths, HiddenAt .lambda (x (.var 'a')) body path →
        body.asksAt (x (.var 'a')) path = true → HiddenAt .lambda (x (.var 'a')) body' path := by
      decide
    exact hides_nil.mpr (here inner member hidden asked)
  have rightHides : first.HidesUsesOf second := by
    intro outer inner hides
    obtain ⟨rfl, member, hidden, asked⟩ := hidesUse_outermost (by decide) hides
    have here : ∀ path ∈ body'.paths, HiddenAt .lambda (x (.var 'a')) body' path →
        HiddenAt .lambda (x (.var 'a')) body path := by
      decide
    exact hides_nil.mpr (here inner member hidden)
  have typed : first.typeOf = .ok (.fn (.var 'a') .truth) := by cbv
  have alike :=
    typeOf_eq_ok_iff_of_alphabeticVariants variants (by decide) (by decide) leftHides rightHides
  exact ⟨variants, hidesUse_nil.mpr (by decide), hides_nil.mpr (by decide),
    fun hides => absurd (hides_nil.mp hides) (by decide), typed, (alike _).mp typed⟩

/-- In `λx[λx[Happy(x)]]` the occurrence is that of the outer variable, of type `'a`, and the inner binder,
over a variable of type `e`, hides it.  In `λx[λy[Happy(x)]]` it is not hidden. -/
theorem typeOf_alphabeticVariants_ne :
    let x (ty : Ty) : Ident := ⟨.var, "x", ty⟩
    let y : Ident := ⟨.var, "y", .entity⟩
    let use := Term.app (.ident ⟨.const, "Happy", .predicate⟩) (.ident (x (.var 'a')))
    let first := lambda (x (.var 'a')) (lambda (x .entity) use)
    let second := lambda (x (.var 'a')) (lambda y use)
    AlphabeticVariants first second ∧ (∀ id ∈ first.boundVariables, id.isVar = true) ∧
      (∀ id ∈ second.boundVariables, id.isVar = true) ∧
      first.typeOf = .ok (.fn (.var 'a') .predicate) ∧
      second.typeOf = .ok (.fn .entity .predicate) := by
  intro x y use first second
  refine ⟨by decide, by decide, by decide, by cbv, by cbv⟩

end Variants

end Denotation.Term
