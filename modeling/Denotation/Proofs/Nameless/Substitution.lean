import Denotation.Term.Substitution
import Denotation.Proofs.Nameless.Instantiation

/-!
# Substitution in nameless form

In nameless form there are no names to clash, so replacing a variable is a matter of distances.
Capture-avoiding substitution on terms agrees with this, whatever alphabetic variants it makes.

The scope of a subterm is split in two throughout: the `outer` binders stand around the whole
substitution, and the `inner` ones are those that it has passed.  None of the binders passed has the
name of a free variable of the replacement, because those that had it were renamed.
-/

namespace Denotation.Term

theorem namelessIn_ident_of_mem {id : Ident} {inner : List Ident} (member : id ∈ inner) :
    ∃ distance, distance < inner.length ∧
      ∀ outer, (Term.ident id).namelessIn (inner ++ outer) = .bound distance := by
  induction inner with
  | nil => simp at member
  | cons head rest restIH =>
      by_cases same : head = id
      · subst same
        exact ⟨0, by simp, fun outer => by simp [namelessIn, List.idxOf?_cons]⟩
      · have later : id ∈ rest := (List.mem_cons.mp member).resolve_left (Ne.symm same)
        obtain ⟨distance, bounded, found⟩ := restIH later
        refine ⟨distance + 1, by simpa using bounded, fun outer => ?_⟩
        have below := found outer
        simp only [namelessIn, List.cons_append, List.idxOf?_cons, beq_iff_eq, if_neg same] at below ⊢
        cases place : (rest ++ outer).idxOf? id with
        | none => simp [place] at below
        | some index => simpa [place] using below

theorem namelessIn_ident_of_not_mem_append {id : Ident} {inner : List Ident} (absent : id ∉ inner)
    (outer : List Ident) :
    (Term.ident id).namelessIn (inner ++ outer) =
      ((Term.ident id).namelessIn outer).lift inner.length 0 := by
  induction inner with
  | nil => rw [List.nil_append, List.length_nil, Nameless.lift_zero]
  | cons head rest restIH =>
      simp only [List.mem_cons, not_or] at absent
      have below := restIH absent.2
      have differ : ¬ head = id := Ne.symm absent.1
      simp only [namelessIn, List.cons_append, List.idxOf?_cons, beq_iff_eq, if_neg differ] at below ⊢
      cases outerPlace : outer.idxOf? id <;> cases place : (rest ++ outer).idxOf? id <;>
        simp [outerPlace, place, Nameless.lift] at below ⊢
      omega

/-- Binders in scope that bind nothing of the term only make room.  They bind nothing if their
variables are not free in the term, and also where a binder further inside hides them. -/
theorem namelessIn_of_not_free (term : Term) (inner middle outer : List Ident)
    (absent : ∀ id ∈ middle, id ∉ inner → id.isVar = true ∧ id ∉ term.freeVariables) :
    term.namelessIn (inner ++ (middle ++ outer)) =
      (term.namelessIn (inner ++ outer)).lift middle.length inner.length := by
  induction term generalizing inner with
  | ident id =>
      by_cases within : id ∈ inner
      · obtain ⟨distance, bounded, found⟩ := namelessIn_ident_of_mem within
        rw [found, found, Nameless.lift, if_pos bounded]
      · have beyond : id ∉ middle := by
          intro member
          obtain ⟨isVar, notFree⟩ := absent id member within
          simp [freeVariables, isVar] at notFree
        have passed := Nameless.lift_lift_of_within ((Term.ident id).namelessIn outer)
          inner.length middle.length (Nat.zero_le inner.length) (by omega)
        rw [namelessIn_ident_of_not_mem_append within, namelessIn_ident_of_not_mem_append within,
          namelessIn_ident_of_not_mem_append beyond, passed,
          Nameless.lift_lift_of_within _ _ _ (Nat.le_refl 0) (Nat.zero_le _), Nat.add_comm]
  | binder kind bound body bodyIH =>
      have absentBelow : ∀ id ∈ middle, id ∉ bound :: inner →
          id.isVar = true ∧ id ∉ body.freeVariables := by
        intro id member notInner
        simp only [List.mem_cons, not_or] at notInner
        obtain ⟨isVar, notFree⟩ := absent id member notInner.2
        exact ⟨isVar, fun free => notFree (mem_freeVariables_binder.mpr ⟨free, notInner.1⟩)⟩
      have below := bodyIH (bound :: inner) absentBelow
      simpa only [namelessIn, Nameless.lift, Nameless.binder.injEq, true_and, List.cons_append,
        List.length_cons] using below
  | not _ operandIH => simp only [namelessIn, Nameless.lift, operandIH inner absent]
  | binary _ _ _ leftIH rightIH =>
      simp only [freeVariables, List.mem_append, not_or] at absent
      have leftBelow := leftIH inner fun id member apart =>
        ⟨(absent id member apart).1, (absent id member apart).2.1⟩
      have rightBelow := rightIH inner fun id member apart =>
        ⟨(absent id member apart).1, (absent id member apart).2.2⟩
      simp only [namelessIn, Nameless.lift, leftBelow, rightBelow]
  | equal _ _ leftIH rightIH =>
      simp only [freeVariables, List.mem_append, not_or] at absent
      have leftBelow := leftIH inner fun id member apart =>
        ⟨(absent id member apart).1, (absent id member apart).2.1⟩
      have rightBelow := rightIH inner fun id member apart =>
        ⟨(absent id member apart).1, (absent id member apart).2.2⟩
      simp only [namelessIn, Nameless.lift, leftBelow, rightBelow]
  | app _ _ functionIH argumentIH =>
      simp only [freeVariables, List.mem_append, not_or] at absent
      have functionBelow := functionIH inner fun id member apart =>
        ⟨(absent id member apart).1, (absent id member apart).2.1⟩
      have argumentBelow := argumentIH inner fun id member apart =>
        ⟨(absent id member apart).1, (absent id member apart).2.2⟩
      simp only [namelessIn, Nameless.lift, functionBelow, argumentBelow]

/-- Which of two variables a binder binds makes no difference to a term in which neither is
free. -/
theorem namelessIn_exchange (term : Term) {old new : Ident} (inner outer : List Ident)
    (oldAbsent : old ∉ inner → old.isVar = true ∧ old ∉ term.freeVariables)
    (newAbsent : new ∉ inner → new.isVar = true ∧ new ∉ term.freeVariables) :
    term.namelessIn (inner ++ new :: outer) = term.namelessIn (inner ++ old :: outer) := by
  have newRoom := namelessIn_of_not_free term inner [new] outer (by simpa using newAbsent)
  have oldRoom := namelessIn_of_not_free term inner [old] outer (by simpa using oldAbsent)
  simpa using newRoom.trans oldRoom.symm

theorem namelessIn_rename (term : Term) {old new : Ident} (inner outer : List Ident)
    (oldVar : old.isVar = true) (newVar : new.isVar = true) (fresh : new.name ∉ term.names)
    (oldOutside : old ∉ inner) (newOutside : new ∉ inner) :
    (term.rename old new).namelessIn (inner ++ new :: outer) =
      term.namelessIn (inner ++ old :: outer) := by
  induction term generalizing inner with
  | ident id =>
      simp only [rename]
      split
      · rename_i same
        subst same
        rw [namelessIn_ident_of_not_mem_append newOutside,
          namelessIn_ident_of_not_mem_append oldOutside]
        simp [namelessIn, List.idxOf?_cons]
      · rename_i differ
        have differNew : id ≠ new := by
          intro same
          simp [names, same] at fresh
        refine namelessIn_exchange _ inner outer (fun _ => ⟨oldVar, ?_⟩) fun _ => ⟨newVar, ?_⟩
        · cases kind : id.isVar <;> simp [freeVariables, kind, Ne.symm differ]
        · cases kind : id.isVar <;> simp [freeVariables, kind, Ne.symm differNew]
  | binder kind bound body bodyIH =>
      simp only [names, List.mem_cons, not_or] at fresh
      have differNew : new ≠ bound := fun same => fresh.1 (congrArg Ident.name same)
      have newNotFree : new ∉ (Term.binder kind bound body).freeVariables := fun free =>
        fresh.2 (name_mem_names_of_mem_freeVariables (mem_freeVariables_binder.mp free).1)
      simp only [rename]
      split
      · rename_i untouched
        have oldNotFree : old ∉ (Term.binder kind bound body).freeVariables := by
          intro free
          obtain ⟨below, differ⟩ := mem_freeVariables_binder.mp free
          rcases untouched with same | notFree
          · exact differ same.symm
          · simp [hasFree, below] at notFree
        exact namelessIn_exchange _ inner outer (fun _ => ⟨oldVar, oldNotFree⟩)
          fun _ => ⟨newVar, newNotFree⟩
      · rename_i passes
        simp only [not_or] at passes
        have below := bodyIH (bound :: inner) fresh.2
          (by simpa [oldOutside] using Ne.symm passes.1) (by simpa [newOutside] using differNew)
        simpa only [namelessIn, Nameless.binder.injEq, true_and, List.cons_append] using below
  | not _ operandIH => simp only [rename, namelessIn, operandIH inner fresh oldOutside newOutside]
  | binary _ _ _ leftIH rightIH =>
      simp only [names, List.mem_append, not_or] at fresh
      simp only [rename, namelessIn, leftIH inner fresh.1 oldOutside newOutside,
        rightIH inner fresh.2 oldOutside newOutside]
  | equal _ _ leftIH rightIH =>
      simp only [names, List.mem_append, not_or] at fresh
      simp only [rename, namelessIn, leftIH inner fresh.1 oldOutside newOutside,
        rightIH inner fresh.2 oldOutside newOutside]
  | app _ _ functionIH argumentIH =>
      simp only [names, List.mem_append, not_or] at fresh
      simp only [rename, namelessIn, functionIH inner fresh.1 oldOutside newOutside,
        argumentIH inner fresh.2 oldOutside newOutside]

theorem boundVariables_rename (term : Term) (old new : Ident) :
    (term.rename old new).boundVariables = term.boundVariables := by
  induction term with
  | ident id => simp only [rename]; split <;> rfl
  | binder kind bound body bodyIH =>
      simp only [rename]
      split
      · rfl
      · simp only [boundVariables, bodyIH]
  | not _ operandIH => simp only [rename, boundVariables, operandIH]
  | binary _ _ _ leftIH rightIH => simp only [rename, boundVariables, leftIH, rightIH]
  | equal _ _ leftIH rightIH => simp only [rename, boundVariables, leftIH, rightIH]
  | app _ _ functionIH argumentIH => simp only [rename, boundVariables, functionIH, argumentIH]

theorem freeNames_subset_names {name : String} {term : Term} (free : name ∈ term.freeNames) :
    name ∈ term.names := by
  obtain ⟨id, idFree, rfl⟩ := List.mem_map.mp free
  exact name_mem_names_of_mem_freeVariables idFree

theorem alphabeticVariant_fresh (bound target : Ident) (body replacement : Term) :
    (alphabeticVariant bound target body replacement).name ∉ body.names ∧
      (alphabeticVariant bound target body replacement).name ∉ replacement.names ∧
      (alphabeticVariant bound target body replacement).name ≠ target.name := by
  have absent := freshName_not_mem bound.name
    (body.names ++ replacement.names ++ [target.name, bound.name])
  simp only [List.mem_append, List.mem_cons, not_or] at absent
  exact ⟨absent.1.1, absent.1.2, absent.2.1⟩

/-- Where the target is not free, the binder of the target only makes room. -/
theorem instantiate_namelessIn_of_not_free {term : Term} {target : Ident} (inner outer : List Ident)
    (isVar : target.isVar = true) (notFree : target ∉ term.freeVariables) (argument : Nameless) :
    (term.namelessIn (inner ++ target :: outer)).instantiate inner.length argument =
      term.namelessIn (inner ++ outer) := by
  have room := namelessIn_of_not_free term inner [target] outer
    (by simpa using fun _ => ⟨isVar, notFree⟩)
  have cancelled := Nameless.instantiate_lift_of_within (term.namelessIn (inner ++ outer)) argument
    0 (Nat.le_refl inner.length) (Nat.le_refl _)
  simp only [List.cons_append, List.nil_append, List.length_singleton] at room
  rw [room, cancelled, Nameless.lift_zero]

/-- Substitution for a variable is instantiation of the distance that the variable would have if it
were bound just outside of the binders passed. -/
theorem namelessIn_substitute {target : Ident} (term replacement : Term) (log : List Renaming)
    (inner outer : List Ident) (isVar : target.isVar = true)
    (binders : ∀ id ∈ term.boundVariables, id.isVar = true) (outside : target ∉ inner)
    (harmless : ∀ id ∈ inner, id.isVar = true ∧ id.name ∉ replacement.freeNames) :
    (term.substitute target replacement log).term.namelessIn (inner ++ outer) =
      (term.namelessIn (inner ++ target :: outer)).instantiate inner.length
        (replacement.namelessIn outer) := by
  induction term, log using substitute.induct target replacement generalizing inner with
  | case1 log id =>
      simp only [substitute]
      split
      · rename_i same
        subst same
        have room := namelessIn_of_not_free replacement [] inner outer
          fun other member _ => ⟨(harmless other member).1, fun free =>
            (harmless other member).2 (List.mem_map_of_mem free)⟩
        simp only [List.nil_append, List.length_nil] at room
        rw [room, namelessIn_ident_of_not_mem_append outside]
        simp [namelessIn, List.idxOf?_cons, Nameless.lift, Nameless.instantiate]
      · rename_i differ
        refine (instantiate_namelessIn_of_not_free inner outer isVar ?_ _).symm
        cases kind : id.isVar <;> simp [freeVariables, kind, Ne.symm differ]
  | case2 log kind bound body untouched =>
      rw [substitute, if_pos untouched]
      refine (instantiate_namelessIn_of_not_free inner outer isVar ?_ _).symm
      intro free
      obtain ⟨below, differ⟩ := mem_freeVariables_binder.mp free
      rcases untouched with same | notFree
      · exact differ same.symm
      · simp [hasFree, below] at notFree
  | case3 log kind bound body passes clash variant bodyIH =>
      simp only [boundVariables, List.mem_cons, forall_eq_or_imp] at binders
      obtain ⟨unusedBelow, unusedInside, apart⟩ :=
        alphabeticVariant_fresh bound target body replacement
      have variantOutside : target ∉ variant :: inner := by
        simp only [List.mem_cons, not_or]
        exact ⟨fun same => apart (congrArg Ident.name same).symm, outside⟩
      have variantHarmless : ∀ id ∈ variant :: inner,
          id.isVar = true ∧ id.name ∉ replacement.freeNames := by
        simp only [List.mem_cons, forall_eq_or_imp]
        exact ⟨⟨rfl, fun free => unusedInside (freeNames_subset_names free)⟩, harmless⟩
      have below := bodyIH (variant :: inner) (by simpa only [boundVariables_rename] using binders.2)
        variantOutside variantHarmless
      have renamed : (body.rename bound variant).namelessIn (variant :: (inner ++ target :: outer)) =
          body.namelessIn (bound :: (inner ++ target :: outer)) :=
        namelessIn_rename body [] (inner ++ target :: outer) binders.1 rfl unusedBelow
          List.not_mem_nil List.not_mem_nil
      simp only [List.cons_append, List.length_cons] at below
      rw [substitute, if_neg passes, if_pos clash]
      simp only [namelessIn, Nameless.instantiate, ← renamed, ← below]
      rfl
  | case4 log kind bound body passes noClash bodyIH =>
      simp only [boundVariables, List.mem_cons, forall_eq_or_imp] at binders
      have differ : target ≠ bound := fun same => passes (Or.inl same.symm)
      have boundOutside : target ∉ bound :: inner := by
        simp only [List.mem_cons, not_or]
        exact ⟨differ, outside⟩
      have boundHarmless : ∀ id ∈ bound :: inner,
          id.isVar = true ∧ id.name ∉ replacement.freeNames := by
        simp only [List.mem_cons, forall_eq_or_imp]
        exact ⟨⟨binders.1, noClash⟩, harmless⟩
      have below := bodyIH (bound :: inner) binders.2 boundOutside boundHarmless
      simp only [List.cons_append, List.length_cons] at below
      rw [substitute, if_neg passes, if_neg noClash]
      simp only [namelessIn, Nameless.instantiate, below]
  | case5 log operand operandIH =>
      simp only [boundVariables] at binders
      simp only [substitute, namelessIn, Nameless.instantiate,
        operandIH inner binders outside harmless]
  | case6 log connective left right first leftIH rightIH =>
      simp only [boundVariables, List.mem_append, or_imp, forall_and] at binders
      have leftBelow := leftIH inner binders.1 outside harmless
      have rightBelow := rightIH inner binders.2 outside harmless
      simp only [substitute, namelessIn, Nameless.instantiate, ← leftBelow, ← rightBelow]
      rfl
  | case7 log left right first leftIH rightIH =>
      simp only [boundVariables, List.mem_append, or_imp, forall_and] at binders
      have leftBelow := leftIH inner binders.1 outside harmless
      have rightBelow := rightIH inner binders.2 outside harmless
      simp only [substitute, namelessIn, Nameless.instantiate, ← leftBelow, ← rightBelow]
      rfl
  | case8 log function argument first functionIH argumentIH =>
      simp only [boundVariables, List.mem_append, or_imp, forall_and] at binders
      have functionBelow := functionIH inner binders.1 outside harmless
      have argumentBelow := argumentIH inner binders.2 outside harmless
      simp only [substitute, namelessIn, Nameless.instantiate, ← functionBelow, ← argumentBelow]
      rfl

/-- A variable that stays free can as well be taken for one that is bound outside of everything. -/
theorem instantiate_namelessIn_outermost (term : Term) (target : Ident) (argument : Nameless)
    (inner : List Ident) :
    (term.namelessIn (inner ++ [target])).instantiate inner.length argument =
      (term.namelessIn inner).replace target argument inner.length := by
  induction term generalizing inner with
  | ident id =>
      by_cases within : id ∈ inner
      · obtain ⟨distance, bounded, found⟩ := namelessIn_ident_of_mem within
        have alone := found []
        rw [List.append_nil] at alone
        rw [found, alone, Nameless.instantiate, if_pos bounded, Nameless.replace]
      · rw [namelessIn_ident_of_not_mem_append within, namelessIn_ident_of_not_mem within]
        by_cases same : id = target
        · simp [same, namelessIn, List.idxOf?_cons, Nameless.lift, Nameless.instantiate,
            Nameless.replace]
        · rw [namelessIn_ident_of_not_mem (by simpa using same)]
          simp [same, Nameless.lift, Nameless.instantiate, Nameless.replace]
  | binder kind bound body bodyIH =>
      have below := bodyIH (bound :: inner)
      simp only [List.cons_append, List.length_cons] at below
      simp only [namelessIn, Nameless.instantiate, Nameless.replace, below]
  | not _ operandIH => simp only [namelessIn, Nameless.instantiate, Nameless.replace, operandIH]
  | binary _ _ _ leftIH rightIH =>
      simp only [namelessIn, Nameless.instantiate, Nameless.replace, leftIH, rightIH]
  | equal _ _ leftIH rightIH =>
      simp only [namelessIn, Nameless.instantiate, Nameless.replace, leftIH, rightIH]
  | app _ _ functionIH argumentIH =>
      simp only [namelessIn, Nameless.instantiate, Nameless.replace, functionIH, argumentIH]

/-- Capture-avoiding substitution replaces exactly the free occurrences of its target, and nothing
that was free or bound before comes to be bound by another binder. -/
theorem nameless_substitute {target : Ident} (term replacement : Term) (log : List Renaming)
    (isVar : target.isVar = true) (binders : ∀ id ∈ term.boundVariables, id.isVar = true) :
    (term.substitute target replacement log).term.nameless =
      term.nameless.replace target replacement.nameless 0 := by
  have substituted := namelessIn_substitute term replacement log [] [] isVar binders (by simp)
    (by simp)
  have outermost := instantiate_namelessIn_outermost term target replacement.nameless []
  exact substituted.trans outermost

/-- Both binders of `λy[λy'[R(x)(y)]]` have to be renamed when `x` is replaced by `f(y)(y')`, and
the variant of the first one must not be that of the second. -/
theorem nameless_substitute_two_variants :
    let x : Ident := ⟨.var, "x", .entity⟩
    let y : Ident := ⟨.var, "y", .entity⟩
    let y' : Ident := ⟨.var, "y'", .entity⟩
    let r : Ident := ⟨.const, "R", .fn .entity .predicate⟩
    let f : Ident := ⟨.const, "f", .fn .entity (.fn .entity .entity)⟩
    let term := lambda y (lambda y' (.app (.app (.ident r) (.ident x)) (.ident y)))
    let replacement := Term.app (.app (.ident f) (.ident y)) (.ident y')
    x.isVar = true ∧ (∀ id ∈ term.boundVariables, id.isVar = true) ∧
      (term.substitute x replacement []).term.nameless =
        .binder .lambda .entity (.binder .lambda .entity
          (.app (.app (.free r) (.app (.app (.free f) (.free y)) (.free y'))) (.bound 1))) := by
  intro x y y' r f term replacement
  have binders : ∀ id ∈ term.boundVariables, id.isVar = true := by decide
  exact ⟨rfl, binders, (nameless_substitute term replacement [] rfl binders).trans rfl⟩

end Denotation.Term
