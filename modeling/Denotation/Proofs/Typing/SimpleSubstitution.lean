import Denotation.Term.Substitution
import Denotation.Term.Path
import Denotation.Proofs.Typing.Simple

/-!
# Exchanging parts of a simply typed term

A part of a simply typed term can be exchanged for any other term of the same type, be it a subterm
at one path or the occurrences of a variable.  The variants that substitution makes of bound
variables keep their types, so they do not show in any type.
-/

namespace Denotation.Term

/-- The type of the bound variable and that of the body decide on the type of a binder. -/
theorem SimplyTyped.under_binder {kind : BinderKind} {bound : Ident} {body : Term} {ty : Ty}
    (typed : SimplyTyped (.binder kind bound body) ty) :
    ∃ bodyTy, SimplyTyped body bodyTy ∧
      ∀ (bound' : Ident) (body' : Term), bound'.isVar = true → bound'.ty = bound.ty →
        SimplyTyped body' bodyTy → SimplyTyped (.binder kind bound' body') ty := by
  cases typed with
  | lambda _ concrete bodyTyped =>
      refine ⟨_, bodyTyped, fun bound' body' isVar same bodyTyped' => ?_⟩
      rw [← same] at concrete ⊢
      exact .lambda isVar concrete bodyTyped'
  | existential _ concrete bodyTyped =>
      refine ⟨_, bodyTyped, fun bound' body' isVar same bodyTyped' => ?_⟩
      exact .existential isVar (same ▸ concrete) bodyTyped'
  | universal _ concrete bodyTyped =>
      refine ⟨_, bodyTyped, fun bound' body' isVar same bodyTyped' => ?_⟩
      exact .universal isVar (same ▸ concrete) bodyTyped'
  | iota _ concrete bodyTyped =>
      refine ⟨_, bodyTyped, fun bound' body' isVar same bodyTyped' => ?_⟩
      rw [← same] at concrete ⊢
      exact .iota isVar concrete bodyTyped'

theorem SimplyTyped.isVar_bound {kind : BinderKind} {bound : Ident} {body : Term} {ty : Ty}
    (typed : SimplyTyped (.binder kind bound body) ty) : bound.isVar = true := by
  cases typed <;> assumption

theorem SimplyTyped.isVar_of_mem_boundVariables {term : Term} {ty : Ty}
    (typed : SimplyTyped term ty) : ∀ id ∈ term.boundVariables, id.isVar = true := by
  induction typed with
  | ident _ _ => simp [boundVariables]
  | lambda isVar _ _ bodyIH => exact List.forall_mem_cons.mpr ⟨isVar, bodyIH⟩
  | existential isVar _ _ bodyIH => exact List.forall_mem_cons.mpr ⟨isVar, bodyIH⟩
  | universal isVar _ _ bodyIH => exact List.forall_mem_cons.mpr ⟨isVar, bodyIH⟩
  | iota isVar _ _ bodyIH => exact List.forall_mem_cons.mpr ⟨isVar, bodyIH⟩
  | not _ operandIH => exact operandIH
  | binary _ _ leftIH rightIH => exact List.forall_mem_append.mpr ⟨leftIH, rightIH⟩
  | equal _ _ leftIH rightIH => exact List.forall_mem_append.mpr ⟨leftIH, rightIH⟩
  | app _ _ functionIH argumentIH => exact List.forall_mem_append.mpr ⟨functionIH, argumentIH⟩

theorem SimplyTyped.rename {term : Term} {ty : Ty} {old new : Ident} (typed : SimplyTyped term ty)
    (same : new.ty = old.ty) : SimplyTyped (term.rename old new) ty := by
  induction term generalizing ty with
  | ident id =>
      simp only [Term.rename]
      split
      · rename_i isOld
        subst isOld
        cases typed with
        | ident _ concrete =>
            rw [← same] at concrete ⊢
            exact .ident new concrete
      · exact typed
  | binder kind bound body bodyIH =>
      simp only [Term.rename]
      split
      · exact typed
      · obtain ⟨bodyTy, bodyTyped, rebind⟩ := typed.under_binder
        exact rebind bound _ typed.isVar_bound rfl (bodyIH bodyTyped)
  | not operand operandIH =>
      cases typed with
      | not operandTyped => exact .not (operandIH operandTyped)
  | binary connective left right leftIH rightIH =>
      cases typed with
      | binary leftTyped rightTyped => exact .binary (leftIH leftTyped) (rightIH rightTyped)
  | equal left right leftIH rightIH =>
      cases typed with
      | equal leftTyped rightTyped => exact .equal (leftIH leftTyped) (rightIH rightTyped)
  | app function argument functionIH argumentIH =>
      cases typed with
      | app functionTyped argumentTyped =>
          exact .app (functionIH functionTyped) (argumentIH argumentTyped)

theorem SimplyTyped.substitute {term replacement : Term} {ty : Ty} {target : Ident}
    (typed : SimplyTyped term ty) (replaced : SimplyTyped replacement target.ty)
    (log : List Renaming) : SimplyTyped (term.substitute target replacement log).term ty := by
  induction term, log using substitute.induct target replacement generalizing ty with
  | case1 log id =>
      rw [Term.substitute]
      by_cases same : id = target
      · subst same
        cases typed
        rw [if_pos rfl]
        exact replaced
      · rw [if_neg same]
        exact typed
  | case2 log kind bound body untouched =>
      rw [Term.substitute, if_pos untouched]
      exact typed
  | @case3 log kind bound body passes clash variant bodyIH =>
      obtain ⟨bodyTy, bodyTyped, rebind⟩ := typed.under_binder
      rw [Term.substitute, if_neg passes, if_pos clash]
      exact rebind variant _ rfl rfl (bodyIH (bodyTyped.rename rfl))
  | case4 log kind bound body passes noClash bodyIH =>
      obtain ⟨bodyTy, bodyTyped, rebind⟩ := typed.under_binder
      rw [Term.substitute, if_neg passes, if_neg noClash]
      exact rebind bound _ typed.isVar_bound rfl (bodyIH bodyTyped)
  | case5 log operand operandIH =>
      cases typed with
      | not operandTyped =>
          rw [Term.substitute]
          exact .not (operandIH operandTyped)
  | @case6 log connective left right first leftIH rightIH =>
      cases typed with
      | binary leftTyped rightTyped =>
          rw [Term.substitute]
          exact .binary (leftIH leftTyped) (rightIH rightTyped)
  | @case7 log left right first leftIH rightIH =>
      cases typed with
      | equal leftTyped rightTyped =>
          rw [Term.substitute]
          exact .equal (leftIH leftTyped) (rightIH rightTyped)
  | @case8 log function argument first functionIH argumentIH =>
      cases typed with
      | app functionTyped argumentTyped =>
          rw [Term.substitute]
          exact .app (functionIH functionTyped) (argumentIH argumentTyped)

theorem SimplyTyped.part {term part : Term} {ty : Ty} {number : Nat} (typed : SimplyTyped term ty)
    (isPart : term.parts[number]? = some part) :
    ∃ partTy, SimplyTyped part partTy ∧
      ∀ part', SimplyTyped part' partTy → SimplyTyped (term.putPart number part') ty := by
  cases term with
  | ident _ => simp [parts] at isPart
  | binder kind bound body =>
      obtain ⟨bodyTy, bodyTyped, rebind⟩ := typed.under_binder
      rcases number with _ | number <;> simp [parts] at isPart
      subst isPart
      exact ⟨bodyTy, bodyTyped, fun body' typed' => rebind bound body' typed.isVar_bound rfl typed'⟩
  | not operand =>
      cases typed with
      | not operandTyped =>
          rcases number with _ | number <;> simp [parts] at isPart
          subst isPart
          exact ⟨_, operandTyped, fun _ typed' => .not typed'⟩
  | binary connective left right =>
      cases typed with
      | binary leftTyped rightTyped =>
          rcases number with _ | _ | number <;> simp [parts] at isPart <;> subst isPart
          · exact ⟨_, leftTyped, fun _ typed' => .binary typed' rightTyped⟩
          · exact ⟨_, rightTyped, fun _ typed' => .binary leftTyped typed'⟩
  | equal left right =>
      cases typed with
      | equal leftTyped rightTyped =>
          rcases number with _ | _ | number <;> simp [parts] at isPart <;> subst isPart
          · exact ⟨_, leftTyped, fun _ typed' => .equal typed' rightTyped⟩
          · exact ⟨_, rightTyped, fun _ typed' => .equal leftTyped typed'⟩
  | app function argument =>
      cases typed with
      | app functionTyped argumentTyped =>
          rcases number with _ | _ | number <;> simp [parts] at isPart <;> subst isPart
          · exact ⟨_, functionTyped, fun _ typed' => .app typed' argumentTyped⟩
          · exact ⟨_, argumentTyped, fun _ typed' => .app functionTyped typed'⟩

theorem SimplyTyped.subterm {term subterm : Term} {ty : Ty} {path : Path}
    (typed : SimplyTyped term ty) (found : term.at? path = some subterm) :
    ∃ subtermTy, SimplyTyped subterm subtermTy ∧
      ∀ subterm', SimplyTyped subterm' subtermTy → SimplyTyped (term.putAt subterm' path) ty := by
  induction path generalizing term ty with
  | nil =>
      cases found
      exact ⟨ty, typed, fun _ typed' => typed'⟩
  | cons number rest induction =>
      rw [at?_cons] at found
      obtain ⟨part, isPart, below⟩ := Option.bind_eq_some_iff.mp found
      obtain ⟨partTy, partTyped, rebuild⟩ := typed.part isPart
      obtain ⟨subtermTy, subtermTyped, exchange⟩ := induction partTyped below
      refine ⟨subtermTy, subtermTyped, fun subterm' typed' => ?_⟩
      simp only [putAt, isPart]
      exact rebuild _ (exchange subterm' typed')

end Denotation.Term
