import Mathlib.Data.List.Forall2
import Denotation.Proofs.Nameless.Substitution
import Denotation.Proofs.Substitution.Clash

/-!
# The renamings of a substitution

A substitution renames a binder exactly if it clashes with the replacement, and logs these renamings in
the order in which the binders are written.  All other binders keep their variables.  A variant is new
for the body of its binder as this stands in the term: a name that an outer renaming has removed from
that body is one of the replacement, which no variant takes.
-/

namespace Denotation.Term

theorem substitute_of_not_free {target : Ident} {term : Term} (isVar : target.isVar = true)
    (absent : target ∉ term.freeVariables) (replacement : Term) (log : List Renaming) :
    term.substitute target replacement log = ⟨term, log⟩ := by
  induction term generalizing log with
  | ident id =>
      have differ : id ≠ target := by
        rintro rfl
        exact absent (mem_freeVariables_ident.mpr ⟨rfl, isVar⟩)
      rw [substitute, if_neg differ]
  | binder kind bound body bodyIH =>
      have untouched : bound = target ∨ ¬ body.hasFree target := by
        refine or_iff_not_imp_left.mpr fun differ free => ?_
        exact absent (mem_freeVariables_binder.mpr ⟨of_decide_eq_true free, fun same => differ same.symm⟩)
      rw [substitute, if_pos untouched]
  | not operand operandIH => rw [substitute, operandIH absent]
  | binary connective left right leftIH rightIH =>
      simp only [freeVariables, List.mem_append, not_or] at absent
      rw [substitute, leftIH absent.1, rightIH absent.2]
  | equal left right leftIH rightIH =>
      simp only [freeVariables, List.mem_append, not_or] at absent
      rw [substitute, leftIH absent.1, rightIH absent.2]
  | app function argument functionIH argumentIH =>
      simp only [freeVariables, List.mem_append, not_or] at absent
      rw [substitute, functionIH absent.1, argumentIH absent.2]

theorem alphabeticVariant_name_ne (bound target : Ident) (body replacement : Term) :
    (alphabeticVariant bound target body replacement).name ≠ bound.name := by
  have absent := freshName_not_mem bound.name
    (body.names ++ replacement.names ++ [target.name, bound.name])
  simp only [List.mem_append, List.mem_cons, not_or] at absent
  exact absent.2.2.1

/-- The binder at the path is renamed in the result, as the entry says, to a variable of the same type
whose name is new. -/
structure RenamesAt (term result : Term) (target : Ident) (replacement : Term) (path : Path)
    (entry : Renaming) : Prop where
  renamed : ∃ kind body body', term.at? path = some (.binder kind entry.bound body) ∧
    result.at? path = some (.binder kind entry.variant body') ∧ entry.variant.name ∉ body.names
  isVar : entry.variant.isVar = true
  sameTy : entry.variant.ty = entry.bound.ty
  apart : entry.variant.name ≠ entry.bound.name
  notTarget : entry.variant.name ≠ target.name
  foreign : entry.variant.name ∉ replacement.names

/-- The binders that do not clash have the same variables in the result. -/
def KeepsOthers (term result : Term) (target : Ident) (names : List String) : Prop :=
  ∀ path kind bound body, term.at? path = some (.binder kind bound body) →
    term.clashesAt target names path = false → ∃ body', result.at? path = some (.binder kind bound body')

/-- The entries are those of the clashing binders, in their order, and all other binders are as they
were. -/
structure RenamesClashes (term result : Term) (target : Ident) (replacement : Term)
    (entries : List Renaming) : Prop where
  logged : List.Forall₂ (RenamesAt term result target replacement)
    (term.clashes target replacement.freeNames) entries
  kept : KeepsOthers term result target replacement.freeNames

/-- The substitution has added the entries of its clashing binders to the log. -/
def LogsClashes (term : Term) (target : Ident) (replacement : Term) (log : List Renaming)
    (substituted : Substituted) : Prop :=
  ∃ entries, substituted.log = log ++ entries ∧
    RenamesClashes term substituted.term target replacement entries

section Renames

variable {term result part part' replacement : Term} {target : Ident} {names : List String}
  {entries : List Renaming}

theorem RenamesAt.inPart {number : Nat} {rest : Path} {entry : Renaming}
    (renames : RenamesAt part part' target replacement rest entry)
    (isPart : term.parts[number]? = some part) (isPart' : result.parts[number]? = some part') :
    RenamesAt term result target replacement (number :: rest) entry := by
  obtain ⟨kind, body, body', found, found', fresh⟩ := renames.renamed
  refine { renames with renamed := ⟨kind, body, body', ?_, ?_, fresh⟩ }
  · rw [at?_cons, isPart, Option.bind_some, found]
  · rw [at?_cons, isPart', Option.bind_some, found']

theorem RenamesClashes.logged_inPart {number : Nat}
    (renames : RenamesClashes part part' target replacement entries)
    (isPart : term.parts[number]? = some part) (isPart' : result.parts[number]? = some part') :
    List.Forall₂ (RenamesAt term result target replacement)
      ((part.clashes target replacement.freeNames).map (number :: ·)) entries :=
  List.forall₂_map_left_iff.mpr (renames.logged.imp fun _ _ renamed => renamed.inPart isPart isPart')

theorem exists_getElem?_of_forall₂ {related : Term → Term → Prop} {parts parts' : List Term} {number : Nat}
    (all : List.Forall₂ related parts parts') (isPart : parts[number]? = some part) :
    ∃ part', parts'[number]? = some part' ∧ related part part' := by
  induction all generalizing number with
  | nil => cases isPart
  | @cons head head' rest rest' headRelated _ restIH =>
      cases number with
      | zero =>
          cases isPart
          exact ⟨head', rfl, headRelated⟩
      | succ number => exact restIH isPart

theorem keepsOthers_of_parts (unbound : target ∉ term.ownBound)
    (root : ∀ kind bound body, term = .binder kind bound body →
      term.clashesAt target names [] = false → ∃ body', result = .binder kind bound body')
    (below : List.Forall₂ (KeepsOthers · · target names) term.parts result.parts) :
    KeepsOthers term result target names := by
  intro path kind bound body found noClash
  cases path with
  | nil =>
      obtain ⟨body', rfl⟩ := root kind bound body (Option.some.inj found) noClash
      exact ⟨body', rfl⟩
  | cons number rest =>
      rw [at?_cons] at found
      obtain ⟨part, isPart, foundBelow⟩ := Option.bind_eq_some_iff.mp found
      obtain ⟨part', isPart', kept⟩ := exists_getElem?_of_forall₂ below isPart
      rw [clashesAt_cons isPart unbound] at noClash
      rw [at?_cons, isPart', Option.bind_some]
      exact kept rest kind bound body foundBelow noClash

/-- Where the target is not free, there is nothing to rename. -/
theorem RenamesClashes.of_not_free (absent : target ∉ term.freeVariables) :
    RenamesClashes term term target replacement [] where
  logged := by
    rw [clashes_of_not_free absent]
    exact .nil
  kept := fun _ _ _ body found _ => ⟨body, found⟩

/-- What is done to a body that has been renamed is as well done to the body as it was. -/
theorem RenamesClashes.of_rename {old new : Ident}
    (renames : RenamesClashes (term.rename old new) result target replacement entries)
    (notOld : target ≠ old) (notNew : target ≠ new) (taken : old.name ∈ replacement.names) :
    RenamesClashes term result target replacement entries where
  logged := by
    have logged := renames.logged
    rw [clashes_rename _ notOld notNew] at logged
    refine logged.imp fun path entry renamed => ?_
    obtain ⟨kind, body', result', found, found', fresh⟩ := renamed.renamed
    obtain ⟨body, original, related⟩ := exists_binder_of_at?_rename found
    refine { renamed with renamed := ⟨kind, body, result', original, found', fun used => ?_⟩ }
    have notOldName : entry.variant.name ≠ old.name := fun same => renamed.foreign (same ▸ taken)
    exact fresh (related.mem_names used notOldName)
  kept := by
    intro path kind bound body found noClash
    obtain ⟨body', renamed, -⟩ := exists_binder_at?_rename old new found
    rw [← clashesAt_rename _ notOld notNew] at noClash
    exact renames.kept path kind bound body' renamed noClash

theorem RenamesClashes.not (renames : RenamesClashes part part' target replacement entries) :
    RenamesClashes (.not part) (.not part') target replacement entries where
  logged := by
    have isPart : (Term.not part).parts[0]? = some part := rfl
    have noBinder : (Term.not part).clashesAt target replacement.freeNames [] = false := rfl
    rw [clashes, preorder, List.filter_cons_of_neg (by simp [noBinder]),
      filter_clashesAt_part isPart List.not_mem_nil]
    exact renames.logged_inPart isPart rfl
  kept := keepsOthers_of_parts List.not_mem_nil nofun (.cons renames.kept .nil)

/-- A node of two parts that binds nothing. -/
theorem RenamesClashes.pair {left left' right right' : Term} {later : List Renaming}
    {node : Term → Term → Term} (parts : ∀ left right, (node left right).parts = [left, right])
    (ownBound : ∀ left right, (node left right).ownBound = [])
    (preorder : ∀ left right, (node left right).preorder =
      [] :: (left.preorder.map (0 :: ·) ++ right.preorder.map (1 :: ·)))
    (first : RenamesClashes left left' target replacement entries)
    (second : RenamesClashes right right' target replacement later) :
    RenamesClashes (node left right) (node left' right') target replacement (entries ++ later) := by
  have unbound : target ∉ (node left right).ownBound := by simp [ownBound]
  have noBinder : ∀ kind bound body, node left right ≠ .binder kind bound body := by
    intro kind bound body same
    cases (ownBound left right).symm.trans (congrArg Term.ownBound same)
  have noClash : (node left right).clashesAt target replacement.freeNames [] = false := by
    rw [Bool.eq_false_iff, Ne, clashesAt_eq_true_iff]
    rintro ⟨-, kind, bound, body, found, -⟩
    exact noBinder kind bound body (Option.some.inj found)
  have isLeft : (node left right).parts[0]? = some left := by simp [parts]
  have isRight : (node left right).parts[1]? = some right := by simp [parts]
  constructor
  · rw [clashes, preorder, List.filter_cons_of_neg (by simp [noClash]), List.filter_append,
      filter_clashesAt_part isLeft unbound, filter_clashesAt_part isRight unbound]
    exact List.rel_append (first.logged_inPart isLeft (by simp [parts]))
      (second.logged_inPart isRight (by simp [parts]))
  · refine keepsOthers_of_parts unbound (fun kind bound body same => absurd same (noBinder _ _ _)) ?_
    rw [parts, parts]
    exact .cons first.kept (.cons second.kept .nil)

section Binder

variable {kind : BinderKind} {bound : Ident}

theorem clashesAt_nil_iff :
    (Term.binder kind bound part).clashesAt target names [] = true ↔
      bound ≠ target ∧ target ∈ part.freeVariables ∧ bound.name ∈ names := by
  simp [clashesAt, at?, boundAround, hasFree, and_assoc]

theorem filter_clashesAt_body (differ : bound ≠ target) :
    (part.preorder.map (0 :: ·)).filter ((Term.binder kind bound part).clashesAt target names) =
      (part.clashes target names).map (0 :: ·) := by
  have isPart : (Term.binder kind bound part).parts[0]? = some part := rfl
  exact filter_clashesAt_part isPart (by simpa [ownBound] using differ.symm) names

theorem RenamesClashes.binder (renames : RenamesClashes part part' target replacement entries)
    (differ : bound ≠ target) (noClash : bound.name ∉ replacement.freeNames) :
    RenamesClashes (.binder kind bound part) (.binder kind bound part') target replacement entries where
  logged := by
    have isPart : (Term.binder kind bound part).parts[0]? = some part := rfl
    have passedBy : ¬ (Term.binder kind bound part).clashesAt target replacement.freeNames [] = true :=
      fun clash => noClash (clashesAt_nil_iff.mp clash).2.2
    rw [clashes, preorder, List.filter_cons_of_neg passedBy, filter_clashesAt_body differ]
    exact renames.logged_inPart isPart rfl
  kept := by
    refine keepsOthers_of_parts (by simpa [ownBound] using differ.symm) ?_ (.cons renames.kept .nil)
    intro _ _ _ same _
    cases same
    exact ⟨part', rfl⟩

theorem RenamesClashes.renamedBinder (renames : RenamesClashes part part' target replacement entries)
    (differ : bound ≠ target) (free : target ∈ part.freeVariables)
    (clash : bound.name ∈ replacement.freeNames) :
    RenamesClashes (.binder kind bound part)
      (.binder kind (alphabeticVariant bound target part replacement) part') target replacement
      (⟨bound, alphabeticVariant bound target part replacement⟩ :: entries) where
  logged := by
    have isPart : (Term.binder kind bound part).parts[0]? = some part := rfl
    obtain ⟨unusedBelow, unusedInside, notTarget⟩ := alphabeticVariant_fresh bound target part replacement
    rw [clashes, preorder, List.filter_cons_of_pos (clashesAt_nil_iff.mpr ⟨differ, free, clash⟩),
      filter_clashesAt_body differ]
    refine .cons ?_ (renames.logged_inPart isPart rfl)
    exact ⟨⟨kind, part, part', rfl, rfl, unusedBelow⟩, rfl, rfl, alphabeticVariant_name_ne _ _ _ _,
      notTarget, unusedInside⟩
  kept := by
    refine keepsOthers_of_parts (by simpa [ownBound] using differ.symm) ?_ (.cons renames.kept .nil)
    intro _ _ _ same noClash
    cases same
    rw [clashesAt_nil_iff.mpr ⟨differ, free, clash⟩] at noClash
    cases noClash

end Binder

end Renames

/-- The second part goes on with the log that the first one has left. -/
theorem LogsClashes.pair {left right replacement : Term} {target : Ident} {log : List Renaming}
    {first second : Substituted} {node : Term → Term → Term}
    (parts : ∀ left right, (node left right).parts = [left, right])
    (ownBound : ∀ left right, (node left right).ownBound = [])
    (preorder : ∀ left right, (node left right).preorder =
      [] :: (left.preorder.map (0 :: ·) ++ right.preorder.map (1 :: ·)))
    (logsFirst : LogsClashes left target replacement log first)
    (logsSecond : LogsClashes right target replacement first.log second) :
    LogsClashes (node left right) target replacement log
      ⟨node first.term second.term, second.log⟩ := by
  obtain ⟨entries, logged, renamesLeft⟩ := logsFirst
  obtain ⟨later, loggedLater, renamesRight⟩ := logsSecond
  refine ⟨entries ++ later, ?_, renamesLeft.pair parts ownBound preorder renamesRight⟩
  rw [loggedLater, logged, List.append_assoc]

theorem logsClashes_substitute (target : Ident) (term replacement : Term) (log : List Renaming) :
    LogsClashes term target replacement log (term.substitute target replacement log) := by
  induction term, log using substitute.induct target replacement with
  | case1 log id =>
      rw [substitute]
      refine ⟨[], (List.append_nil log).symm, .nil, ?_⟩
      intro path kind bound body found
      cases path <;> cases found
  | case2 log kind bound body untouched =>
      rw [substitute, if_pos untouched]
      exact ⟨[], (List.append_nil log).symm, .of_not_free (not_free_of_untouched untouched)⟩
  | @case3 log kind bound body passes clash variant bodyIH =>
      rw [substitute, if_neg passes, if_pos clash]
      obtain ⟨differ, free⟩ := not_or.mp passes
      obtain ⟨entries, logged, renames⟩ := bodyIH
      have notNew : target ≠ variant := fun same =>
        (alphabeticVariant_fresh bound target body replacement).2.2 (congrArg Ident.name same).symm
      have inBody := renames.of_rename (Ne.symm differ) notNew (freeNames_subset_names clash)
      refine ⟨⟨bound, variant⟩ :: entries, ?_, ?_⟩
      · rw [logged, List.append_assoc, List.singleton_append]
      · exact inBody.renamedBinder differ (of_decide_eq_true (not_not.mp free)) clash
  | case4 log kind bound body passes noClash bodyIH =>
      rw [substitute, if_neg passes, if_neg noClash]
      obtain ⟨entries, logged, renames⟩ := bodyIH
      exact ⟨entries, logged, renames.binder (not_or.mp passes).1 noClash⟩
  | case5 log operand operandIH =>
      rw [substitute]
      obtain ⟨entries, logged, renames⟩ := operandIH
      exact ⟨entries, logged, renames.not⟩
  | case6 log connective left right first leftIH rightIH =>
      rw [substitute]
      exact leftIH.pair (fun _ _ => rfl) (fun _ _ => rfl) (fun _ _ => rfl) rightIH
  | case7 log left right first leftIH rightIH =>
      rw [substitute]
      exact leftIH.pair (fun _ _ => rfl) (fun _ _ => rfl) (fun _ _ => rfl) rightIH
  | case8 log function argument first functionIH argumentIH =>
      rw [substitute]
      exact functionIH.pair (fun _ _ => rfl) (fun _ _ => rfl) (fun _ _ => rfl) argumentIH

/-- A substitution goes on with the log that it is given and adds one entry for each clashing binder, in the
order in which these are written.  An entry says which variable the binder had and which one it has got: one
of the same type, whose name is used neither in the body nor in the replacement and is not that of the old
variable or of the target.  All other binders keep their variables.  Where the target is not free, nothing
happens at all. -/
theorem substitute_renames_clashes {target : Ident} (term replacement : Term) (log : List Renaming)
    (isVar : target.isVar = true) :
    ∃ entries, (term.substitute target replacement log).log = log ++ entries ∧
      List.Forall₂ (RenamesAt term (term.substitute target replacement log).term target replacement)
        (term.clashes target replacement.freeNames) entries ∧
      (∀ path kind bound body, term.at? path = some (.binder kind bound body) →
        path ∉ term.clashes target replacement.freeNames →
          ∃ body', (term.substitute target replacement log).term.at? path =
            some (.binder kind bound body')) ∧
      (target ∉ term.freeVariables → term.substitute target replacement log = ⟨term, log⟩) := by
  obtain ⟨entries, logged, renames⟩ := logsClashes_substitute target term replacement log
  refine ⟨entries, logged, renames.logged, ?_, fun absent => ?_⟩
  · intro path kind bound body found noClash
    rw [mem_clashes_iff, Bool.not_eq_true] at noClash
    exact renames.kept path kind bound body found noClash
  · exact substitute_of_not_free isVar absent replacement log

/-- In `λy[∃z[λy'[R(x)(y)]]]` the outer and the inner binder clash when `x` is replaced by `f(y)(y')`. -/
theorem substitute_renames_clashes_around_quantifier :
    let x : Ident := ⟨.var, "x", .entity⟩
    let y : Ident := ⟨.var, "y", .entity⟩
    let y' : Ident := ⟨.var, "y'", .entity⟩
    let z : Ident := ⟨.var, "z", .entity⟩
    let r := Term.ident ⟨.const, "R", .fn .entity .predicate⟩
    let f := Term.ident ⟨.const, "f", .fn .entity (.fn .entity .entity)⟩
    let term := lambda y (.binder .existential z (lambda y' (.app (.app r (.ident x)) (.ident y))))
    let replacement := Term.app (.app f (.ident y)) (.ident y')
    let earlier : Renaming := ⟨z, x⟩
    x.isVar = true ∧ term.clashes x replacement.freeNames = [[], [0, 0]] ∧
      ∃ outer inner, (term.substitute x replacement [earlier]).log = [earlier, outer, inner] ∧
        outer.bound = y ∧ outer.variant.name ∉ replacement.names ∧
        inner.bound = y' ∧ inner.variant.name ∉ replacement.names ∧
        ∃ body, (term.substitute x replacement [earlier]).term.at? [0] =
          some (.binder .existential z body) := by
  intro x y y' z r f term replacement earlier
  have clashing : term.clashes x replacement.freeNames = [[], [0, 0]] := by decide
  obtain ⟨entries, logged, renamed, kept, -⟩ :=
    substitute_renames_clashes term replacement [earlier] (show x.isVar = true from rfl)
  rw [clashing] at renamed kept
  obtain _ | ⟨atOuter, _ | ⟨atInner, _ | _⟩⟩ := renamed
  rename_i outer inner
  obtain ⟨_, _, _, foundOuter, -⟩ := atOuter.renamed
  obtain ⟨_, _, _, foundInner, -⟩ := atInner.renamed
  have outerBound : y = outer.bound := (Term.binder.inj (Option.some.inj foundOuter)).2.1
  have innerBound : y' = inner.bound := (Term.binder.inj (Option.some.inj foundInner)).2.1
  exact ⟨rfl, clashing, outer, inner, logged, outerBound.symm, atOuter.foreign, innerBound.symm,
    atInner.foreign, kept [0] _ z _ rfl (by decide)⟩

end Denotation.Term
