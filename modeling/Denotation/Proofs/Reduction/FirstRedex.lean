import Mathlib.Data.List.Basic
import Denotation.Proofs.Reduction.Step

/-!
# The redex that a step contracts

Reduction visits the parts of a node from left to right, and the node after its parts.  The redex that it
contracts is the first one in this order, and so an innermost one.  If the contraction fails, the step
fails in the same way; otherwise the step exchanges this one occurrence and leaves every other node as
it is.
-/

namespace Denotation

/-- The order in which reduction visits the nodes of a term: a node comes after all nodes below it, and
what lies in one part comes before what lies in the parts to the right of it. -/
def Path.Precedes : Path → Path → Prop
  | [], _ => False
  | _ :: _, [] => True
  | number :: rest, number' :: rest' => number < number' ∨ number = number' ∧ Precedes rest rest'

theorem Path.Precedes.asymm {earlier later : Path} (precedes : Path.Precedes earlier later) :
    ¬ Path.Precedes later earlier := by
  induction earlier generalizing later with
  | nil => exact precedes.elim
  | cons number rest restIH =>
      cases later with
      | nil => exact id
      | cons number' rest' =>
          rintro (less' | ⟨same', precedes'⟩)
          · rcases precedes with less | ⟨same, -⟩ <;> omega
          · rcases precedes with less | ⟨-, restPrecedes⟩
            · omega
            · exact restIH restPrecedes precedes'

namespace Term

section Order

variable {first second : List Path}

theorem pairwise_precedes_one (ordered : first.Pairwise Path.Precedes) :
    (first.map (0 :: ·) ++ [[]]).Pairwise Path.Precedes := by
  refine List.pairwise_append.mpr ⟨?_, List.pairwise_singleton _ _, ?_⟩
  · exact ordered.map _ fun _ _ precedes => Or.inr ⟨rfl, precedes⟩
  · intro earlier member later root
    obtain ⟨path, -, rfl⟩ := List.mem_map.mp member
    obtain rfl := List.mem_singleton.mp root
    trivial

theorem pairwise_precedes_two (firstOrdered : first.Pairwise Path.Precedes)
    (secondOrdered : second.Pairwise Path.Precedes) :
    (first.map (0 :: ·) ++ second.map (1 :: ·) ++ [[]]).Pairwise Path.Precedes := by
  rw [List.append_assoc]
  refine List.pairwise_append.mpr ⟨?_, ?_, ?_⟩
  · exact firstOrdered.map _ fun _ _ precedes => Or.inr ⟨rfl, precedes⟩
  · refine List.pairwise_append.mpr ⟨?_, List.pairwise_singleton _ _, ?_⟩
    · exact secondOrdered.map _ fun _ _ precedes => Or.inr ⟨rfl, precedes⟩
    · intro earlier member later root
      obtain ⟨path, -, rfl⟩ := List.mem_map.mp member
      obtain rfl := List.mem_singleton.mp root
      trivial
  · intro earlier member later later'
    obtain ⟨path, -, rfl⟩ := List.mem_map.mp member
    rcases List.mem_append.mp later' with inSecond | root
    · obtain ⟨path', -, rfl⟩ := List.mem_map.mp inSecond
      exact Or.inl Nat.zero_lt_one
    · obtain rfl := List.mem_singleton.mp root
      trivial

end Order

theorem pairwise_precedes_paths (term : Term) : term.paths.Pairwise Path.Precedes := by
  induction term with
  | ident _ => exact List.pairwise_singleton _ _
  | binder _ _ _ bodyIH => exact pairwise_precedes_one bodyIH
  | not _ operandIH => exact pairwise_precedes_one operandIH
  | binary _ _ _ leftIH rightIH => exact pairwise_precedes_two leftIH rightIH
  | equal _ _ leftIH rightIH => exact pairwise_precedes_two leftIH rightIH
  | app _ _ functionIH argumentIH => exact pairwise_precedes_two functionIH argumentIH

/-- The redex at the path comes before every other redex of the term. -/
structure IsFirstRedex (term : Term) (path : Path) (redex : Term) : Prop where
  found : term.at? path = some redex
  isRedex : redex.isRedex = true
  first : ∀ other, term.hasRedexAt other = true → other = path ∨ Path.Precedes path other

theorem hasRedexAt_eq_true_iff {term : Term} {path : Path} :
    term.hasRedexAt path = true ↔ ∃ redex, term.at? path = some redex ∧ redex.isRedex = true := by
  unfold hasRedexAt
  cases term.at? path <;> simp

theorem isFirstRedex_of_find? {term redex : Term} {path : Path}
    (first : term.paths.find? term.hasRedexAt = some path) (found : term.at? path = some redex) :
    term.IsFirstRedex path redex where
  found := found
  isRedex := by
    obtain ⟨redex', found', isRedex⟩ := hasRedexAt_eq_true_iff.mp (List.find?_some first)
    cases found.symm.trans found'
    exact isRedex
  first := by
    obtain ⟨-, before, after, split, noneBefore⟩ := List.find?_eq_some_iff_append.mp first
    intro other otherRedex
    obtain ⟨redex', found', -⟩ := hasRedexAt_eq_true_iff.mp otherRedex
    have ordered := pairwise_precedes_paths term
    rw [split] at ordered
    have visited := mem_paths_iff.mpr ⟨redex', found'⟩
    rw [split] at visited
    rcases List.mem_append.mp visited with early | late
    · have notRedex := noneBefore other early
      simp [otherRedex] at notRedex
    · rcases List.mem_cons.mp late with same | later
      · exact Or.inl same
      · exact Or.inr ((List.pairwise_cons.mp (List.pairwise_append.mp ordered).2.1).1 other later)

theorem exists_isFirstRedex {term : Term} (reducible : ¬ term.IsNormal) :
    ∃ path redex, term.IsFirstRedex path redex := by
  cases first : term.paths.find? term.hasRedexAt with
  | none =>
      refine absurd (fun subterm occurs => ?_) reducible
      obtain ⟨path, found⟩ := occurs
      have absent := List.find?_eq_none.mp first path (mem_paths_iff.mpr ⟨subterm, found⟩)
      simpa [hasRedexAt, found] using absent
  | some path =>
      obtain ⟨redex, found, -⟩ := hasRedexAt_eq_true_iff.mp (List.find?_some first)
      exact ⟨path, redex, isFirstRedex_of_find? first found⟩

theorem IsFirstRedex.part {term part redex : Term} {number : Nat} {rest : Path}
    (isFirst : term.IsFirstRedex (number :: rest) redex) (isPart : term.parts[number]? = some part) :
    part.IsFirstRedex rest redex where
  found := by
    have found := isFirst.found
    rwa [at?_cons, isPart, Option.bind_some] at found
  isRedex := isFirst.isRedex
  first := by
    intro other otherRedex
    have inTerm : term.hasRedexAt (number :: other) = true := by
      simpa only [hasRedexAt, at?_cons, isPart, Option.bind_some] using otherRedex
    rcases isFirst.first _ inTerm with same | less | ⟨-, precedes⟩
    · exact Or.inl (List.cons.inj same).2
    · exact absurd less (Nat.lt_irrefl number)
    · exact Or.inr precedes

/-- A part all of whose nodes are visited before the first redex has no redex. -/
theorem IsFirstRedex.isNormal_before {term part redex : Term} {path : Path}
    (isFirst : term.IsFirstRedex path redex) (number : Nat) (isPart : term.parts[number]? = some part)
    (before : ∀ rest, Path.Precedes (number :: rest) path) : part.IsNormal := by
  rintro subterm ⟨rest, found⟩
  cases isRedex : subterm.isRedex with
  | false => rfl
  | true =>
      have inTerm : term.hasRedexAt (number :: rest) = true :=
        hasRedexAt_eq_true_iff.mpr ⟨subterm, by rw [at?_cons, isPart, Option.bind_some, found], isRedex⟩
      rcases isFirst.first _ inTerm with rfl | precedes
      · exact absurd (before rest) (before rest).asymm
      · exact absurd precedes (before rest).asymm

theorem IsFirstRedex.innermost {term redex subterm : Term} {path : Path}
    (isFirst : term.IsFirstRedex path redex) (inside : OccursInside subterm redex) :
    subterm.isRedex = false := by
  obtain ⟨below, proper, found⟩ := inside
  induction path generalizing term with
  | nil =>
      cases isFirst.found
      cases isRedex : subterm.isRedex with
      | false => rfl
      | true =>
          have inTerm := hasRedexAt_eq_true_iff.mpr ⟨subterm, found, isRedex⟩
          exact (isFirst.first below inTerm).elim (absurd · proper) False.elim
  | cons number rest induction =>
      have whole := isFirst.found
      rw [at?_cons] at whole
      obtain ⟨part, isPart, -⟩ := Option.bind_eq_some_iff.mp whole
      exact induction (isFirst.part isPart)

/-- The outcome of a step that contracts the redex at the path. -/
def contractAt (term redex : Term) (path : Path) : Except ConversionError (Option Step) :=
  redex.betaReduce.map fun contracted =>
    some ⟨redex, contracted.term, contracted.log, term.putAt contracted.term path⟩

theorem contractAt_cons {term part redex : Term} {number : Nat} {rest : Path}
    (isPart : term.parts[number]? = some part) :
    term.contractAt redex (number :: rest) =
      (part.contractAt redex rest).map (Option.map (Step.within (term.putPart number ·))) := by
  unfold contractAt
  cases redex.betaReduce with
  | error _ => rfl
  | ok contracted => simp [Except.map, Step.within, putAt, isPart]

/-- A search in two parts ends with the contraction of the first redex, if it lies in one of them. -/
theorem searchParts_of_isFirstRedex {term first second redex : Term} {number : Nat} {rest : Path}
    (areParts : term.parts = [first, second]) (isFirst : term.IsFirstRedex (number :: rest) redex)
    (inFirst : first.IsFirstRedex rest redex → first.reduceOnce = first.contractAt redex rest)
    (inSecond : second.IsFirstRedex rest redex → second.reduceOnce = second.contractAt redex rest) :
    searchParts first.reduceOnce second.reduceOnce (term.putPart 0 ·) (term.putPart 1 ·) =
      term.contractAt redex (number :: rest) := by
  have isFirstPart : term.parts[0]? = some first := by rw [areParts]; rfl
  have isSecondPart : term.parts[1]? = some second := by rw [areParts]; rfl
  rcases number with _ | _ | number
  · rw [inFirst (isFirst.part isFirstPart), contractAt_cons isFirstPart, contractAt]
    cases redex.betaReduce <;> rfl
  · have normal := isFirst.isNormal_before 0 isFirstPart fun _ => Or.inl Nat.zero_lt_one
    rw [inSecond (isFirst.part isSecondPart), reduceOnce_eq_none_iff.mpr normal,
      contractAt_cons isSecondPart, contractAt]
    cases redex.betaReduce <;> rfl
  · have found := isFirst.found
    simp [at?_cons, areParts] at found

theorem IsFirstRedex.isRedex_root {term redex : Term} (isFirst : term.IsFirstRedex [] redex) :
    term.isRedex = true := by
  cases isFirst.found
  exact isFirst.isRedex

/-- A step contracts the first redex, and fails if that contraction fails. -/
theorem IsFirstRedex.reduceOnce_eq {term redex : Term} {path : Path}
    (isFirst : term.IsFirstRedex path redex) : term.reduceOnce = term.contractAt redex path := by
  induction term generalizing path with
  | ident id =>
      cases path with
      | nil => cases isFirst.isRedex_root
      | cons number rest => cases isFirst.found
  | binder kind bound body bodyIH =>
      rcases path with _ | ⟨_ | number, rest⟩
      · cases isFirst.isRedex_root
      · have isPart : (Term.binder kind bound body).parts[0]? = some body := rfl
        rw [reduceOnce_binder, bodyIH (isFirst.part isPart), contractAt_cons isPart]
        rfl
      · cases isFirst.found
  | not operand operandIH =>
      rcases path with _ | ⟨_ | number, rest⟩
      · cases isFirst.isRedex_root
      · have isPart : (Term.not operand).parts[0]? = some operand := rfl
        rw [reduceOnce_not, operandIH (isFirst.part isPart), contractAt_cons isPart]
        rfl
      · cases isFirst.found
  | binary connective left right leftIH rightIH =>
      cases path with
      | nil => cases isFirst.isRedex_root
      | cons number rest => exact searchParts_of_isFirstRedex rfl isFirst leftIH rightIH
  | equal left right leftIH rightIH =>
      cases path with
      | nil => cases isFirst.isRedex_root
      | cons number rest => exact searchParts_of_isFirstRedex rfl isFirst leftIH rightIH
  | app function argument functionIH argumentIH =>
      rw [reduceOnce_app]
      cases path with
      | nil =>
          have isRedex := isFirst.isRedex_root
          have functionNormal : function.IsNormal := isFirst.isNormal_before 0 rfl fun _ => trivial
          have argumentNormal : argument.IsNormal := isFirst.isNormal_before 1 rfl fun _ => trivial
          cases isFirst.found
          rw [reduceOnce_eq_none_iff.mpr functionNormal, reduceOnce_eq_none_iff.mpr argumentNormal]
          exact if_pos isRedex
      | cons number rest =>
          have searched := searchParts_of_isFirstRedex rfl isFirst functionIH argumentIH
          refine (congrArg (· >>= _) searched).trans ?_
          unfold contractAt
          cases redex.betaReduce <;> rfl

/-- A node without its parts. -/
def shell (term : Term) : Term := (term.putPart 0 default).putPart 1 default

theorem shell_putPart (term part : Term) (number : Nat) :
    (term.putPart number part).shell = term.shell := by
  cases term <;> rcases number with _ | _ | number <;> rfl

/-- Exchanging a subterm leaves every node outside of it as it is. -/
theorem shell_at?_putAt {term subterm subterm' : Term} {path other : Path}
    (found : term.at? path = some subterm) (outside : ¬ path <+: other) :
    ((term.putAt subterm' path).at? other).map shell = (term.at? other).map shell := by
  induction path generalizing term other with
  | nil => exact absurd List.nil_prefix outside
  | cons number rest induction =>
      rw [at?_cons] at found
      obtain ⟨part, isPart, below⟩ := Option.bind_eq_some_iff.mp found
      simp only [putAt, isPart]
      cases other with
      | nil => simp only [at?, Option.map_some, shell_putPart]
      | cons number' rest' =>
          rw [at?_cons, at?_cons, parts_putPart]
          by_cases same : number = number'
          · subst same
            have inRange := (List.getElem?_eq_some_iff.mp isPart).1
            have outsideBelow : ¬ rest <+: rest' := fun inside =>
              outside (List.cons_prefix_cons.mpr ⟨rfl, inside⟩)
            rw [List.getElem?_set_self inRange, isPart]
            exact induction below outsideBelow
          · rw [List.getElem?_set_ne same]

/-- A step finds nothing to contract exactly if there is no redex.  Otherwise it contracts the first redex
in the order of visits, below which there is no other one.  If its contraction fails, the step fails with
the same error; otherwise this occurrence is exchanged for the contractum, and no other node changes. -/
theorem reduceOnce_contracts_first (term : Term) :
    (term.reduceOnce = .ok none ↔ ∀ subterm, OccursIn subterm term → subterm.isRedex = false) ∧
    ((∃ subterm, OccursIn subterm term ∧ subterm.isRedex = true) →
      ∃ path redex, term.IsFirstRedex path redex) ∧
    ∀ path redex, term.IsFirstRedex path redex →
      (∀ subterm, OccursInside subterm redex → subterm.isRedex = false) ∧
      (∀ error, redex.betaReduce = .error error → term.reduceOnce = .error error) ∧
      ∀ contracted, redex.betaReduce = .ok contracted →
        ∃ result, term.reduceOnce = .ok (some ⟨redex, contracted.term, contracted.log, result⟩) ∧
          result = term.putAt contracted.term path ∧ result.at? path = some contracted.term ∧
          ∀ other, ¬ path <+: other → (result.at? other).map shell = (term.at? other).map shell := by
  refine ⟨reduceOnce_eq_none_iff, ?_, fun path redex isFirst => ⟨?_, ?_, ?_⟩⟩
  · rintro ⟨subterm, occurs, isRedex⟩
    refine exists_isFirstRedex fun normal => ?_
    rw [normal subterm occurs] at isRedex
    contradiction
  · exact fun subterm inside => isFirst.innermost inside
  · intro error failed
    rw [isFirst.reduceOnce_eq, contractAt, failed]
    rfl
  · intro contracted succeeded
    refine ⟨term.putAt contracted.term path, ?_, rfl, at?_putAt isFirst.found, ?_⟩
    · rw [isFirst.reduceOnce_eq, contractAt, succeeded]
      rfl
    · exact fun other outside => shell_at?_putAt isFirst.found outside

/-- In `∀x[(λy[P(y)])((λz[z])(x)) ∧ (λz[P(z)])(m)]` the redex in the argument goes first, before the one
around it and the one to the right. -/
theorem reduceOnce_contracts_redex_of_argument :
    let x : Ident := ⟨.var, "x", .entity⟩
    let y : Ident := ⟨.var, "y", .entity⟩
    let z : Ident := ⟨.var, "z", .entity⟩
    let p := Term.ident ⟨.const, "P", .predicate⟩
    let m := Term.ident ⟨.const, "m", .entity⟩
    let left := Term.app (lambda y (.app p (.ident y)))
    let right := Term.app (lambda z (.app p (.ident z))) m
    let redex := Term.app (lambda z (.ident z)) (.ident x)
    let term := Term.binder .universal x (.binary .and (left redex) right)
    term.IsFirstRedex [0, 0, 1] redex ∧ redex.betaReduce = .ok ⟨.ident x, []⟩ ∧
      term.reduceOnce = .ok (some ⟨redex, .ident x, [],
        .binder .universal x (.binary .and (left (.ident x)) right)⟩) := by
  intro x y z p m left right redex term
  have isFirst : term.IsFirstRedex [0, 0, 1] redex := isFirstRedex_of_find? (by decide) rfl
  have succeeds : redex.betaReduce = .ok ⟨.ident x, []⟩ := by cbv
  obtain ⟨-, -, contracts⟩ := reduceOnce_contracts_first term
  obtain ⟨result, reduced, rfl, -⟩ := (contracts [0, 0, 1] redex isFirst).2.2 _ succeeds
  exact ⟨isFirst, succeeds, reduced⟩

end Term

end Denotation
