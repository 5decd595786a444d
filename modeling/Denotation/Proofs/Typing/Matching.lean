import Denotation.Proofs.Typing.Alignment

/-!
# Alignment as one-way matching

Meeting demands never takes a binding back, and once all of them are met the alignment holds what it held
before and what was demanded, and nothing else.  So the alignment of two types binds each variable to the
type that it faces.  Applied to the first type it gives an instance of the second one: where the second type
has a variable, the first one is free to have anything.

A type without variables is an instance of itself only.  Matched against such a type, alignment finds a
substitution whenever there is one.
-/

namespace Denotation

namespace Alignment

/-- Every binding of the earlier alignment is kept. -/
def Extends (later earlier : Alignment) : Prop :=
  ∀ symbol ty, earlier.get? symbol = some ty → later.get? symbol = some ty

theorem Extends.refl (alignment : Alignment) : alignment.Extends alignment :=
  fun _ _ bound => bound

theorem Extends.trans {first second third : Alignment} (later : third.Extends second)
    (earlier : second.Extends first) : third.Extends first :=
  fun symbol ty bound => later symbol ty (earlier symbol ty bound)

variable {alignment next : Alignment} {symbol : Char} {ty variableSided concrete : Ty}

theorem extends_of_bind (bound : alignment.bind symbol ty = .ok next) : next.Extends alignment := by
  intro sought found before
  rw [get?_of_bind bound]
  split
  · rename_i same
    subst same
    rcases admits_iff.mpr ⟨next, bound⟩ with isBound | ⟨unbound, -⟩
    · exact isBound.symm.trans before
    · cases unbound.symm.trans before
  · exact before

/-- Meeting demands keeps all bindings, also where it fails. -/
theorem extends_meetAll (alignment : Alignment) (demands : List Demand) :
    (alignment.meetAll demands).alignment.Extends alignment := by
  induction demands generalizing alignment with
  | nil => exact .refl alignment
  | cons demand rest restIH =>
      rw [meetAll]
      split
      · rename_i next met
        cases demand with
        | refuse error => cases met
        | bind symbol ty => exact (restIH next).trans (extends_of_bind met)
      · exact .refl alignment

theorem get?_meetAll_of_mem {demands : List Demand}
    (met : (alignment.meetAll demands).fault = none) (demanded : .bind symbol ty ∈ demands) :
    (alignment.meetAll demands).alignment.get? symbol = some ty := by
  induction demands generalizing alignment with
  | nil => cases demanded
  | cons demand rest restIH =>
      rw [meetAll] at met ⊢
      split at met
      · rename_i next first
        rcases List.mem_cons.mp demanded with head | later
        · subst head
          refine extends_meetAll next rest symbol ty ?_
          rw [get?_of_bind first, if_pos rfl]
        · exact restIH met later
      · cases met

/-- Once all demands are met, what was bound before is bound and what was demanded, and nothing else. -/
theorem get?_meetAll_eq_some_iff {demands : List Demand}
    (met : (alignment.meetAll demands).fault = none) :
    (alignment.meetAll demands).alignment.get? symbol = some ty ↔
      alignment.get? symbol = some ty ∨ .bind symbol ty ∈ demands := by
  constructor
  · exact get?_meetAll
  · intro bound
    rcases bound with before | demanded
    · exact extends_meetAll alignment _ symbol ty before
    · exact get?_meetAll_of_mem met demanded

/-- A refinement that succeeds binds what was bound before and what the types face, and nothing else. -/
theorem get?_of_refine (refined : (alignment.refine variableSided concrete).result = .ok next) :
    next.get? symbol = some ty ↔
      alignment.get? symbol = some ty ∨ Ty.Faces symbol ty variableSided concrete := by
  obtain ⟨met, rfl⟩ := Refinement.result_eq_ok_iff.mp refined
  rw [Ty.faces_iff_mem_demands]
  exact get?_meetAll_eq_some_iff met

theorem extends_of_refine (refined : (alignment.refine variableSided concrete).result = .ok next) :
    next.Extends alignment :=
  fun _ _ bound => (get?_of_refine refined).mpr (Or.inl bound)

theorem compatible_of_refine
    (refined : (alignment.refine variableSided concrete).result = .ok next) :
    variableSided.compatible concrete = true := by
  obtain ⟨met, -⟩ := Refinement.result_eq_ok_iff.mp refined
  exact Ty.compatible_iff_forall_refuse_not_mem.mpr (fault_meetAll_eq_none_iff.mp met).1

/-- What has become a type without variables stays that type. -/
theorem Extends.apply_eq {later earlier : Alignment} {special : Ty} (isExtension : later.Extends earlier)
    (applied : earlier.apply ty = special) (isConcrete : special.hasVariables = false) :
    later.apply ty = special := by
  induction ty generalizing special with
  | const _ => exact applied
  | var symbol =>
      cases bound : earlier.get? symbol with
      | none =>
          rw [apply, bound] at applied
          subst applied
          cases isConcrete
      | some found =>
          rw [apply, bound] at applied
          rw [apply, isExtension symbol found bound, applied]
  | fn domain range domainIH rangeIH =>
      subst applied
      simp only [apply, Ty.hasVariables, Bool.or_eq_false_iff] at isConcrete
      rw [apply, apply, domainIH rfl isConcrete.1, rangeIH rfl isConcrete.2]

/-- Where every variable stands for what it faces, a compatible type becomes an instance of the one on
the other side. -/
theorem hasInstance_apply
    (bindsFaced : ∀ symbol faced, Ty.Faces symbol faced variableSided concrete →
      alignment.get? symbol = some faced)
    (fits : variableSided.compatible concrete = true) :
    concrete.HasInstance (alignment.apply variableSided) := by
  induction variableSided generalizing concrete with
  | const expected =>
      cases concrete with
      | const found =>
          obtain rfl : expected = found := by simpa [Ty.compatible] using fits
          exact .const expected
      | var found => exact .var found _
      | fn _ _ => simp [Ty.compatible] at fits
  | var expected =>
      rw [apply, bindsFaced expected concrete .here]
      exact .refl concrete
  | fn domain range domainIH rangeIH =>
      cases concrete with
      | const _ => simp [Ty.compatible] at fits
      | var found => exact .var found _
      | fn domain' range' =>
          simp only [Ty.compatible, Bool.and_eq_true] at fits
          have inDomain := domainIH (fun symbol faced faces => bindsFaced symbol faced (.domain faces))
          have inRange := rangeIH (fun symbol faced faces => bindsFaced symbol faced (.range faces))
          exact .fn (inDomain fits.1) (inRange fits.2)

theorem hasInstance_of_refine
    (refined : (alignment.refine variableSided concrete).result = .ok next) :
    concrete.HasInstance (next.apply variableSided) :=
  hasInstance_apply (fun _ _ faces => (get?_of_refine refined).mpr (Or.inr faces))
    (compatible_of_refine refined)

theorem find_eq_some_iff {bindings : List (Char × Ty)}
    (ascending : bindings.Pairwise (fun earlier later => earlier.1 < later.1)) :
    find symbol bindings = some ty ↔ (symbol, ty) ∈ bindings := by
  induction bindings with
  | nil => simp [find]
  | cons head rest restIH =>
      have before : ∀ later ∈ rest, head.1 < later.1 := fun _ member =>
        List.rel_of_pairwise_cons ascending member
      rw [find, List.mem_cons]
      split
      · rename_i same
        subst same
        have absent : (head.1, ty) ∉ rest := fun member =>
          Char.lt_irrefl head.1 (before (head.1, ty) member)
        rw [Option.some.injEq, or_iff_left absent, Prod.ext_iff]
        exact ⟨fun same => ⟨rfl, same.symm⟩, fun same => same.2.symm⟩
      · rename_i differ
        rw [restIH ascending.of_cons]
        refine (or_iff_right fun same => ?_).symm
        exact differ (congrArg Prod.fst same).symm

theorem isIdentity_iff :
    alignment.isIdentity = true ↔ ∀ symbol ty, alignment.get? symbol = some ty → ty = .var symbol := by
  simp only [isIdentity, List.all_eq_true, beq_iff_eq, get?, find_eq_some_iff alignment.ascending,
    Prod.forall]

end Alignment

namespace Ty

theorem HasInstance.compatible {general special : Ty} (isInstance : general.HasInstance special) :
    special.compatible general = true := by
  induction isInstance with
  | const symbol => exact compatible_self (.const symbol)
  | var symbol ty => rw [compatible_comm, Ty.compatible]
  | fn _ _ domainIH rangeIH => rw [Ty.compatible, domainIH, rangeIH, Bool.and_true]

/-- The type with a type in the place of each variable. -/
def substitute (image : Char → Ty) : Ty → Ty
  | .const symbol => .const symbol
  | .var symbol => image symbol
  | .fn domain range => .fn (domain.substitute image) (range.substitute image)

theorem substitute_var (ty : Ty) : ty.substitute .var = ty := by
  induction ty with
  | const _ => rfl
  | var _ => rfl
  | fn _ _ domainIH rangeIH => rw [substitute, domainIH, rangeIH]

theorem apply_eq_substitute (alignment : Alignment) (ty : Ty) :
    alignment.apply ty = ty.substitute fun symbol => (alignment.get? symbol).getD (.var symbol) := by
  induction ty with
  | const _ => rfl
  | var _ => rfl
  | fn _ _ domainIH rangeIH => rw [Alignment.apply, substitute, domainIH, rangeIH]

variable {symbol : Char} {faced variableSided concrete : Ty} {image : Char → Ty} {alignment : Alignment}

theorem hasInstance_substitute (ty : Ty) (image : Char → Ty) :
    ty.HasInstance (ty.substitute image) := by
  induction ty with
  | const symbol => exact .const symbol
  | var symbol => exact .var symbol _
  | fn _ _ domainIH rangeIH => exact .fn domainIH rangeIH

/-- Matched against what a substitution makes of a type, every variable of it faces its image. -/
theorem faces_substitute_iff :
    Faces symbol faced variableSided (variableSided.substitute image) ↔
      symbol ∈ variableSided.varSymbols ∧ faced = image symbol := by
  constructor
  · intro faces
    induction variableSided with
    | const _ => cases faces
    | var other =>
        cases faces
        exact ⟨List.mem_singleton_self symbol, rfl⟩
    | fn domain range domainIH rangeIH =>
        cases faces with
        | domain faces =>
            obtain ⟨member, same⟩ := domainIH faces
            exact ⟨List.mem_append_left _ member, same⟩
        | range faces =>
            obtain ⟨member, same⟩ := rangeIH faces
            exact ⟨List.mem_append_right _ member, same⟩
  · intro occurs
    obtain ⟨member, rfl⟩ := occurs
    induction variableSided with
    | const _ => cases member
    | var other =>
        obtain rfl := List.mem_singleton.mp member
        exact .here
    | fn domain range domainIH rangeIH =>
        rcases List.mem_append.mp member with inDomain | inRange
        · exact .domain (domainIH inDomain)
        · exact .range (rangeIH inRange)

theorem exists_align_substitute (variableSided : Ty) (image : Char → Ty)
    (sound : ∀ symbol ∈ variableSided.varSymbols,
      image symbol = .var symbol ∨ (image symbol).mentions symbol = false) :
    ∃ alignment, variableSided.align (variableSided.substitute image) = .ok alignment := by
  refine exists_align_iff.mpr ⟨?_, fun symbol faced faces => ?_⟩
  · rw [compatible_comm]
    exact (hasInstance_substitute variableSided image).compatible
  · obtain ⟨member, rfl⟩ := faces_substitute_iff.mp faces
    exact ⟨sound symbol member, fun other otherFaces => (faces_substitute_iff.mp otherFaces).2⟩

theorem get?_of_align (aligned : variableSided.align concrete = .ok alignment) :
    alignment.get? symbol = some faced ↔ Faces symbol faced variableSided concrete := by
  rw [Alignment.get?_of_refine aligned]
  exact or_iff_right nofun

theorem forall_facesOne_iff :
    (∀ symbol, FacesOne symbol variableSided concrete) ↔
      (∀ symbol first second, Faces symbol first variableSided concrete →
        Faces symbol second variableSided concrete → first = second) ∧
      ∀ symbol faced, Faces symbol faced variableSided concrete →
        faced.mentions symbol = true → faced = .var symbol := by
  constructor
  · intro facesOne
    refine ⟨fun symbol first second facesFirst facesSecond => ?_, fun symbol faced faces occurs => ?_⟩
    · exact (facesOne symbol second facesSecond).2 first facesFirst
    · refine (facesOne symbol faced faces).1.resolve_right ?_
      simp [occurs]
  · intro reconciled symbol faced faces
    obtain ⟨agree, sound⟩ := reconciled
    refine ⟨?_, fun other otherFaces => agree symbol other faced otherFaces faces⟩
    cases occurs : faced.mentions symbol with
    | false => exact Or.inr rfl
    | true => exact Or.inl (sound symbol faced faces occurs)

theorem exists_align_iff_exists_substitute (isConcrete : concrete.hasVariables = false) :
    (∃ alignment, variableSided.align concrete = .ok alignment) ↔
      ∃ image, variableSided.substitute image = concrete := by
  constructor
  · intro aligned
    obtain ⟨alignment, aligned⟩ := aligned
    have same := (Alignment.hasInstance_of_refine aligned).eq_of_not_hasVariables isConcrete
    exact ⟨_, (apply_eq_substitute alignment variableSided).symm.trans same⟩
  · intro substituted
    obtain ⟨image, rfl⟩ := substituted
    refine exists_align_substitute variableSided image fun symbol member => Or.inr ?_
    have faces : Faces symbol (image symbol) variableSided (variableSided.substitute image) :=
      faces_substitute_iff.mpr ⟨member, rfl⟩
    exact mentions_eq_false (faces.faced_concrete isConcrete)

/-- Matched against itself, a type is what the substitution of every variable for itself makes of it. -/
theorem exists_align_self (ty : Ty) :
    ∃ alignment, ty.align ty = .ok alignment ∧ alignment.isIdentity = true ∧
      ∀ symbol, alignment.get? symbol =
        if symbol ∈ ty.varSymbols then some (.var symbol) else none := by
  have facesItself : ∀ symbol faced, Faces symbol faced ty ty ↔
      symbol ∈ ty.varSymbols ∧ faced = .var symbol := by
    intro symbol faced
    have substituted := @faces_substitute_iff symbol faced ty .var
    rwa [substitute_var] at substituted
  obtain ⟨alignment, aligned⟩ := exists_align_substitute ty .var fun _ _ => Or.inl rfl
  rw [substitute_var] at aligned
  have bindings : ∀ symbol faced, alignment.get? symbol = some faced ↔
      symbol ∈ ty.varSymbols ∧ faced = .var symbol := by
    intro symbol faced
    rw [get?_of_align aligned, facesItself]
  refine ⟨alignment, aligned, ?_, fun symbol => ?_⟩
  · exact Alignment.isIdentity_iff.mpr fun symbol faced bound => ((bindings symbol faced).mp bound).2
  · split
    · rename_i member
      exact (bindings symbol _).mpr ⟨member, rfl⟩
    · rename_i absent
      exact Option.eq_none_iff_forall_ne_some.mpr fun faced bound =>
        absent ((bindings symbol faced).mp bound).1

/-- Two types can be aligned exactly if they are compatible, each variable faces one type at most, and
none faces a larger type that contains it.  Then the variables are bound to what they face, which makes
the first type compatible with the second one, and equal to it if that has no variables.  Where a
substitution turns the one into the other, a type without variables, there is an alignment, and a type
aligned with itself leaves its variables as they are. -/
theorem align_matches_one_way (variableSided concrete : Ty) :
    ((∃ alignment, variableSided.align concrete = .ok alignment) ↔
      variableSided.compatible concrete = true ∧
        (∀ symbol first second, Faces symbol first variableSided concrete →
          Faces symbol second variableSided concrete → first = second) ∧
        ∀ symbol faced, Faces symbol faced variableSided concrete →
          faced.mentions symbol = true → faced = .var symbol) ∧
    (∀ alignment, variableSided.align concrete = .ok alignment →
      (∀ symbol faced,
        alignment.get? symbol = some faced ↔ Faces symbol faced variableSided concrete) ∧
      (alignment.apply variableSided).compatible concrete = true ∧
      (concrete.hasVariables = false → alignment.apply variableSided = concrete)) ∧
    (concrete.hasVariables = false →
      ((∃ alignment, variableSided.align concrete = .ok alignment) ↔
        ∃ image, variableSided.substitute image = concrete)) ∧
    ∃ alignment, variableSided.align variableSided = .ok alignment ∧ alignment.isIdentity = true ∧
      ∀ symbol, alignment.get? symbol =
        if symbol ∈ variableSided.varSymbols then some (.var symbol) else none := by
  refine ⟨?_, fun alignment aligned => ?_, exists_align_iff_exists_substitute,
    exists_align_self variableSided⟩
  · rw [exists_align_iff, forall_facesOne_iff]
  · have isInstance := Alignment.hasInstance_of_refine aligned
    exact ⟨fun _ _ => get?_of_align aligned, isInstance.compatible, isInstance.eq_of_not_hasVariables⟩

/-- In `<'a,<'b,'a>>` against `<e,<<e,t>,e>>` the variable `'a` faces `e` twice. -/
theorem align_matches_one_way_repeated_variable :
    let variableSided : Ty := .fn (.var 'a') (.fn (.var 'b') (.var 'a'))
    let concrete : Ty := .fn .entity (.fn .predicate .entity)
    ∃ alignment, variableSided.align concrete = .ok alignment ∧
      alignment.get? 'a' = some .entity ∧ alignment.apply variableSided = concrete := by
  intro variableSided concrete
  obtain ⟨-, outcome, complete, -⟩ := align_matches_one_way variableSided concrete
  have images : variableSided.substitute
      (fun symbol => if symbol = 'a' then .entity else .predicate) = concrete := by decide
  obtain ⟨alignment, aligned⟩ := (complete rfl).mpr ⟨_, images⟩
  obtain ⟨bindings, -, equal⟩ := outcome alignment aligned
  exact ⟨alignment, aligned, (bindings 'a' .entity).mpr (.domain .here), equal rfl⟩

end Ty

end Denotation
