import Denotation.Ty.Matching
import Denotation.Proofs.Outcome

/-!
# When two types can be aligned

The demands of an alignment are met one after the other, but whether all of them can be met does not
depend on their order.  Each demand on a variable has to agree with what the variable stands for already
and with every other demand on it.  So two types can be aligned exactly if they are compatible and each
variable faces one type only, which is not a larger type that contains it.

An alignment that has specialized a type before only takes variables away from it: what the others face
is the same, and a type that the specialized one is compatible with was compatible before.
-/

namespace Denotation

namespace Alignment

/-- The variable may stand for the type: it does so already, or it is unbound and does not occur in a
larger type. -/
def Admits (alignment : Alignment) (symbol : Char) (ty : Ty) : Prop :=
  alignment.get? symbol = some ty ∨
    alignment.get? symbol = none ∧ (ty = .var symbol ∨ ty.mentions symbol = false)

theorem admits_iff {alignment : Alignment} {symbol : Char} {ty : Ty} :
    alignment.Admits symbol ty ↔ ∃ next, alignment.bind symbol ty = .ok next := by
  unfold Admits bind
  cases alignment.get? symbol with
  | some bound =>
      by_cases same : bound = ty <;> simp [same]
  | none =>
      by_cases self : ty = .var symbol <;> cases ty.mentions symbol <;> simp [self]

theorem get?_of_bind {alignment next : Alignment} {symbol : Char} {ty : Ty}
    (bound : alignment.bind symbol ty = .ok next) (sought : Char) :
    next.get? sought = if symbol = sought then some ty else alignment.get? sought := by
  unfold bind at bound
  split at bound
  · rename_i found isBound
    split at bound
    · rename_i same
      cases bound
      split
      · rename_i sameSymbol
        rw [← sameSymbol, isBound, same]
      · rfl
    · cases bound
  · split at bound
    · cases bound
    · cases bound
      exact get?_insert alignment symbol sought ty

theorem admits_of_bind {alignment next : Alignment} {symbol : Char} {ty : Ty}
    (bound : alignment.bind symbol ty = .ok next) (sought : Char) (other : Ty) :
    next.Admits sought other ↔
      if symbol = sought then other = ty else alignment.Admits sought other := by
  unfold Admits
  rw [get?_of_bind bound]
  split
  · simpa using eq_comm
  · rfl

/-- Each demand on a variable is admitted to begin with, and the demands on one variable agree. -/
def Reconciles (alignment : Alignment) (demands : List Demand) : Prop :=
  ∀ symbol ty, .bind symbol ty ∈ demands →
    alignment.Admits symbol ty ∧ ∀ other, .bind symbol other ∈ demands → other = ty

/-- Once the first demand is met, the others have to agree with what it bound. -/
theorem reconciles_cons {alignment next : Alignment} {symbol : Char} {ty : Ty}
    {rest : List Demand} (bound : alignment.bind symbol ty = .ok next) :
    alignment.Reconciles (.bind symbol ty :: rest) ↔ next.Reconciles rest := by
  have first : alignment.Admits symbol ty := admits_iff.mpr ⟨next, bound⟩
  constructor
  · intro reconciled sought found member
    obtain ⟨fits, agrees⟩ := reconciled sought found (List.mem_cons_of_mem _ member)
    refine ⟨?_, fun other later => agrees other (List.mem_cons_of_mem _ later)⟩
    rw [admits_of_bind bound]
    split
    · rename_i same
      exact (agrees ty (same ▸ List.mem_cons_self)).symm
    · exact fits
  · intro reconciled
    have onSymbol : ∀ other, .bind symbol other ∈ .bind symbol ty :: rest → other = ty := by
      intro other member
      rcases List.mem_cons.mp member with head | later
      · cases head
        rfl
      · simpa [admits_of_bind bound] using (reconciled symbol other later).1
    intro sought found member
    by_cases same : symbol = sought
    · subst same
      obtain rfl := onSymbol found member
      exact ⟨first, onSymbol⟩
    · have inRest : ∀ other, .bind sought other ∈ .bind symbol ty :: rest →
          .bind sought other ∈ rest := by
        intro other otherMember
        refine (List.mem_cons.mp otherMember).resolve_left fun head => ?_
        cases head
        exact same rfl
      obtain ⟨fits, agrees⟩ := reconciled sought found (inRest found member)
      rw [admits_of_bind bound, if_neg same] at fits
      exact ⟨fits, fun other otherMember => agrees other (inRest other otherMember)⟩

/-- Demands can be met exactly if none of them is refused and they can be reconciled. -/
theorem fault_meetAll_eq_none_iff {alignment : Alignment} {demands : List Demand} :
    (alignment.meetAll demands).fault = none ↔
      (∀ error, .refuse error ∉ demands) ∧ alignment.Reconciles demands := by
  induction demands generalizing alignment with
  | nil => simp [meetAll, Reconciles]
  | cons demand rest restIH =>
      cases demand with
      | refuse error =>
          refine iff_of_false (by simp [meetAll, meet]) ?_
          rintro ⟨unrefused, -⟩
          exact unrefused error List.mem_cons_self
      | bind symbol ty =>
          cases bound : alignment.bind symbol ty with
          | error error =>
              refine iff_of_false (by simp [meetAll, meet, bound]) ?_
              rintro ⟨-, reconciled⟩
              obtain ⟨next, succeeds⟩ := admits_iff.mp (reconciled symbol ty List.mem_cons_self).1
              cases bound.symm.trans succeeds
          | ok next =>
              have step : (alignment.meetAll (.bind symbol ty :: rest)).fault =
                  (next.meetAll rest).fault := by simp [meetAll, meet, bound]
              rw [step, restIH, reconciles_cons bound]
              simp

/-- Meeting demands only adds bindings that were demanded, also where it fails. -/
theorem get?_meetAll {alignment : Alignment} {demands : List Demand} {symbol : Char} {ty : Ty}
    (found : (alignment.meetAll demands).alignment.get? symbol = some ty) :
    alignment.get? symbol = some ty ∨ .bind symbol ty ∈ demands := by
  induction demands generalizing alignment with
  | nil => exact Or.inl found
  | cons demand rest restIH =>
      rw [meetAll] at found
      split at found
      · rename_i next met
        rcases restIH found with before | later
        · cases demand with
          | refuse error => cases met
          | bind bound boundTy =>
              rw [get?_of_bind met] at before
              split at before
              · rename_i same
                cases before
                exact Or.inr (same ▸ List.mem_cons_self)
              · exact Or.inl before
        · exact Or.inr (List.mem_cons_of_mem _ later)
      · exact Or.inl found

end Alignment

theorem Alignment.apply_of_concrete (alignment : Alignment) {ty : Ty}
    (concrete : ty.hasVariables = false) : alignment.apply ty = ty := by
  induction ty with
  | const _ => rfl
  | var _ => cases concrete
  | fn domain range domainIH rangeIH =>
      simp only [Ty.hasVariables, Bool.or_eq_false_iff] at concrete
      rw [apply, domainIH concrete.1, rangeIH concrete.2]

theorem Ty.mentions_eq_false {symbol : Char} {ty : Ty} (concrete : ty.hasVariables = false) :
    ty.mentions symbol = false := by
  induction ty with
  | const _ => rfl
  | var _ => cases concrete
  | fn domain range domainIH rangeIH =>
      simp only [hasVariables, Bool.or_eq_false_iff] at concrete
      simp [mentions, domainIH concrete.1, rangeIH concrete.2]

theorem Refinement.result_eq_ok_iff {refinement : Refinement} {reached : Alignment} :
    refinement.result = .ok reached ↔
      refinement.fault = none ∧ refinement.alignment = reached := by
  obtain ⟨alignment, fault⟩ := refinement
  cases fault <;> simp [result]

theorem Refinement.result_eq_error_iff {refinement : Refinement} {error : AlignmentError} :
    refinement.result = .error error ↔ refinement.fault = some error := by
  obtain ⟨alignment, fault⟩ := refinement
  cases fault <;> simp [result]

namespace Ty

theorem compatible_iff_forall_refuse_not_mem {variableSided concrete : Ty} :
    variableSided.compatible concrete = true ↔
      ∀ error, .refuse error ∉ demands variableSided concrete := by
  induction variableSided generalizing concrete with
  | const expected =>
      cases concrete with
      | const found => by_cases same : expected = found <;> simp [compatible, demands, same]
      | var _ => simp [compatible, demands]
      | fn _ _ => simp [compatible, demands]
  | var _ => simp [compatible, demands]
  | fn domain range domainIH rangeIH =>
      cases concrete with
      | const _ => simp [compatible, demands]
      | var _ => simp [compatible, demands]
      | fn domain' range' =>
          simp only [compatible, Bool.and_eq_true, domainIH, rangeIH, demands, List.mem_append,
            not_or, forall_and]

/-- The variable faces one type at most, and not a larger one in which it occurs. -/
def FacesOne (symbol : Char) (variableSided concrete : Ty) : Prop :=
  ∀ faced, Faces symbol faced variableSided concrete →
    (faced = .var symbol ∨ faced.mentions symbol = false) ∧
      ∀ other, Faces symbol other variableSided concrete → other = faced

/-- Two types can be aligned exactly if they are compatible and each variable can stand for all that
it faces. -/
theorem exists_align_iff {variableSided concrete : Ty} :
    (∃ alignment, variableSided.align concrete = .ok alignment) ↔
      variableSided.compatible concrete = true ∧
        ∀ symbol, FacesOne symbol variableSided concrete := by
  have unbound : ∀ symbol ty, Alignment.empty.Admits symbol ty ↔
      ty = .var symbol ∨ ty.mentions symbol = false := by
    intro symbol ty
    simp [Alignment.Admits, Alignment.get?_empty]
  rw [compatible_iff_forall_refuse_not_mem]
  simp only [align, Refinement.result_eq_ok_iff, exists_and_left, exists_eq', and_true,
    Alignment.refine, Alignment.fault_meetAll_eq_none_iff, Alignment.Reconciles, unbound, FacesOne,
    faces_iff_mem_demands]

theorem compatible_of_compatible_apply {alignment : Alignment} {expected found : Ty}
    (fits : (alignment.apply expected).compatible found = true) :
    expected.compatible found = true := by
  induction expected generalizing found with
  | const _ => exact fits
  | var _ => simp [compatible]
  | fn domain range domainIH rangeIH =>
      cases found with
      | const _ => simp [Alignment.apply, compatible] at fits
      | var _ => simp [compatible]
      | fn domain' range' =>
          simp only [Alignment.apply, compatible, Bool.and_eq_true] at fits ⊢
          exact ⟨domainIH fits.1, rangeIH fits.2⟩

section Facing

variable {symbol : Char} {faced variableSided concrete : Ty}

theorem Faces.hasVariables (faces : Faces symbol faced variableSided concrete) :
    variableSided.hasVariables = true := by
  induction faces with
  | here => rfl
  | domain _ domainIH => simp [Ty.hasVariables, domainIH]
  | range _ rangeIH => simp [Ty.hasVariables, rangeIH]

theorem Faces.faced_concrete (faces : Faces symbol faced variableSided concrete)
    (isConcrete : concrete.hasVariables = false) : faced.hasVariables = false := by
  induction faces with
  | here => exact isConcrete
  | domain _ domainIH =>
      simp only [Ty.hasVariables, Bool.or_eq_false_iff] at isConcrete
      exact domainIH isConcrete.1
  | range _ rangeIH =>
      simp only [Ty.hasVariables, Bool.or_eq_false_iff] at isConcrete
      exact rangeIH isConcrete.2

theorem Faces.apply_of_unbound {alignment : Alignment} (unbound : alignment.get? symbol = none)
    (faces : Faces symbol faced variableSided concrete) :
    Faces symbol faced (alignment.apply variableSided) concrete := by
  induction faces with
  | here =>
      rw [Alignment.apply, unbound]
      exact .here
  | domain _ domainIH => exact .domain domainIH
  | range _ rangeIH => exact .range rangeIH

theorem Faces.compatible_of_bound {alignment : Alignment} {bound : Ty}
    (isBound : alignment.get? symbol = some bound)
    (faces : Faces symbol faced variableSided concrete)
    (fits : (alignment.apply variableSided).compatible concrete = true) :
    bound.compatible faced = true := by
  induction faces with
  | here => simpa only [Alignment.apply, isBound, Option.getD_some] using fits
  | domain _ domainIH =>
      simp only [Alignment.apply, compatible, Bool.and_eq_true] at fits
      exact domainIH fits.1
  | range _ rangeIH =>
      simp only [Alignment.apply, compatible, Bool.and_eq_true] at fits
      exact rangeIH fits.2

end Facing

end Ty

end Denotation
