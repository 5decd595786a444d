import Denotation.Ty.Alignment

/-!
# What types match

Two relations say what compatibility and alignment are about, without a walk that keeps account of
bindings.  A type is an instance of another one if it comes from it by replacing every occurrence of
a variable on its own.  A variable faces a type if that type stands opposite to one of its
occurrences.

A type without variables is an instance of itself only, and the demands of an alignment on a variable
are exactly the types that the variable faces.
-/

namespace Denotation

namespace Ty

/-- The second type comes from the first one by replacing every occurrence of a variable by some
type, which may be another one for each occurrence. -/
inductive HasInstance : Ty → Ty → Prop where
  | const (symbol : Char) : HasInstance (.const symbol) (.const symbol)
  | var (symbol : Char) (ty : Ty) : HasInstance (.var symbol) ty
  | fn {domain range domain' range' : Ty} :
      HasInstance domain domain' → HasInstance range range' →
        HasInstance (.fn domain range) (.fn domain' range')

/-- The variable `symbol` of the first type stands opposite to the type `faced` in the second one.
What lies below a variable of the second type is not reached. -/
inductive Faces (symbol : Char) (faced : Ty) : Ty → Ty → Prop where
  | here : Faces symbol faced (.var symbol) faced
  | domain {domain range domain' range' : Ty} :
      Faces symbol faced domain domain' → Faces symbol faced (.fn domain range) (.fn domain' range')
  | range {domain range domain' range' : Ty} :
      Faces symbol faced range range' → Faces symbol faced (.fn domain range) (.fn domain' range')

theorem HasInstance.refl (ty : Ty) : HasInstance ty ty := by
  induction ty with
  | const symbol => exact .const symbol
  | var symbol => exact .var symbol _
  | fn _ _ domainIH rangeIH => exact .fn domainIH rangeIH

theorem HasInstance.eq_of_not_hasVariables {general special : Ty}
    (isInstance : HasInstance general special) (concrete : general.hasVariables = false) :
    special = general := by
  induction isInstance with
  | const _ => rfl
  | var _ _ => simp [hasVariables] at concrete
  | fn _ _ domainIH rangeIH =>
      simp only [hasVariables, Bool.or_eq_false_iff] at concrete
      rw [domainIH concrete.1, rangeIH concrete.2]

/-- Alignment demands of a variable to stand for exactly the types that it faces. -/
theorem faces_iff_mem_demands {symbol : Char} {faced variableSided concrete : Ty} :
    Faces symbol faced variableSided concrete ↔
      Demand.bind symbol faced ∈ demands variableSided concrete := by
  constructor
  · intro faces
    induction faces with
    | here => simp [demands]
    | domain _ induction => exact List.mem_append_left _ induction
    | range _ induction => exact List.mem_append_right _ induction
  · intro member
    induction variableSided generalizing concrete with
    | const expected =>
        cases concrete with
        | const found =>
            simp only [demands] at member
            split at member <;> simp at member
        | var _ => simp [demands] at member
        | fn _ _ => simp [demands] at member
    | var other =>
        simp only [demands, List.mem_singleton, Demand.bind.injEq] at member
        obtain ⟨rfl, rfl⟩ := member
        exact .here
    | fn _ _ domainIH rangeIH =>
        cases concrete with
        | const _ => simp [demands] at member
        | var _ => simp [demands] at member
        | fn domain' range' =>
            rcases List.mem_append.mp member with inDomain | inRange
            · exact .domain (domainIH inDomain)
            · exact .range (rangeIH inRange)

end Ty

end Denotation
