import Denotation.Pattern.Piece

/-!
# Classes of a written pattern

A class in square brackets is a set of characters, given by its members: characters, ranges, sets with
a backslash, named sets of ASCII and further classes.  A `^` after the opening bracket asks for all
other characters.  A hyphen is literal at the beginning and at the end, and a closing bracket is
literal at the beginning.

The doubled signs `&&`, `--` and `~~` stand for the intersection, the difference and the symmetric
difference of what is left and right of them.  They bind weaker than the members stand together, and
are read from left to right.
-/

namespace Denotation.Pattern

inductive ClassOperation where
  | inter
  | diff
  | symmDiff
deriving DecidableEq

def ClassOperation.apply (left right : CharSet) : ClassOperation → CharSet
  | .inter => .inter left right
  | .diff => .diff left right
  | .symmDiff => .symmDiff left right

/-- A set of characters, and how many classes, operations and lists of members stand inside each
other where it is written. -/
structure WrittenSet where
  set : CharSet
  depth : Nat
deriving DecidableEq

/-- The set of the members, the latest of which is the first in the list. -/
def WrittenSet.ofMembers : List WrittenSet → WrittenSet
  | [] => ⟨.nothing, 0⟩
  | [member] => member
  | members =>
      ⟨.unions (members.reverse.map (·.set)),
        members.foldr (fun member depth => max member.depth depth) 0 + 1⟩

structure OpenClass where
  negated : Bool
  left : Option (WrittenSet × ClassOperation)
  /-- The members since then, the latest first. -/
  members : List WrittenSet

namespace OpenClass

def add (opened : OpenClass) (member : WrittenSet) : OpenClass :=
  { opened with members := member :: opened.members }

def operand (opened : OpenClass) : WrittenSet :=
  let right := WrittenSet.ofMembers opened.members
  match opened.left with
  | none => right
  | some (left, operation) =>
      ⟨operation.apply left.set right.set, max left.depth right.depth + 1⟩

def operate (opened : OpenClass) (operation : ClassOperation) : OpenClass :=
  { opened with left := some (opened.operand, operation), members := [] }

def close (opened : OpenClass) : WrittenSet :=
  let operand := opened.operand
  ⟨if opened.negated then .compl operand.set else operand.set, operand.depth + 1⟩

def single (char : Char) : WrittenSet := ⟨.singleton char, 0⟩

/-- Scan the beginning of a class after its opening bracket: the sign of negation, and the literal
hyphens or the literal closing bracket. -/
def scan (pieces : List Piece) : Scanned Piece OpenClass :=
  let negated := pieces.head? == some (.plain '^')
  let pieces := if negated then pieces.drop 1 else pieces
  let hyphens := pieces.takeWhile (· == .plain '-')
  match hyphens, pieces.dropWhile (· == .plain '-') with
  | [], .plain ']' :: rest => ⟨⟨negated, none, [single ']']⟩, rest⟩
  | _, rest => ⟨⟨negated, none, hyphens.map fun _ => single '-'⟩, rest⟩

end OpenClass

def namedSet? : List Piece → Option (Scanned Piece WrittenSet)
  | .plain ':' :: .plain '^' :: pieces =>
      (named pieces).map fun scanned => ⟨⟨.compl scanned.value, 0⟩, scanned.rest⟩
  | .plain ':' :: pieces => (named pieces).map fun scanned => ⟨⟨scanned.value, 0⟩, scanned.rest⟩
  | _ => none
where
  named (pieces : List Piece) : Option (Scanned Piece CharSet) :=
    let letters := (pieces.takeWhile (letter? · |>.isSome)).filterMap letter?
    match pieces.dropWhile (letter? · |>.isSome) with
    | .plain ':' :: .plain ']' :: rest =>
        (CharSet.ofName? (String.ofList letters)).map (⟨·, rest⟩)
    | _ => none
  letter? : Piece → Option Char
    | .plain char => if char.isAlpha then some char else none
    | _ => none

namespace Piece

def char? : Piece → Option Char
  | .plain char => some char
  | .escaped char => some char
  | .set _ => none
  | .test _ => none

def set? : Piece → Option CharSet
  | .plain char => some (.singleton char)
  | .escaped char => some (.singleton char)
  | .set members => some members
  | .test _ => none

end Piece

def member? : List Piece → Option (Scanned Piece WrittenSet)
  | [] => none
  | first :: .plain '-' :: last :: rest =>
      if last = .plain ']' ∨ last = .plain '-' then
        first.set?.map (⟨⟨·, 0⟩, .plain '-' :: last :: rest⟩)
      else do
        let first ← first.char?
        let last ← last.char?
        if first ≤ last then some ⟨⟨.range first last, 0⟩, rest⟩ else none
  | single :: rest => single.set?.map (⟨⟨·, 0⟩, rest⟩)

theorem OpenClass.length_scan (pieces : List Piece) :
    (OpenClass.scan pieces).rest.length ≤ pieces.length := by
  have shorter : ((if pieces.head? == some (.plain '^') then pieces.drop 1 else pieces).dropWhile
      (· == .plain '-')).length ≤ pieces.length := by
    refine Nat.le_trans (length_dropWhile_le _ _) ?_
    split
    · simp
    · exact Nat.le_refl _
  unfold OpenClass.scan
  dsimp only
  split
  · rename_i following
    rw [following] at shorter
    simp only [List.length_cons] at shorter ⊢
    omega
  · exact shorter

theorem length_namedSet? {pieces : List Piece} {scanned : Scanned Piece WrittenSet}
    (accepted : namedSet? pieces = some scanned) : scanned.rest.length < pieces.length := by
  have length_named {pieces : List Piece} {scanned : Scanned Piece CharSet}
      (accepted : namedSet?.named pieces = some scanned) :
      scanned.rest.length ≤ pieces.length := by
    unfold namedSet?.named at accepted
    split at accepted
    · rename_i following
      obtain ⟨set, -, rfl⟩ := Option.map_eq_some_iff.mp accepted
      have shorter := length_dropWhile_le (fun piece => (namedSet?.letter? piece).isSome) pieces
      rw [following] at shorter
      simp only [List.length_cons] at shorter ⊢
      omega
    · contradiction
  unfold namedSet? at accepted
  split at accepted
  · obtain ⟨inner, scannedInner, rfl⟩ := Option.map_eq_some_iff.mp accepted
    have shorter := length_named scannedInner
    simp only [List.length_cons]
    omega
  · obtain ⟨inner, scannedInner, rfl⟩ := Option.map_eq_some_iff.mp accepted
    have shorter := length_named scannedInner
    simp only [List.length_cons]
    omega
  · contradiction

theorem length_member? {pieces : List Piece} {scanned : Scanned Piece WrittenSet}
    (accepted : member? pieces = some scanned) : scanned.rest.length < pieces.length := by
  unfold member? at accepted
  split at accepted
  · contradiction
  · split at accepted
    · obtain ⟨set, -, rfl⟩ := Option.map_eq_some_iff.mp accepted
      simp
    · obtain ⟨first, -, accepted⟩ := Option.bind_eq_some_iff.mp accepted
      obtain ⟨last, -, accepted⟩ := Option.bind_eq_some_iff.mp accepted
      split at accepted
      · cases accepted
        simp only [List.length_cons]
        omega
      · contradiction
  · obtain ⟨set, -, rfl⟩ := Option.map_eq_some_iff.mp accepted
    simp

/-- Scan the rest of a class, given the innermost class that is open and the ones around it. -/
def closeClass? (opened : OpenClass) (around : List OpenClass) :
    List Piece → Option (Scanned Piece WrittenSet)
  | .plain ']' :: rest =>
      match around with
      | [] => some ⟨opened.close, rest⟩
      | outer :: outermost => closeClass? (outer.add opened.close) outermost rest
  | .plain '[' :: rest =>
      match _named : namedSet? rest with
      | some ⟨set, rest⟩ => closeClass? (opened.add set) around rest
      | none => closeClass? (OpenClass.scan rest).value (opened :: around) (OpenClass.scan rest).rest
  | .plain '&' :: .plain '&' :: rest => closeClass? (opened.operate .inter) around rest
  | .plain '-' :: .plain '-' :: rest => closeClass? (opened.operate .diff) around rest
  | .plain '~' :: .plain '~' :: rest => closeClass? (opened.operate .symmDiff) around rest
  | pieces =>
      match _member : member? pieces with
      | none => none
      | some ⟨set, rest⟩ => closeClass? (opened.add set) around rest
termination_by pieces => pieces.length
decreasing_by
  all_goals grind [OpenClass.length_scan, → length_namedSet?, → length_member?]

def class? (pieces : List Piece) : Option (Scanned Piece WrittenSet) :=
  closeClass? (OpenClass.scan pieces).value [] (OpenClass.scan pieces).rest

theorem length_closeClass? {opened : OpenClass} {around : List OpenClass} {pieces : List Piece}
    {scanned : Scanned Piece WrittenSet}
    (accepted : closeClass? opened around pieces = some scanned) :
    scanned.rest.length < pieces.length := by
  fun_induction closeClass? opened around pieces <;>
    grind [OpenClass.length_scan, → length_namedSet?, → length_member?]

theorem length_class? {pieces : List Piece} {scanned : Scanned Piece WrittenSet}
    (accepted : class? pieces = some scanned) : scanned.rest.length < pieces.length :=
  Nat.lt_of_lt_of_le (length_closeClass? accepted) (OpenClass.length_scan pieces)

end Denotation.Pattern
