import Denotation.Pattern.Basic

/-!
# Blueprints of automata

A blueprint says what the automata for a pattern are built from.  It is the pattern in a simplified
form, in which less has to be built: sequences and alternations do not nest directly, neighbouring
characters are one literal, single characters and sets that are alternatives are one set, and parts
with which all alternatives begin stand before the alternation.

Blueprints keep what a pattern can do without, the groups and the preference of repetitions for few
matches.  Parts that differ in these are different parts.
-/

namespace Denotation.Pattern

inductive Blueprint where
  | empty
  | literal (chars : List Char)
  /-- A character in one of the ranges, which are ascending and apart. -/
  | set (ranges : List (Nat × Nat))
  | onlyAt (test : PlaceTest)
  /-- A group whose places are kept.  No other group has its number. -/
  | group (number : Nat) (body : Blueprint)
  | repeated (body : Blueprint) (least : Nat) (most : Option Nat) (lazy : Bool)
  | seq (first rest : Blueprint)
  | alt (first rest : Blueprint)
deriving DecidableEq

structure Count where
  least : Nat
  most : Option Nat
deriving DecidableEq

namespace Blueprint

def parts : Blueprint → List Blueprint
  | .empty => []
  | .seq first rest => first :: rest.parts
  | other => [other]

def branches : Blueprint → List Blueprint
  | .alt first rest => first :: rest.branches
  | other => [other]

def joinParts : List Blueprint → Blueprint
  | [] => .empty
  | [part] => part
  | part :: parts => .seq part (joinParts parts)

def joinBranches : List Blueprint → Blueprint
  | [] => .set []
  | [branch] => branch
  | branch :: branches => .alt branch (joinBranches branches)

def joinLiterals : List Blueprint → List Blueprint
  | [] => []
  | part :: parts =>
      match part, joinLiterals parts with
      | .literal chars, .literal following :: later => .literal (chars ++ following) :: later
      | _, later => part :: later

def sequence (blueprints : List Blueprint) : Blueprint :=
  joinParts (joinLiterals (blueprints.flatMap parts))

def ofSet (set : CharSet) : Blueprint :=
  match set.ranges with
  | [(first, last)] => if first = last then .literal [Char.ofNat first] else .set [(first, last)]
  | ranges => .set ranges

def char? : Blueprint → Option CharSet
  | .literal [char] => some (.singleton char)
  | _ => none

def set? : Blueprint → Option CharSet
  | .set ranges =>
      some (.unions (ranges.map fun range => .range (Char.ofNat range.1) (Char.ofNat range.2)))
  | _ => none

def unionOfBranches? (branches : List Blueprint) : Option Blueprint :=
  (branches.mapM char? <|> branches.mapM set?).map fun sets => ofSet (.unions sets)

def choice (blueprints : List Blueprint) : Blueprint :=
  let branches := blueprints.flatMap branches
  (unionOfBranches? branches).getD (joinBranches branches)

def severalParts : Blueprint → List Blueprint
  | .seq first rest => first :: rest.parts
  | _ => []

def commonParts : List Blueprint → List Blueprint → List Blueprint
  | left :: lefts, right :: rights => if left = right then left :: commonParts lefts rights else []
  | _, _ => []

def partsOfAll (branches : List Blueprint) : List Blueprint :=
  match branches.map severalParts with
  | first :: second :: others => (second :: others).foldl commonParts first
  | _ => []

def alternation (blueprints : List Blueprint) : Blueprint :=
  let branches := blueprints.flatMap branches
  let shared := partsOfAll branches
  if shared.isEmpty then choice branches
  else
    sequence (shared ++
      [choice (branches.map fun branch => sequence (branch.parts.drop shared.length))])

def takesNothing : Blueprint → Bool
  | .empty => true
  | .literal _ => false
  | .set _ => false
  | .onlyAt _ => true
  | .group _ body => body.takesNothing
  | .repeated body _ _ _ => body.takesNothing
  | .seq first rest => first.takesNothing && rest.takesNothing
  | .alt first rest => first.takesNothing && rest.takesNothing

/-- The blueprint of a repetition.  Where only the empty stretch can match, once is as good as many
times. -/
def repetition (body : Blueprint) (count : Count) (lazy : Bool) : Blueprint :=
  let count : Count :=
    if body.takesNothing then ⟨min count.least 1, some ((count.most.map (min 1)).getD 1)⟩
    else count
  if count = ⟨0, some 0⟩ then .empty
  else if count = ⟨1, some 1⟩ then body
  else .repeated body count.least count.most lazy

def shortest? : Blueprint → Option Nat
  | .empty => some 0
  | .literal chars => some chars.length
  | .set ranges => if ranges.isEmpty then none else some 1
  | .onlyAt _ => some 0
  | .group _ body => body.shortest?
  | .repeated body least _ _ => body.shortest?.map (least * ·)
  | .seq first rest =>
      match first.shortest?, rest.shortest? with
      | some first, some rest => some (first + rest)
      | _, _ => none
  | .alt first rest =>
      match first.shortest?, rest.shortest? with
      | some first, some rest => some (min first rest)
      | _, _ => none

end Blueprint

end Denotation.Pattern
