import Denotation.Pattern.Token

/-!
# The pattern that a text writes

The tokens are read from left to right.  A repetition takes the item just before it, so it is refused
where there is none.  Groups nest, and each open group keeps what was read before it; every group has
to be closed, and nothing else can be.
-/

namespace Denotation.Pattern

structure Group where
  /-- The number of the group, if the places where it matches are kept. -/
  number : Option Nat
  /-- The branches that a bar has ended, the latest first. -/
  branches : List Item
  items : List Item

namespace Group

def start (number : Option Nat) : Group := ⟨number, [], []⟩

def add (group : Group) (item : Item) : Group :=
  { group with items := item :: group.items }

def endBranch (group : Group) : Group :=
  { group with branches := Item.sequence group.items.reverse :: group.branches, items := [] }

def content (group : Group) : Item :=
  match group.endBranch.branches.reverse with
  | [] => .sequence []
  | first :: others => .alternatives first others

def repeatLatest? (group : Group) (count : Count) (lazy : Bool) : Option Group :=
  match group.items with
  | [] => none
  | latest :: earlier => some { group with items := latest.repeated count lazy :: earlier }

end Group

/-- Read the remaining tokens, given the innermost open group and the ones around it.  Groups are
numbered by how many tokens follow where they begin. -/
def assemble? (group : Group) (around : List Group) : List Token → Option Item
  | [] => if around.isEmpty then some group.content else none
  | .item item :: rest => assemble? (group.add item) around rest
  | .repetition count lazy :: rest => do
      assemble? (← group.repeatLatest? count lazy) around rest
  | .bar :: rest => assemble? group.endBranch around rest
  | .opening captures :: rest =>
      assemble? (.start (if captures then some rest.length else none)) (group :: around) rest
  | .closing :: rest =>
      match around with
      | [] => none
      | outer :: outermost =>
          assemble? (outer.add (group.content.group group.number)) outermost rest

def ofString? (text : String) : Option Pattern := do
  let pieces ← pieces? text.toList
  let tokens ← tokens? pieces
  let item ← assemble? (.start none) [] tokens
  if item.withinLimits then some item.pattern else none

end Denotation.Pattern
