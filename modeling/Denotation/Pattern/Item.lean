import Denotation.Pattern.Size

/-!
# Items of a written pattern

An item is a pattern together with what the limits on written patterns ask about: how deep it is
nested, and what the automata for it are built from.  Neither has a bearing on what the pattern
matches, but a pattern over a limit is refused.
-/

namespace Denotation.Pattern

structure Item where
  pattern : Pattern
  /-- How many groups, repetitions, classes and lists of parts stand inside each other. -/
  depth : Nat
  blueprint : Blueprint
deriving DecidableEq

namespace Item

def oneOf (set : CharSet) (depth : Nat) : Item := ⟨.oneOf set, depth, .ofSet set⟩

def literal (char : Char) : Item := ⟨.oneOf (.singleton char), 0, .literal [char]⟩

def onlyAt (test : PlaceTest) : Item := ⟨.onlyAt test, 0, .onlyAt test⟩

def greatestDepth (items : List Item) : Nat := items.foldr (fun item depth => max item.depth depth) 0

def sequence : List Item → Item
  | [] => ⟨.empty, 0, .empty⟩
  | [item] => item
  | items =>
      ⟨Pattern.sequence (items.map pattern), greatestDepth items + 1,
        .sequence (items.map blueprint)⟩

def alternatives (first : Item) : List Item → Item
  | [] => first
  | others =>
      ⟨(others.map pattern).foldl .alt first.pattern, greatestDepth (first :: others) + 1,
        .alternation ((first :: others).map blueprint)⟩

def repeated (item : Item) (count : Count) (lazy : Bool) : Item :=
  ⟨.repeated item.pattern count.least count.most, item.depth + 1,
    item.blueprint.repetition count lazy⟩

def group (number : Option Nat) (item : Item) : Item :=
  { item with
    depth := item.depth + 1
    blueprint := number.elim item.blueprint (.group · item.blueprint) }

def depthLimit : Nat := 250

def withinLimits (item : Item) : Bool :=
  decide (item.depth ≤ depthLimit) && item.blueprint.fits

end Item

end Denotation.Pattern
