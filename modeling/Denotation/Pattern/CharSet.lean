import Denotation.Text.Blank
import Denotation.Text.Digit
import Denotation.Text.WordChar

/-!
# Sets of characters

The sets that a pattern can ask a character to be in.  They are built from ranges and three named
sets with the operations on sets.
-/

namespace Denotation

inductive CharSet where
  | nothing
  | range (first last : Char)
  | blanks
  | digits
  | wordChars
  | compl (body : CharSet)
  | union (left right : CharSet)
  | inter (left right : CharSet)
  | diff (left right : CharSet)
  | symmDiff (left right : CharSet)
deriving DecidableEq, Inhabited

namespace CharSet

def contains (char : Char) : CharSet → Bool
  | .nothing => false
  | .range first last => decide (first ≤ char) && decide (char ≤ last)
  | .blanks => Text.isBlank char
  | .digits => Text.isDigit char
  | .wordChars => Text.isWordChar char
  | .compl body => !body.contains char
  | .union left right => left.contains char || right.contains char
  | .inter left right => left.contains char && right.contains char
  | .diff left right => left.contains char && !right.contains char
  | .symmDiff left right => left.contains char != right.contains char

def tableEdges (ranges : List (Nat × Nat)) : List Nat :=
  ranges.flatMap fun range => [range.1, range.2 + 1]

def insertEdge (edge : Nat) : List Nat → List Nat
  | [] => [edge]
  | first :: later => if edge ≤ first then edge :: first :: later else first :: insertEdge edge later

def mergeEdges (left right : List Nat) : List Nat := left.foldr insertEdge right

def edges : CharSet → List Nat
  | .nothing => []
  | .range first last => [first.toNat, last.toNat + 1]
  | .blanks => tableEdges Text.blankRanges
  | .digits => tableEdges Text.digitRanges
  | .wordChars => tableEdges Text.wordRanges
  | .compl body => body.edges
  | .union left right => mergeEdges left.edges right.edges
  | .inter left right => mergeEdges left.edges right.edges
  | .diff left right => mergeEdges left.edges right.edges
  | .symmDiff left right => mergeEdges left.edges right.edges

/-- The ranges of members whose ends are among the given edges.  There are no characters from
`0xD800` up to `0xE000`. -/
def rangesFrom (set : CharSet) : List Nat → List (Nat × Nat)
  | [] => []
  | [edge] => if edge < 0x110000 ∧ set.contains (Char.ofNat edge) then [(edge, 0x10FFFF)] else []
  | edge :: next :: edges =>
      let later := set.rangesFrom (next :: edges)
      let char := Char.ofNat (if edge = 0xD800 then 0xE000 else edge)
      if edge = next ∨ !set.contains char then later
      else
        match later with
        | (first, last) :: others =>
            if first = next then (edge, last) :: others
            else (edge, if next = 0xE000 then 0xD7FF else next - 1) :: later
        | [] => [(edge, if next = 0xE000 then 0xD7FF else next - 1)]

/-- The members of the set as the fewest ranges of code points, in ascending order. -/
def ranges (set : CharSet) : List (Nat × Nat) := set.rangesFrom (0 :: set.edges)

def singleton (char : Char) : CharSet := .range char char

def unions : List CharSet → CharSet
  | [] => .nothing
  | [set] => set
  | set :: sets => .union set (unions sets)

theorem contains_unions (char : Char) (sets : List CharSet) :
    (unions sets).contains char = sets.any (contains char) := by
  fun_induction unions sets with
  | case1 => rfl
  | case2 set => simp
  | case3 set sets _ induction => simp [contains, induction]

theorem contains_singleton (char member : Char) :
    (singleton member).contains char = decide (char = member) := by
  rw [Bool.eq_iff_iff]
  simp only [singleton, contains, Bool.and_eq_true, decide_eq_true_eq]
  exact ⟨fun bounds => Char.le_antisymm bounds.2 bounds.1, by rintro rfl; simp⟩

def asciiLetters : CharSet := .union (.range 'A' 'Z') (.range 'a' 'z')

def asciiAlphanumerics : CharSet := .union (.range '0' '9') asciiLetters

def ofName? (name : String) : Option CharSet :=
  [("alnum", asciiAlphanumerics),
    ("alpha", asciiLetters),
    ("ascii", .range '\x00' '\x7f'),
    ("blank", unions [singleton '\t', singleton ' ']),
    ("cntrl", unions [.range '\x00' '\x1f', singleton '\x7f']),
    ("digit", .range '0' '9'),
    ("graph", .range '!' '~'),
    ("lower", .range 'a' 'z'),
    ("print", .range ' ' '~'),
    ("punct", unions [.range '!' '/', .range ':' '@', .range '[' '\x60', .range '\x7b' '~']),
    ("space", unions [.range '\t' '\r', singleton ' ']),
    ("upper", .range 'A' 'Z'),
    ("word", .union asciiAlphanumerics (singleton '_')),
    ("xdigit", unions [.range '0' '9', .range 'A' 'F', .range 'a' 'f'])].lookup name

end CharSet

end Denotation
