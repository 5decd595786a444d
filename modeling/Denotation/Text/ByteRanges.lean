/-!
# Ranges of characters as ranges of bytes

In UTF-8 a character is written by one to four bytes.  A range of characters is cut into parts such
that a part is written by all sequences of bytes of which the first is in a certain range, the second
in another, and so on.
-/

namespace Denotation.Text

abbrev ByteRanges := List (UInt8 × UInt8)

/-- The code points from which on a range may have to be cut: those from which on one more byte is
needed, and those at the ends of blocks in which all last bytes occur. -/
def cutCandidates (first last : Nat) : List Nat :=
  [0x80, 0x800, 0x10000] ++
    if last < 0x80 then []
    else [64, 4096, 262144].flatMap fun block =>
      (if first % block = 0 then [] else [(first / block + 1) * block]) ++
        if (last + 1) % block = 0 then [] else [last / block * block]

def cut? (first last : Nat) : Option Nat :=
  (cutCandidates first last).find? fun cut => decide (first < cut ∧ cut ≤ last)

theorem lt_cut_and_cut_le {first last cut : Nat} (found : cut? first last = some cut) :
    first < cut ∧ cut ≤ last :=
  of_decide_eq_true (List.find?_some found :)

def byteRangesBetween (first last : Nat) : List ByteRanges :=
  if last < first then []
  else
    match _found : cut? first last with
    | some cut => byteRangesBetween first (cut - 1) ++ byteRangesBetween cut last
    | none =>
        [(String.utf8EncodeChar (Char.ofNat first)).zip (String.utf8EncodeChar (Char.ofNat last))]
termination_by last + 1 - first
decreasing_by
  all_goals
    have bounds := lt_cut_and_cut_le _found
    omega

def byteRanges (first last : Nat) : List ByteRanges :=
  byteRangesBetween first (min last 0xD7FF) ++ byteRangesBetween (max first 0xE000) last

end Denotation.Text
