/-!
# Words of two bytes

Lengths, versions and symbols are stored as words of two bytes, the more significant byte first.
-/

namespace Denotation.Store

/-- The two bytes of a word.  Only the lowest sixteen bits count. -/
def wordBytes (word : Nat) : List UInt8 := [UInt8.ofNat (word / 256), UInt8.ofNat word]

def wordOf (bytes : List UInt8) : Nat := bytes.foldl (fun word byte => 256 * word + byte.toNat) 0

/-- A word of sixteen bits read with a sign. -/
def signedWord (word : Nat) : Int := if word < 32768 then word else word - 65536

theorem wordOf_wordBytes {word : Nat} (small : word < 65536) : wordOf (wordBytes word) = word := by
  simp only [wordOf, wordBytes, List.foldl_cons, List.foldl_nil, UInt8.toNat_ofNat']
  omega

theorem wordBytes_wordOf (high low : UInt8) : wordBytes (wordOf [high, low]) = [high, low] := by
  have lowSmall : low.toNat < 256 := low.toNat_lt
  have highSmall : high.toNat < 256 := high.toNat_lt
  simp only [wordOf, wordBytes, List.foldl_cons, List.foldl_nil, List.cons.injEq, and_true]
  constructor
  · apply UInt8.toNat_inj.mp
    rw [UInt8.toNat_ofNat']
    omega
  · apply UInt8.toNat_inj.mp
    rw [UInt8.toNat_ofNat']
    omega

theorem wordOf_lt (high low : UInt8) : wordOf [high, low] < 65536 := by
  have lowSmall : low.toNat < 256 := low.toNat_lt
  have highSmall : high.toNat < 256 := high.toNat_lt
  simp only [wordOf, List.foldl_cons, List.foldl_nil]
  omega

theorem signedWord_eq_zero_iff {word : Nat} (small : word < 65536) :
    signedWord word = 0 ↔ word = 0 := by
  unfold signedWord
  split <;> omega

end Denotation.Store
