import FileQuery.Text.RangeTable

/-!
# Sets of characters

A set of characters is kept as its ranges of code points, in order and with gaps between them. All
operations on sets come down to joining ranges and to the complement.

## Main definitions

* `FileQuery.CharSet`.
* `FileQuery.CharSet.ofRanges`: the set of some ranges in any order.
* `FileQuery.CharSet.complement`, `FileQuery.CharSet.intersection`,
  `FileQuery.CharSet.difference`, `FileQuery.CharSet.symmetricDifference`.
-/

namespace FileQuery

/-- A set of characters as ranges of code points, both ends included. -/
abbrev CharSet := Text.RangeTable

namespace CharSet

/-- The set of one character. -/
def single (c : Char) : CharSet := [(c.toNat, c.toNat)]

/-- Joins the ranges that touch the ones before them, beginning with a first range. The ranges come
in the order of their beginnings. -/
def joinFrom (low high : Nat) : List (Nat × Nat) → CharSet
  | [] => [(low, high)]
  | (low', high') :: rest =>
    if low' ≤ high + 1 then joinFrom low (max high high') rest
    else (low, high) :: joinFrom low' high' rest

/-- The set of some ranges in any order. -/
def ofRanges (rs : List (Nat × Nat)) : CharSet :=
  match rs.mergeSort fun r r' => r.1 ≤ r'.1 with
  | [] => []
  | (low, high) :: rest => joinFrom low high rest

/-- The characters of either set. -/
def union (s t : CharSet) : CharSet := ofRanges (s ++ t)

/-- The code points of the gaps between ranges, from a code point on. -/
def gapsFrom (low : Nat) : List (Nat × Nat) → List (Nat × Nat)
  | [] => if low ≤ 0x10FFFF then [(low, 0x10FFFF)] else []
  | (low', high') :: rest =>
    (if low < low' then [(low, low' - 1)] else []) ++ gapsFrom (high' + 1) rest

/-- All other characters. The code points from `0xD800` to `0xDFFF` are no characters. -/
def complement (s : CharSet) : CharSet := gapsFrom 0 (ofRanges ((0xD800, 0xDFFF) :: s))

/-- The characters of both sets. -/
def intersection (s t : CharSet) : CharSet := (union s.complement t.complement).complement

/-- The characters of the first set that the second does not hold. -/
def difference (s t : CharSet) : CharSet := (union s.complement t).complement

/-- The characters of exactly one of two sets. -/
def symmetricDifference (s t : CharSet) : CharSet := difference (union s t) (intersection s t)

end CharSet

end FileQuery
