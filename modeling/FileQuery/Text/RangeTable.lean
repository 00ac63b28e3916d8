/-!
# Tables of code points

A property of characters is a list of ranges of code points. The tables are searched from front to
back, so a membership question is a finite disjunction that can be evaluated in the logic.

## Main definitions

* `FileQuery.Text.RangeTable`, `FileQuery.Text.RangeTable.has`,
  `FileQuery.Text.RangeTable.contains`.
-/

namespace FileQuery.Text

/-- A set of code points as its maximal ranges, both ends included. -/
abbrev RangeTable := List (Nat × Nat)

/-- Whether a code point lies in one of the ranges. -/
def RangeTable.has (t : RangeTable) (n : Nat) : Bool :=
  t.any fun r => r.1 ≤ n && n ≤ r.2

/-- Whether the code point of a character lies in one of the ranges. -/
def RangeTable.contains (t : RangeTable) (c : Char) : Bool := t.has c.toNat

end FileQuery.Text
