import FileQuery.Text.RangeTable

/-!
# White space

The Unicode property `White_Space`, which separates the words of a query and is trimmed from dates,
sources and catalog terms.

## Main definitions

* `FileQuery.Text.isWhiteSpace`.
* `FileQuery.Text.trim`: a text without white space at its ends.
* `FileQuery.Text.isBlank`: whether a text holds white space only.
-/

namespace FileQuery.Text

/-- The white-space characters. -/
def whiteSpaceRanges : RangeTable :=
  [(0x09, 0x0D), (0x20, 0x20), (0x85, 0x85), (0xA0, 0xA0), (0x1680, 0x1680), (0x2000, 0x200A),
    (0x2028, 0x2029), (0x202F, 0x202F), (0x205F, 0x205F), (0x3000, 0x3000)]

/-- Whether a character is white space. -/
def isWhiteSpace (c : Char) : Bool := whiteSpaceRanges.contains c

/-- A digit is no white space. -/
theorem isWhiteSpace_of_isDigit {c : Char} (h : c.isDigit = true) : isWhiteSpace c = false := by
  have hbounds : 48 ≤ c.toNat ∧ c.toNat ≤ 57 := by
    simpa [Char.isDigit, UInt32.le_iff_toNat_le] using h
  have houtside : ∀ r ∈ whiteSpaceRanges, 57 < r.1 ∨ r.2 < 48 := by decide
  rw [isWhiteSpace, RangeTable.contains, RangeTable.has, List.any_eq_false]
  intro r hr hin
  have := houtside r hr
  simp only [Bool.and_eq_true, decide_eq_true_eq] at hin
  omega

/-- A list of characters without white space at its end. -/
def trimEnd (cs : List Char) : List Char := (cs.reverse.dropWhile isWhiteSpace).reverse

/-- A list of characters without white space at its ends. -/
def trimChars (cs : List Char) : List Char := trimEnd (cs.dropWhile isWhiteSpace)

/-- A text without white space at its ends. -/
def trim (s : String) : String := String.ofList (trimChars s.toList)

/-- Whether a text holds white space only. -/
def isBlank (s : String) : Bool := s.toList.all isWhiteSpace

end FileQuery.Text
