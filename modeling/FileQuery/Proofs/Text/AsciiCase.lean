import FileQuery.Text.CaseMap
import FileQuery.Text.WhiteSpace

/-!
# The case of ASCII letters

What makes no difference between the two cases of the ASCII letters. The full lower case of a text
is one such thing, although a sigma looks at the letters around it.

## Main results

* `FileQuery.apply_toLower`: a function of characters that agrees on both cases of each letter.
* `FileQuery.Text.toLower_toAsciiLower`: the lower case of a text folded before.
-/

namespace FileQuery

/-- A function of characters that gives the same for both cases of each ASCII letter gives the same
for a character and its lower case. -/
theorem apply_toLower {α : Type} [BEq α] [LawfulBEq α] {f : Char → α}
    (h : "ABCDEFGHIJKLMNOPQRSTUVWXYZ".toList.all (fun c => f c.toLower == f c) = true) (c : Char) :
    f c.toLower = f c := by
  by_cases hc : c.toLower = c
  · rw [hc]
  · have hrange : 65 ≤ c.toNat ∧ c.toNat ≤ 90 := by
      unfold Char.toLower at hc
      split at hc
      · next hupper =>
        simpa [UInt32.le_iff_toNat_le] using hupper
      · exact absurd rfl hc
    have hletters : ∀ n ≤ 90, 65 ≤ n → Char.ofNat n ∈ "ABCDEFGHIJKLMNOPQRSTUVWXYZ".toList := by
      decide
    have hmem := hletters _ hrange.2 hrange.1
    rw [Char.ofNat_toNat] at hmem
    exact eq_of_beq (List.all_eq_true.1 h c hmem)

namespace Text

theorem isWhiteSpace_toLower (c : Char) : isWhiteSpace c.toLower = isWhiteSpace c :=
  apply_toLower (by decide) c

theorem isCased_toLower (c : Char) : isCased c.toLower = isCased c :=
  apply_toLower (by decide) c

theorem isCaseIgnorable_toLower (c : Char) : isCaseIgnorable c.toLower = isCaseIgnorable c :=
  apply_toLower (by decide +kernel) c

theorem lowerChar_toLower (c : Char) : lowerChar c.toLower = lowerChar c :=
  apply_toLower (by decide) c

theorem casedNext_map_toLower (cs : List Char) :
    casedNext (cs.map Char.toLower) = casedNext cs := by
  have hignored : isCaseIgnorable ∘ Char.toLower = isCaseIgnorable :=
    funext isCaseIgnorable_toLower
  rw [casedNext, casedNext, List.dropWhile_map, hignored]
  cases cs.dropWhile isCaseIgnorable with
  | nil => rfl
  | cons c _ => exact isCased_toLower c

theorem lowerFrom_map_toLower (before cs : List Char) :
    lowerFrom (before.map Char.toLower) (cs.map Char.toLower) = lowerFrom before cs := by
  induction cs generalizing before with
  | nil => rfl
  | cons c cs ih =>
    -- Only a sigma looks at the letters around it, and no ASCII letter is one.
    have hsigma : c.toLower.toNat = 0x3A3 ↔ c.toNat = 0x3A3 := by
      have := apply_toLower (f := fun c => c.toNat == 0x3A3) (by decide) c
      rw [← beq_iff_eq, ← beq_iff_eq (a := c.toNat), this]
    have htail := ih (c :: before)
    rw [List.map_cons] at htail
    rw [List.map_cons, lowerFrom, lowerFrom, htail, casedNext_map_toLower, casedNext_map_toLower,
      lowerChar_toLower]
    simp only [hsigma]

/-- The lower case of a text does not depend on the case of its ASCII letters. -/
theorem toLower_toAsciiLower (s : String) : toLower (toAsciiLower s) = toLower s := by
  rw [toLower, toLower, toAsciiLower, String.toList_ofList]
  exact congrArg String.ofList (lowerFrom_map_toLower [] s.toList)

theorem toLower_eq_of_toAsciiLower {s s' : String} (h : toAsciiLower s = toAsciiLower s') :
    toLower s = toLower s' := by
  rw [← toLower_toAsciiLower, h, toLower_toAsciiLower]

end Text

end FileQuery
