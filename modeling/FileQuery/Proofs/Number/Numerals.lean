import FileQuery.Proofs.Number.ShortestDigits

/-!
# Numerals of literals

A literal that is written positionally is written as digits, a point and digits. They stand for the
shortest digits of the number, so they are read as the number. Any other literal has the letter of
an exponent.

## Main definitions

* `FileQuery.IsDigits`: digits, at least one.
* `FileQuery.Binary64.Positional`: the numbers that literals write positionally.

## Main results

* `FileQuery.Binary64.exists_numeral`: what is written positionally is read as the number.
* `FileQuery.Binary64.exists_exponent`: anything else has an exponent.
-/

namespace FileQuery

/-- Digits, at least one. -/
def IsDigits (cs : List Char) : Prop := cs ≠ [] ∧ cs.all Char.isDigit = true

namespace Scientific

variable {x y : Scientific}

theorem isDigits_digitList (x : Scientific) : IsDigits x.digitList :=
  ⟨List.ne_nil_of_length_pos Nat.length_toDigits_pos, List.all_eq_true.2 fun _ hc =>
    Nat.isDigit_of_mem_toDigits (by decide) (Nat.le_refl _) hc⟩

theorem ofDigitChars_digitList (x : Scientific) :
    Nat.ofDigitChars 10 x.digitList 0 = x.significand :=
  Nat.ofDigitChars_ten_toDigits

/-- Final zeros of the significand are a larger exponent. -/
theorem value_mul_pow (n k : Nat) (e : Int) : value ⟨n * 10 ^ k, e⟩ = value ⟨n, e + k⟩ := by
  have hten : (10 : ℚ) ≠ 0 := by norm_num
  rw [value, value, zpow_add₀ hten, zpow_natCast]
  push_cast
  ring

/-- Equal values have their first digits at the same place. -/
theorem leading_eq_of_value_eq (hx : 0 < x.significand) (h : x.value = y.value) :
    x.leading = y.leading := by
  have hy : 0 < y.significand := by rwa [← value_pos_iff, ← h, value_pos_iff]
  refine le_antisymm ?_ ?_
  · rw [← Int.lt_add_one_iff, leading_lt_iff hx, h, ← leading_lt_iff hy]
    exact Int.lt_succ _
  · rw [← Int.lt_add_one_iff, leading_lt_iff hy, ← h, ← leading_lt_iff hx]
    exact Int.lt_succ _

end Scientific

namespace FloatLayout

open Scientific (value)

variable {x : Scientific}

theorem ofDigitChars_leading_zeros (n : Nat) (ds : List Char) :
    Nat.ofDigitChars 10 ('0' :: (List.replicate n '0' ++ ds)) 0 = Nat.ofDigitChars 10 ds 0 := by
  rw [← List.cons_append, ← List.replicate_succ, Nat.ofDigitChars_append,
    Nat.ofDigitChars_replicate_zero, Nat.mul_zero]

theorem ofDigitChars_final_zeros (n : Nat) (ds : List Char) :
    Nat.ofDigitChars 10 (ds ++ List.replicate n '0' ++ ['0']) 0 =
      Nat.ofDigitChars 10 ds 0 * 10 ^ (n + 1) := by
  rw [List.append_assoc, ← List.replicate_succ', Nat.ofDigitChars_append,
    Nat.ofDigitChars_replicate_zero, Nat.mul_comm]

/-- Positional text is a numeral with the same value. -/
theorem exists_writePositional (x : Scientific) : ∃ ds fs, IsDigits ds ∧ IsDigits fs ∧
    writePositional ".0" x = ds ++ '.' :: fs ∧
      value ⟨Nat.ofDigitChars 10 (ds ++ fs) 0, -(fs.length : Int)⟩ = x.value := by
  obtain ⟨hne, hdigits⟩ := x.isDigits_digitList
  have hlength : 0 < x.digitList.length := List.length_pos_of_ne_nil hne
  have hpoint : x.leading + 1 = x.exponent + x.digitList.length := by
    rw [Scientific.leading]
    omega
  unfold writePositional
  dsimp only
  rw [hpoint]
  split
  · -- all digits stand behind the point
    refine ⟨['0'], _, ⟨by simp, by decide⟩, ⟨by simp [hne], by simpa using hdigits⟩, rfl, ?_⟩
    rw [List.singleton_append, ofDigitChars_leading_zeros, x.ofDigitChars_digitList,
      List.length_append, List.length_replicate]
    congr 2
    omega
  · split
    · -- all digits stand before the point
      refine ⟨_, ['0'], ⟨by simp [hne], by simpa using hdigits⟩, ⟨by simp, by decide⟩, rfl, ?_⟩
      rw [ofDigitChars_final_zeros, x.ofDigitChars_digitList, Scientific.value_mul_pow,
        List.length_singleton]
      congr 2
      omega
    · generalize hn : (x.exponent + x.digitList.length).toNat = n
      have hparts := List.take_append_drop n x.digitList
      rw [← hparts, List.all_append, Bool.and_eq_true] at hdigits
      refine ⟨_, _, ⟨?_, hdigits.1⟩, ⟨?_, hdigits.2⟩, rfl, ?_⟩
      · rw [Ne, List.take_eq_nil_iff, not_or]
        exact ⟨by omega, hne⟩
      · rw [Ne, List.drop_eq_nil_iff]
        omega
      · rw [hparts, x.ofDigitChars_digitList, List.length_drop]
        congr 2
        omega

/-- Text with an exponent begins with a digit and has the letter of the exponent behind it. -/
theorem exists_writeExponential (plus : String) (x : Scientific) :
    ∃ c r, writeExponential plus x = c :: r ∧ c.isDigit = true ∧ 'e' ∈ r := by
  obtain ⟨hne, hdigits⟩ := x.isDigits_digitList
  unfold writeExponential
  dsimp only
  cases hx : x.digitList with
  | nil => exact absurd hx hne
  | cons d ds =>
    rw [hx] at hdigits
    have hd := List.all_eq_true.1 hdigits d List.mem_cons_self
    cases ds with
    | nil => exact ⟨d, _, rfl, hd, by simp⟩
    | cons d' ds => exact ⟨d, _, rfl, hd, by simp⟩

end FloatLayout

namespace Binary64

open FloatLayout Shortest

/-- The numbers that literals write positionally: zero, and `0.0001` and more below `10 ^ 16`. -/
def Positional (u : Nat) : Prop :=
  u = 0 ∨ unitsPerOne ≤ u * 10 ^ 4 ∧ u < 10 ^ 16 * unitsPerOne

instance (u : Nat) : Decidable (Positional u) := inferInstanceAs (Decidable (_ ∨ _))

variable {u : Nat}

/-- The text of a literal without its sign. -/
def literalBody (u : Nat) : List Char :=
  if u = 0 then "0.0".toList else FloatLayout.literal.writeDigits (digits .up u)

theorem write_literal (negative : Bool) (h : Representable u) :
    (FloatLayout.literal.write (.finite negative u h)).toList =
      (if negative then ['-'] else []) ++ literalBody u := by
  rw [FloatLayout.write, String.toList_ofList]
  rfl

theorem positional_iff (h : Representable u) (hu : 0 < u) :
    Positional u ↔ FloatLayout.literal.positional (digits .up u).leading = true := by
  have hbounds : FloatLayout.literal.positional (digits .up u).leading = true ↔
      -4 ≤ (digits .up u).leading ∧ (digits .up u).leading < 16 := by
    simp [FloatLayout.literal]
  rw [hbounds, neg_four_le_leading_iff h hu, leading_lt_sixteen_iff h hu, Positional]
  simp [Nat.ne_of_gt hu]

/-- What is written positionally is a numeral that is read as the number. -/
theorem exists_numeral (h : Representable u) (hpositional : Positional u) :
    ∃ ds fs, IsDigits ds ∧ IsDigits fs ∧ literalBody u = ds ++ '.' :: fs ∧
      ofNumeral ds fs = .finite false u h := by
  rcases Nat.eq_zero_or_pos u with rfl | hu
  · exact ⟨['0'], ['0'], ⟨by simp, by decide⟩, ⟨by simp, by decide⟩, rfl, rfl⟩
  · have hwritten := (positional_iff h hu).1 hpositional
    have hpos := significand_digits_pos .up h hu
    obtain ⟨ds, fs, hds, hfs, htext, hvalue⟩ := exists_writePositional (digits .up u)
    have hleading := Scientific.leading_eq_of_value_eq hpos hvalue.symm
    have hbounds : -4 ≤ (digits .up u).leading ∧ (digits .up u).leading < 16 := by
      simpa [FloatLayout.literal] using hwritten
    refine ⟨ds, fs, hds, hfs, ?_, ofScientific_of_near false h ?_ ?_ ?_ ?_⟩
    · rw [literalBody, if_neg (Nat.ne_of_gt hu), writeDigits, if_pos hwritten]
      exact htext
    · rwa [← Scientific.value_pos_iff, hvalue, Scientific.value_pos_iff]
    · omega
    · omega
    · rw [hvalue]
      exact near_digits .up h hu

/-- What is not written positionally begins with a digit and has an exponent. -/
theorem exists_exponent (h : Representable u) (hpositional : ¬Positional u) :
    ∃ c r, literalBody u = c :: r ∧ c.isDigit = true ∧ 'e' ∈ r := by
  have hu : 0 < u := Nat.pos_of_ne_zero fun hzero => hpositional (Or.inl hzero)
  rw [positional_iff h hu] at hpositional
  rw [literalBody, if_neg (Nat.ne_of_gt hu), writeDigits, if_neg hpositional]
  exact exists_writeExponential _ _

end Binary64

end FileQuery
