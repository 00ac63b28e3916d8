import FileQuery.Proofs.Number.Numerals
import FileQuery.Proofs.Number.WholeNumbers

/-!
# Numerals of shown numbers

A shown number is digits, or digits with a point among them. With a fixed number of places it stands
for a multiple of the last place. Without one, a whole number below `2 ^ 53` stands for itself: the
grid of whole numbers has a point for it, so that the shortest digits have no places, and another
whole number is too far away to be meant by them.

## Main definitions

* `FileQuery.Denotes`: what a numeral stands for.

## Main results

* `FileQuery.Binary64.denotes_writePlaces`: numerals with a fixed number of places.
* `FileQuery.FloatLayout.denotes_plain`: whole numbers.
-/

namespace FileQuery

/-- The value of digits, or of digits with a point among them. -/
inductive Denotes : List Char → ℚ → Prop
  | whole {ds : List Char} (hds : IsDigits ds) : Denotes ds (Nat.ofDigitChars 10 ds 0)
  | point {ds fs : List Char} (hds : IsDigits ds) (hfs : IsDigits fs) :
      Denotes (ds ++ '.' :: fs) (Nat.ofDigitChars 10 (ds ++ fs) 0 / 10 ^ fs.length)

variable {n u : Nat} {x : Scientific}

/-! ### A fixed number of places -/

/-- A numeral with a fixed number of places stands for a multiple of the last place. -/
theorem Binary64.denotes_writePlaces (scaled places : Nat) :
    Denotes (writePlaces scaled places) (scaled / 10 ^ places) := by
  unfold writePlaces
  dsimp only
  generalize hds : List.replicate (places + 1 - (Nat.toDigits 10 scaled).length) '0' ++
    Nat.toDigits 10 scaled = ds
  have hlength : places < ds.length := by
    rw [← hds, List.length_append, List.length_replicate]
    omega
  have hdigits : ds.all Char.isDigit = true := by
    rw [← hds, List.all_append, Bool.and_eq_true]
    exact ⟨by simp, (Scientific.isDigits_digitList ⟨scaled, 0⟩).2⟩
  have hvalue : Nat.ofDigitChars 10 ds 0 = scaled := by
    rw [← hds, Nat.ofDigitChars_append, Nat.ofDigitChars_replicate_zero, Nat.mul_zero]
    exact Nat.ofDigitChars_ten_toDigits
  split
  · next hplaces =>
    rw [hplaces, Nat.sub_zero, List.take_length, pow_zero, div_one, ← hvalue]
    exact .whole ⟨List.ne_nil_of_length_pos (Nat.zero_lt_of_lt hlength), hdigits⟩
  · next hplaces =>
    have hparts := List.take_append_drop (ds.length - places) ds
    have hwhole : (ds.take (ds.length - places)).length = ds.length - places := by
      rw [List.length_take]
      omega
    have hfraction : (ds.drop (ds.length - places)).length = places := by
      rw [List.length_drop]
      omega
    rw [← hparts, List.all_append, Bool.and_eq_true] at hdigits
    have hpoint := Denotes.point ⟨List.ne_nil_of_length_pos (by omega), hdigits.1⟩
      ⟨List.ne_nil_of_length_pos (by omega), hdigits.2⟩
    rwa [hparts, hvalue, hfraction] at hpoint

/-! ### Whole numbers -/

namespace Scientific

theorem exponent_le_stripZeros (fuel : Nat) (x : Scientific) :
    x.exponent ≤ (stripZeros fuel x).exponent := by
  induction fuel generalizing x with
  | zero => exact Int.le_refl _
  | succ fuel ih =>
    rw [stripZeros]
    split
    · exact Int.le_trans (Int.le_of_lt (Int.lt_succ _)) (ih _)
    · exact Int.le_refl _

/-- Digits without places have a whole value. -/
theorem value_of_nonneg (h : 0 ≤ x.exponent) :
    x.value = (x.significand * 10 ^ x.exponent.toNat : Nat) := by
  rw [value, ← Int.toNat_of_nonneg h, zpow_natCast, Int.toNat_natCast]
  push_cast
  rfl

end Scientific

namespace Shortest

open Binary64 Scientific

variable {tie : Tie}

/-- A whole number is a point of the grid of whole numbers. -/
theorem exists_onGrid_whole (tie : Tie) (h : Representable u) (hu : u = n * unitsPerOne)
    (hn : 0 < n) : ∃ x, onGrid tie u 0 = some x := by
  have hpos : 0 < u := hu ▸ Nat.mul_pos hn unitsPerOne_pos
  have hbelow : u * (tenPower 0).2 / (unitsPerOne * (tenPower 0).1) = n := by
    have hone : (tenPower 0).1 = 1 ∧ (tenPower 0).2 = 1 := ⟨rfl, rfl⟩
    rw [hone.1, hone.2, Nat.mul_one, Nat.mul_one, hu, Nat.mul_div_cancel _ unitsPerOne_pos]
  refine exists_onGrid_of_near tie h hpos (Or.inl hbelow.symm) ?_
  have hvalue : (n : ℚ) * unitsPerOne = u := by exact_mod_cast hu.symm
  rw [value, zpow_zero, mul_one, hvalue]
  exact near_self u

theorem magnitude_whole (hu : u = n * unitsPerOne) (hn : 0 < n) :
    magnitude u = ((Nat.toDigits 10 n).length - 1 : Nat) := by
  rw [hu, magnitude, if_pos (Nat.le_mul_of_pos_left _ hn), Nat.mul_div_cancel _ unitsPerOne_pos]

/-- A search of numbers from zero on goes no further than any place where there is a result. -/
theorem exists_findSome?_range {α : Type} {f : Nat → Option α} {m k : Nat} {a : α}
    (ha : f m = some a) (hm : m < k) :
    ∃ i b, i ≤ m ∧ f i = some b ∧ (List.range k).findSome? f = some b := by
  have hsplit : List.range k =
      List.range (m + 1) ++ (List.range (k - (m + 1))).map (m + 1 + ·) := by
    rw [← List.range_add, Nat.add_sub_cancel' hm]
  cases hfound : (List.range (m + 1)).findSome? f with
  | none =>
    rw [List.findSome?_eq_none_iff.1 hfound m (List.mem_range.2 (Nat.lt_succ_self m))] at ha
    cases ha
  | some b =>
    obtain ⟨i, hi, hb⟩ := List.exists_of_findSome?_eq_some hfound
    refine ⟨i, b, Nat.le_of_lt_succ (List.mem_range.1 hi), hb, ?_⟩
    rw [hsplit, List.findSome?_append, hfound]
    rfl

/-- The shortest digits of a whole number have no places: grids are tried from the first digit on,
so the grid of whole numbers comes before any narrower one. -/
theorem exponent_digits_nonneg (tie : Tie) (h : Representable u) (hu : u = n * unitsPerOne)
    (hn : 0 < n) (hlt : n < 2 ^ 53) : 0 ≤ (digits tie u).exponent := by
  have hlength : (Nat.toDigits 10 n).length ≤ 16 :=
    (Nat.length_toDigits_le_iff (by decide) (by decide)).2 (Nat.lt_trans hlt (by decide))
  have hmagnitude := magnitude_whole hu hn
  generalize htop : (Nat.toDigits 10 n).length - 1 = top at hmagnitude
  obtain ⟨whole, hwhole⟩ := exists_onGrid_whole tie h hu hn
  rw [← Int.sub_self (top : Int)] at hwhole
  obtain ⟨i, y, hi, hy, hfound⟩ := exists_findSome?_range (k := 18)
    (f := fun i => onGrid tie u (top - (i : Nat))) hwhole (by omega)
  have hexponent := (onGrid_eq_some hy).1
  have hstrip := Scientific.exponent_le_stripZeros y.digitList.length y
  rw [digits, hmagnitude, hfound, Option.getD_some, Scientific.normalize]
  omega

/-- The shortest digits of a whole number have its value. -/
theorem value_digits_whole (tie : Tie) (h : Representable u) (hu : u = n * unitsPerOne)
    (hn : 0 < n) (hlt : n < 2 ^ 53) : (digits tie u).value = n := by
  have hpos : 0 < u := hu ▸ Nat.mul_pos hn unitsPerOne_pos
  have hstep : 2 ^ spacing u ≤ unitsPerOne := by
    obtain ⟨e, he, -⟩ := unitsPerOne_eq_two_pow
    rw [hu, he]
    exact Nat.pow_le_pow_right Nat.two_pos (spacing_le_of_lt hlt)
  have hgap := Nat.le_trans (gapBelow_le u) hstep
  have hnear := near_digits tie h hpos
  rw [value_of_nonneg (exponent_digits_nonneg tie h hu hn hlt)] at hnear ⊢
  generalize (digits tie u).significand * 10 ^ (digits tie u).exponent.toNat = m at hnear ⊢
  have hhigh : 2 * (m * unitsPerOne) ≤ 2 * u + 2 ^ spacing u := by exact_mod_cast hnear.high
  have hlow : 2 * u ≤ 2 * (m * unitsPerOne) + gapBelow u := by
    have hsub := hnear.low
    rw [sub_le_iff_le_add] at hsub
    exact_mod_cast hsub
  -- Two whole numbers that are less than one apart are equal.
  have hle : 2 * m * unitsPerOne ≤ (2 * n + 1) * unitsPerOne := by
    rw [Nat.add_mul, Nat.mul_assoc, Nat.mul_assoc, ← hu]
    omega
  have hge : 2 * n * unitsPerOne ≤ (2 * m + 1) * unitsPerOne := by
    rw [Nat.add_mul, Nat.mul_assoc, Nat.mul_assoc, ← hu]
    omega
  have hle := Nat.le_of_mul_le_mul_right hle unitsPerOne_pos
  have hge := Nat.le_of_mul_le_mul_right hge unitsPerOne_pos
  have heq : m = n := by omega
  rw [heq]

end Shortest

namespace FloatLayout

open Binary64 Shortest Scientific

/-- Digits without places are written with zeros for what is left before the point. -/
theorem writePositional_of_nonneg (mark : String) (h : 0 ≤ x.exponent) :
    writePositional mark x =
      x.digitList ++ List.replicate x.exponent.toNat '0' ++ mark.toList := by
  have hlength : 0 < x.digitList.length := Nat.length_toDigits_pos
  have hpoint : x.leading + 1 = x.exponent + x.digitList.length := by
    rw [leading]
    omega
  have hzeros : (x.exponent + x.digitList.length).toNat - x.digitList.length =
      x.exponent.toNat := by omega
  rw [writePositional, hpoint, if_neg (by omega), if_pos (by omega), hzeros]

/-- A shown whole number stands for itself. -/
theorem denotes_plain (h : Representable u) (hu : u = n * unitsPerOne) (hlt : n < 2 ^ 53) :
    ∃ cs, plain.write (.finite false u h) = String.ofList cs ∧ Denotes cs n := by
  rcases Nat.eq_zero_or_pos n with rfl | hn
  · have hzero : u = 0 := by rw [hu, Nat.zero_mul]
    refine ⟨['0'], ?_, .whole ⟨by simp, by decide⟩⟩
    rw [write, if_pos hzero]
    rfl
  · have hpos : 0 < u := hu ▸ Nat.mul_pos hn unitsPerOne_pos
    have hexponent := exponent_digits_nonneg plain.tie h hu hn hlt
    have hvalue := value_digits_whole plain.tie h hu hn hlt
    rw [value_of_nonneg hexponent] at hvalue
    refine ⟨(digits plain.tie u).digitList ++
      List.replicate (digits plain.tie u).exponent.toNat '0', ?_, ?_⟩
    · have hpositional : plain.positional (digits plain.tie u).leading = true := rfl
      rw [write, if_neg hpos.ne', writeDigits, if_pos hpositional,
        writePositional_of_nonneg _ hexponent]
      simp [plain]
    · obtain ⟨hne, hdigits⟩ := (digits plain.tie u).isDigits_digitList
      rw [← hvalue, Nat.mul_comm, ← ofDigitChars_digitList, ← Nat.ofDigitChars_replicate_zero,
        ← Nat.ofDigitChars_append]
      exact .whole ⟨by simp [hne], by simpa using hdigits⟩

end FloatLayout

end FileQuery
