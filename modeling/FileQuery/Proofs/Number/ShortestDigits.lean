import FileQuery.Number.FloatText
import FileQuery.Proofs.Number.Neighbourhoods
import Mathlib.Algebra.Order.Field.Power
import Mathlib.Tactic.NormNum
import Mathlib.Tactic.Positivity
import Mathlib.Tactic.Ring

/-!
# The shortest digits read back

The digits that are chosen for a number are near it: on each grid only points are taken that are,
and the grid with eighteen digits has one for every number. So a numeral with their value is read as
the number. They keep the order of numbers too, so that the exponent of the first digit tells on
which side of a power of ten a number lies.

## Main definitions

* `FileQuery.Scientific.value`: what digits with an exponent stand for.

## Main results

* `FileQuery.Scientific.leading_lt_iff`: the exponent of the first digit.
* `FileQuery.Shortest.near_digits`: the digits of a number are near it.
* `FileQuery.Shortest.value_digits_le_iff`: larger numbers have larger digits.
* `FileQuery.Shortest.leading_lt_sixteen_iff`, `FileQuery.Shortest.neg_four_le_leading_iff`: where
  literals are written positionally.
* `FileQuery.Binary64.ofScientific_of_near`: what is near a number is read as this number.
-/

namespace FileQuery

namespace Scientific

/-- The value of digits with an exponent. -/
def value (x : Scientific) : ℚ := x.significand * 10 ^ x.exponent

variable {x : Scientific}

theorem value_pos_iff : 0 < x.value ↔ 0 < x.significand := by
  have hpow : (0 : ℚ) < 10 ^ x.exponent := by positivity
  rw [value, mul_pos_iff_of_pos_right hpow, Nat.cast_pos]

theorem value_stripZeros (fuel : Nat) (x : Scientific) : (stripZeros fuel x).value = x.value := by
  induction fuel generalizing x with
  | zero => rfl
  | succ fuel ih =>
    rw [stripZeros]
    split
    · next h =>
      have hten : (10 : ℚ) ≠ 0 := by norm_num
      have hdiv : (x.significand : ℚ) = (x.significand / 10 : Nat) * 10 := by
        exact_mod_cast (Nat.div_mul_cancel (Nat.dvd_of_mod_eq_zero h.2)).symm
      rw [ih, value, value, zpow_add₀ hten, zpow_one, hdiv]
      ring
    · rfl

@[simp] theorem value_normalize (x : Scientific) : x.normalize.value = x.value :=
  value_stripZeros _ x

/-! ### The exponent of the first digit -/

theorem lt_pow_length (n : Nat) : n < 10 ^ (Nat.toDigits 10 n).length :=
  (Nat.length_toDigits_le_iff (by decide) Nat.length_toDigits_pos).1 (Nat.le_refl _)

theorem pow_length_le {n : Nat} (h : 0 < n) : 10 ^ ((Nat.toDigits 10 n).length - 1) ≤ n := by
  by_contra hlt
  rcases Nat.eq_zero_or_pos ((Nat.toDigits 10 n).length - 1) with hzero | hpos
  · rw [hzero, Nat.pow_zero] at hlt
    omega
  · have hle := (Nat.length_toDigits_le_iff (by decide) hpos).2 (Nat.lt_of_not_le hlt)
    omega

theorem pow_leading_le (h : 0 < x.significand) : (10 : ℚ) ^ x.leading ≤ x.value := by
  have hten : (10 : ℚ) ≠ 0 := by norm_num
  have hle : (10 : ℚ) ^ (x.digitList.length - 1) ≤ x.significand := by
    exact_mod_cast pow_length_le h
  rw [value, leading, add_comm, zpow_add₀ hten, zpow_natCast]
  exact mul_le_mul_of_nonneg_right hle (by positivity)

theorem value_lt_pow_leading (x : Scientific) : x.value < 10 ^ (x.leading + 1) := by
  have hten : (10 : ℚ) ≠ 0 := by norm_num
  have hlength : x.leading + 1 = (x.digitList.length : Nat) + x.exponent := by
    have hpos : 0 < x.digitList.length := Nat.length_toDigits_pos
    rw [leading]
    omega
  have hlt : (x.significand : ℚ) < 10 ^ x.digitList.length := by
    exact_mod_cast lt_pow_length x.significand
  rw [value, hlength, zpow_add₀ hten, zpow_natCast]
  exact mul_lt_mul_of_pos_right hlt (by positivity)

/-- The exponent of the first digit is below another one if the value is below that power. -/
theorem leading_lt_iff (h : 0 < x.significand) {k : Int} : x.leading < k ↔ x.value < 10 ^ k := by
  have hone : (1 : ℚ) < 10 := by norm_num
  constructor
  · intro hlt
    exact lt_of_lt_of_le x.value_lt_pow_leading (zpow_le_zpow_right₀ hone.le hlt)
  · intro hlt
    exact (zpow_lt_zpow_iff_right₀ hone).1 (lt_of_le_of_lt (pow_leading_le h) hlt)

end Scientific

namespace Shortest

open Binary64

variable {tie : Tie} {u v : Nat} {k : Int}

/-! ### Grids -/

theorem tenPower_snd_pos (k : Int) : 0 < (tenPower k).2 := by
  unfold tenPower
  split
  · exact Nat.one_pos
  · exact Nat.pow_pos (by decide)

theorem tenPower_fst_pos (k : Int) : 0 < (tenPower k).1 := by
  unfold tenPower
  split
  · exact Nat.pow_pos (by decide)
  · exact Nat.one_pos

theorem tenPower_eq (k : Int) : ((tenPower k).1 : ℚ) / (tenPower k).2 = 10 ^ k := by
  unfold tenPower
  split
  · next h =>
    obtain ⟨n, rfl⟩ := Int.eq_ofNat_of_zero_le h
    simp
  · next h =>
    obtain ⟨n, rfl⟩ : ∃ n : Nat, k = -n := ⟨k.natAbs, by omega⟩
    simp

/-- A point of a grid as a quotient of units. -/
theorem gridPoint_eq (d : Nat) (k : Int) :
    ((d * (unitsPerOne * (tenPower k).1) : Nat) : ℚ) / (tenPower k).2 =
      d * 10 ^ k * unitsPerOne := by
  rw [← tenPower_eq k]
  push_cast
  ring

/-- A point of a grid is near a number if its neighbourhood holds the point. -/
theorem holds_gridPoint_iff (h : Representable u) (hu : 0 < u) (d : Nat) (k : Int) :
    (neighbourhood u).holds (d * (unitsPerOne * (tenPower k).1)) (tenPower k).2 = true ↔
      Near u (Scientific.value ⟨d, k⟩ * unitsPerOne) := by
  rw [holds_iff h hu (tenPower_snd_pos k), gridPoint_eq]
  rfl

/-- A point that a grid gives for a number is one of this grid, and the neighbourhood of the number
holds it. -/
theorem onGrid_eq_some {x : Scientific} (hx : onGrid tie u k = some x) :
    x.exponent = k ∧ (neighbourhood u).holds
      (x.significand * (unitsPerOne * (tenPower k).1)) (tenPower k).2 = true := by
  unfold onGrid at hx
  dsimp only at hx
  generalize unitsPerOne * (tenPower k).1 = den, (tenPower k).2 = down at hx ⊢
  split at hx
  · next hbelow habove =>
    obtain rfl := Option.some.inj hx
    -- whichever of the two is chosen
    have heither (above : Bool) {d : Nat} (hd : (neighbourhood u).holds (d * den) down = true)
        (hd' : (neighbourhood u).holds ((d + 1) * den) down = true) :
        (neighbourhood u).holds ((if above then d + 1 else d) * den) down = true := by
      cases above
      · exact hd
      · exact hd'
    exact ⟨rfl, heither _ hbelow habove⟩
  · next hbelow habove =>
    obtain rfl := Option.some.inj hx
    exact ⟨rfl, hbelow⟩
  · next hbelow habove =>
    obtain rfl := Option.some.inj hx
    exact ⟨rfl, habove⟩
  · cases hx

theorem near_of_onGrid (h : Representable u) (hu : 0 < u) {x : Scientific}
    (hx : onGrid tie u k = some x) : Near u (x.value * unitsPerOne) := by
  obtain ⟨rfl, hholds⟩ := onGrid_eq_some hx
  exact (holds_gridPoint_iff h hu _ _).1 hholds

/-- A grid has a point for a number if one of the two points next to it is near it. -/
theorem exists_onGrid_of_near (tie : Tie) (h : Representable u) (hu : 0 < u) {d : Nat}
    (hd : d = u * (tenPower k).2 / (unitsPerOne * (tenPower k).1) ∨
      d = u * (tenPower k).2 / (unitsPerOne * (tenPower k).1) + 1)
    (hnear : Near u (Scientific.value ⟨d, k⟩ * unitsPerOne)) : ∃ x, onGrid tie u k = some x := by
  rw [← holds_gridPoint_iff h hu] at hnear
  unfold onGrid
  dsimp only
  split
  · exact ⟨_, rfl⟩
  · exact ⟨_, rfl⟩
  · exact ⟨_, rfl⟩
  · next hbelow habove =>
    rcases hd with rfl | rfl
    · rw [hnear] at hbelow
      cases hbelow
    · rw [hnear] at habove
      cases habove

/-- The first digit of a number is not beyond it. -/
theorem pow_magnitude_le (hu : 0 < u) : (10 : ℚ) ^ magnitude u * unitsPerOne ≤ u := by
  unfold magnitude
  split
  · next hle =>
    have hpos := Nat.div_pos hle unitsPerOne_pos
    have hmul := Nat.mul_le_of_le_div _ _ _ (Scientific.pow_length_le hpos)
    rw [zpow_natCast]
    exact_mod_cast hmul
  · next hlt =>
    have hpow := Scientific.lt_pow_length ((unitsPerOne - 1) / u)
    rw [Nat.div_lt_iff_lt_mul hu] at hpow
    have hmul : unitsPerOne ≤ u * 10 ^ (Nat.toDigits 10 ((unitsPerOne - 1) / u)).length := by
      rw [Nat.mul_comm]
      omega
    rw [zpow_neg, zpow_natCast, inv_mul_le_iff₀ (by positivity), mul_comm]
    exact_mod_cast hmul

/-- The grid point above a number is near it if the grid is narrow enough. -/
theorem near_above (hk : 2 * (10 ^ k * unitsPerOne : ℚ) < (2 ^ spacing u : Nat)) :
    Near u (Scientific.value ⟨u * (tenPower k).2 / (unitsPerOne * (tenPower k).1) + 1, k⟩ *
      unitsPerOne) := by
  generalize hd : u * (tenPower k).2 / (unitsPerOne * (tenPower k).1) = d
  have hdown : (0 : ℚ) < (tenPower k).2 := Nat.cast_pos.2 (tenPower_snd_pos k)
  have hup : 0 < unitsPerOne * (tenPower k).1 := Nat.mul_pos unitsPerOne_pos (tenPower_fst_pos k)
  have hbelow : (d * 10 ^ k * unitsPerOne : ℚ) ≤ u := by
    rw [← gridPoint_eq, div_le_iff₀ hdown]
    exact_mod_cast hd ▸ Nat.div_mul_le_self _ _
  have habove : (u : ℚ) < (d + 1 : Nat) * 10 ^ k * unitsPerOne := by
    rw [← gridPoint_eq, lt_div_iff₀ hdown]
    exact_mod_cast hd ▸ Nat.lt_mul_of_div_lt (Nat.lt_succ_self _) hup
  have hvalue : Scientific.value ⟨d + 1, k⟩ * unitsPerOne =
      d * 10 ^ k * unitsPerOne + 10 ^ k * unitsPerOne := by
    rw [Scientific.value]
    push_cast
    ring
  have hgap : (0 : ℚ) ≤ gapBelow u := Nat.cast_nonneg _
  rw [Scientific.value] at hvalue
  rw [Scientific.value]
  refine ⟨?_, ?_, ?_⟩
  · linarith
  · linarith
  · rintro (heq | heq) <;> linarith

/-- A narrow grid has a point for every number. -/
theorem exists_onGrid (tie : Tie) (h : Representable u) (hu : 0 < u)
    (hk : 2 * (10 ^ k * unitsPerOne : ℚ) < (2 ^ spacing u : Nat)) :
    ∃ x, onGrid tie u k = some x :=
  exists_onGrid_of_near tie h hu (Or.inr rfl) (near_above hk)

/-- The grid with eighteen digits is narrow enough for every number. -/
theorem narrow_of_magnitude (hu : 0 < u) :
    2 * (10 ^ (magnitude u - (17 : Nat)) * unitsPerOne : ℚ) < (2 ^ spacing u : Nat) := by
  have hten : (10 : ℚ) ≠ 0 := by norm_num
  have hlt : (u : ℚ) < 2 ^ 53 * (2 ^ spacing u : Nat) := by exact_mod_cast lt_spacing u
  rw [zpow_sub₀ hten, zpow_natCast, div_mul_eq_mul_div, ← mul_div_assoc,
    div_lt_iff₀ (by positivity)]
  calc 2 * (10 ^ magnitude u * unitsPerOne : ℚ)
    _ ≤ 2 * u := mul_le_mul_of_nonneg_left (pow_magnitude_le hu) (by positivity)
    _ < 2 * (2 ^ 53 * (2 ^ spacing u : Nat)) := mul_lt_mul_of_pos_left hlt (by positivity)
    _ = (2 ^ spacing u : Nat) * 2 ^ 54 := by ring
    _ ≤ (2 ^ spacing u : Nat) * 10 ^ 17 := by
      exact mul_le_mul_of_nonneg_left (by norm_num) (Nat.cast_nonneg _)

/-! ### The chosen digits -/

/-- The digits of a number are near it. -/
theorem near_digits (tie : Tie) (h : Representable u) (hu : 0 < u) :
    Near u ((digits tie u).value * unitsPerOne) := by
  obtain ⟨x, n, hx⟩ : ∃ x n, (List.range 18).findSome?
      (fun n : Nat => onGrid tie u (magnitude u - n)) = some x ∧
        onGrid tie u (magnitude u - (n : Nat)) = some x := by
    cases hfound : (List.range 18).findSome? fun n : Nat => onGrid tie u (magnitude u - n) with
    | some x =>
      obtain ⟨n, -, hn⟩ := List.exists_of_findSome?_eq_some hfound
      exact ⟨x, n, rfl, hn⟩
    | none =>
      obtain ⟨x, hx⟩ := exists_onGrid tie h hu (narrow_of_magnitude hu)
      rw [List.findSome?_eq_none_iff.1 hfound 17 (by decide)] at hx
      cases hx
  rw [digits, hx.1, Option.getD_some, Scientific.value_normalize]
  exact near_of_onGrid h hu hx.2

theorem significand_digits_pos (tie : Tie) (h : Representable u) (hu : 0 < u) :
    0 < (digits tie u).significand := by
  have hlow := (near_digits tie h hu).low
  have hgap : gapBelow u ≤ u := Nat.le_trans (gapBelow_le u) (two_pow_spacing_le h hu)
  have hgapQ : (gapBelow u : ℚ) ≤ u := Nat.cast_le.2 hgap
  have huQ : (0 : ℚ) < u := Nat.cast_pos.2 hu
  have hunits : (0 : ℚ) < unitsPerOne := Nat.cast_pos.2 unitsPerOne_pos
  rw [← Scientific.value_pos_iff, ← mul_pos_iff_of_pos_right hunits]
  linarith

/-- Larger numbers have larger digits. -/
theorem value_digits_le_iff (hu : Representable u) (hu' : 0 < u) (hv : Representable v)
    (hv' : 0 < v) : (digits tie u).value ≤ (digits tie v).value ↔ u ≤ v := by
  have hunits : (0 : ℚ) < unitsPerOne := Nat.cast_pos.2 unitsPerOne_pos
  have hnear := near_digits tie hu hu'
  have hnear' := near_digits tie hv hv'
  have hnonneg : 0 ≤ (digits tie u).value * unitsPerOne :=
    mul_nonneg (Scientific.value_pos_iff.2 (significand_digits_pos tie hu hu')).le hunits.le
  rw [← mul_le_mul_iff_left₀ hunits]
  constructor
  · exact fun hle => hnear.le_of_le hu hv hnear' hle hnonneg
  · intro hle
    rcases Nat.lt_or_eq_of_le hle with hlt | rfl
    · exact hnear.le_of_lt hu hv hnear' hlt
    · exact le_refl _

/-! ### Powers of ten -/

/-- The first digit is below that of a number whose only digit is a one if the number is below. -/
theorem leading_lt_iff_lt (hu : Representable u) (hu' : 0 < u) (hv : Representable v) (hv' : 0 < v)
    (hone : digits tie v = ⟨1, k⟩) : (digits tie u).leading < k ↔ u < v := by
  have hvalue : (digits tie v).value = 10 ^ k := by simp [hone, Scientific.value]
  rw [Scientific.leading_lt_iff (significand_digits_pos tie hu hu'), ← hvalue, lt_iff_not_ge,
    value_digits_le_iff hv hv' hu hu', Nat.not_le]

/-- The number nearest to `0.0001`, in units. -/
def tenThousandth : Nat := 7378697629483821 * 2 ^ 1008

theorem representable_tenThousandth : Representable tenThousandth := by decide +kernel

theorem digits_tenThousandth : digits tie tenThousandth = ⟨1, -4⟩ := by
  cases tie <;> decide +kernel

/-- What is at least the number nearest to `0.0001` is at least `0.0001`. -/
theorem tenThousandth_le_iff (h : Representable u) :
    tenThousandth ≤ u ↔ unitsPerOne ≤ u * 10 ^ 4 := by
  have hpos : 0 < tenThousandth := by decide +kernel
  constructor
  · intro hle
    have hround : unitsPerOne ≤ tenThousandth * 10 ^ 4 := by decide +kernel
    exact Nat.le_trans hround (Nat.mul_le_mul_right _ hle)
  · intro hle
    have hnear := near_digits .up representable_tenThousandth hpos
    rw [digits_tenThousandth] at hnear
    refine hnear.le_of_le representable_tenThousandth h (near_self u) ?_ ?_
    · rw [Scientific.value, Nat.cast_one, one_mul, zpow_neg, inv_mul_le_iff₀ (by norm_num),
        zpow_ofNat, mul_comm]
      exact_mod_cast hle
    · rw [Scientific.value]
      exact mul_nonneg (by norm_num) (Nat.cast_nonneg _)

/-- Literals are written positionally from `0.0001` on. -/
theorem neg_four_le_leading_iff (h : Representable u) (hu : 0 < u) :
    -4 ≤ (digits tie u).leading ↔ unitsPerOne ≤ u * 10 ^ 4 := by
  rw [← tenThousandth_le_iff h, ← Int.not_lt, leading_lt_iff_lt h hu representable_tenThousandth
    (by decide +kernel) digits_tenThousandth, Nat.not_lt]

/-- Literals are written positionally below `10 ^ 16`. -/
theorem leading_lt_sixteen_iff (h : Representable u) (hu : 0 < u) :
    (digits tie u).leading < 16 ↔ u < 10 ^ 16 * unitsPerOne := by
  refine leading_lt_iff_lt h hu (by decide +kernel) (by decide +kernel) ?_
  cases tie <;> decide +kernel

end Shortest

namespace Binary64

open Shortest

variable {u : Nat}

/-- What is near a number is read as this number. -/
theorem ofScientific_of_near (negative : Bool) (h : Representable u) {x : Scientific}
    (hx : 0 < x.significand) (hlow : -400 ≤ x.leading) (hhigh : x.leading ≤ 400)
    (hnear : Near u (x.value * unitsPerOne)) :
    ofScientific negative x = .finite negative u h := by
  have hvalue : x.value * unitsPerOne =
      ((x.significand * (tenPower x.exponent).1 * unitsPerOne : Nat) : ℚ) /
        (tenPower x.exponent).2 := by
    rw [Scientific.value, ← gridPoint_eq, Nat.mul_assoc, Nat.mul_comm unitsPerOne]
  rw [ofScientific, if_neg (by omega), if_neg (by omega), if_neg (by omega)]
  exact round_of_near negative h (tenPower_snd_pos _) (hvalue ▸ hnear)

end Binary64

end FileQuery
