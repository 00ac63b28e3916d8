import FileQuery.Number.Decimal
import FileQuery.Proofs.Number.RoundedQuotients
import FileQuery.Proofs.Value.NumberOrder
import Mathlib.Tactic.Ring

/-!
# Whole floating-point numbers

A number without a fraction is a multiple of the units in one. Up to `2 ^ 53` all whole numbers
exist, and so do the powers of ten that rounding to places needs. A whole number below `2 ^ 96` is a
decimal without places, and it is given back by this decimal; a larger one is no decimal.

A number that is multiplied by a factor and divided by it again has been rounded twice. The result
is the number itself or one next to it.

## Main definitions

* `FileQuery.Binary64.firstInfinite`: the least whole number that is rounded to an infinity.
* `FileQuery.Binary64.Adjacent`: no number lies between two.

## Main results

* `FileQuery.Binary64.position_ofInt`: an integer that exists is kept.
* `FileQuery.Binary64.roundToWhole_of_dvd`: a whole number is its own nearest one.
* `FileQuery.Binary64.adjacent_nearest`: multiplying and dividing again.
* `FileQuery.Decimal.ofBinary?_whole`: a whole number as a decimal.
* `FileQuery.Decimal.position_toBinary`: a decimal without places as a whole number.
-/

namespace FileQuery

variable {negative : Bool} {u w n p : Nat}

namespace Binary64

/-! ### Integers and powers of ten -/

theorem ofRatio_one (negative : Bool) (h : Representable (n * unitsPerOne)) :
    ofRatio negative n 1 = .finite negative (n * unitsPerOne) h := round_representable negative h

theorem ofInt_natCast (h : Representable (n * unitsPerOne)) :
    ofInt n = .finite false (n * unitsPerOne) h := by
  have hsign : decide ((n : Int) < 0) = false := decide_eq_false (by omega)
  rw [ofInt, hsign, Int.natAbs_natCast, ofRatio_one]

/-- An integer that exists is kept. -/
theorem position_ofInt {k : Int} (h : Representable (k.natAbs * unitsPerOne)) :
    (ofInt k).position = positionOfInt k := by
  rw [ofInt, ofRatio_one _ h, position_finite, signedUnits, positionOfInt, Int.natCast_mul]
  by_cases hk : k < 0
  · rw [decide_eq_true hk, if_pos rfl, ← Int.neg_mul, Int.ofNat_natAbs_of_nonpos (by omega),
      Int.neg_neg]
  · rw [decide_eq_false hk, if_neg (by decide), Int.natAbs_of_nonneg (by omega)]

/-- Whole numbers of 53 bits exist. -/
theorem representable_natCast (hn : n ≤ 2 ^ 53) : Representable (n * unitsPerOne) := by
  obtain ⟨e, hunits, hoverflow⟩ := unitsPerOne_eq_two_pow
  rw [hunits]
  refine representable_mul_two_pow hn (Nat.lt_of_le_of_lt (Nat.mul_le_mul_right _ hn) ?_)
  rw [hoverflow, ← Nat.pow_add]
  exact Nat.pow_lt_pow_right Nat.one_lt_two (by omega)

theorem representable_ten_pow (hp : p ≤ 12) : Representable (10 ^ p * unitsPerOne) :=
  representable_natCast (Nat.le_trans (Nat.pow_le_pow_right (by decide) hp) (by decide))

/-- The powers of ten that rounding to places needs are exact. -/
theorem power_ten (hp : p ≤ 12) : power (ofInt 10) p =
    .finite false (10 ^ p * unitsPerOne) (representable_ten_pow hp) := by
  have hall : ∀ p ≤ 12, power (ofInt 10) p = ofInt ((10 ^ p : Nat) : Int) := by decide +kernel
  rw [hall p hp, ofInt_natCast]

/-- A whole number is its own nearest one. -/
theorem roundToWhole_of_dvd (negative : Bool) (h : Representable u) (hwhole : unitsPerOne ∣ u) :
    roundToWhole (.finite negative u h) = .finite negative u h := by
  obtain ⟨m, hm⟩ := hwhole
  rw [Nat.mul_comm] at hm
  have hnearest : Rounding.nearestUp u unitsPerOne = m := by
    rw [hm]
    exact Rounding.nearestUp_mul_right m unitsPerOne_pos
  rw [roundToWhole, hnearest, ofRatio, ← hm]
  exact round_representable negative h

/-! ### Products and quotients with whole numbers -/

theorem mul_whole (negative : Bool) (h : Representable u) (hn : Representable (n * unitsPerOne)) :
    mul (.finite negative u h) (.finite false (n * unitsPerOne) hn) =
      Binary64.round negative (u * n) 1 := by
  rw [mul, Bool.bne_false, ← Nat.mul_assoc]
  have hunits := round_mul_mul negative (u * n) 1 unitsPerOne_pos
  rwa [Nat.one_mul] at hunits

theorem div_whole (negative : Bool) (h : Representable u) (hn : Representable (n * unitsPerOne))
    (hpos : 0 < n) : div (.finite negative u h) (.finite false (n * unitsPerOne) hn) =
      Binary64.round negative u n := by
  rw [div, Bool.bne_false, if_neg (Nat.mul_pos hpos unitsPerOne_pos).ne',
    round_mul_mul negative u n unitsPerOne_pos]

/-- Rounding keeps final zeros in binary. -/
theorem two_pow_dvd_nearest {e num : Nat} (h : 2 ^ e ∣ num) : 2 ^ e ∣ nearest num 1 := by
  rw [nearest, Nat.div_one, Nat.one_mul]
  rcases Nat.le_total e (spacing num) with hle | hle
  · exact Nat.dvd_mul_left_of_dvd (Nat.pow_dvd_pow 2 hle) _
  · obtain ⟨k, hk⟩ := Nat.dvd_trans (Nat.pow_dvd_pow 2 hle) h
    have hkept : Rounding.nearestEven num (2 ^ spacing num) = k := by
      conv => lhs; arg 1; rw [hk, Nat.mul_comm]
      exact Rounding.nearestEven_mul_right k (Nat.two_pow_pos _)
    rw [hkept, Nat.mul_comm, ← hk]
    exact h

/-- The least whole number that is rounded to an infinity. -/
def firstInfinite : Nat := (2 ^ 54 - 1) * 2 ^ 970

theorem overflow_le_nearest_whole_iff (n : Nat) :
    overflow ≤ nearest (n * unitsPerOne) 1 ↔ firstInfinite ≤ n := by
  obtain ⟨e, hunits, hoverflow⟩ := unitsPerOne_eq_two_pow
  have hexponent : 1024 + e = 54 + (970 + e) := by omega
  have hlimit : (2 ^ 54 - 1) * (overflow * 1) = 2 ^ 54 * firstInfinite * 2 ^ e := by
    rw [hoverflow, hexponent, Nat.pow_add, Nat.pow_add, firstInfinite]
    generalize 2 ^ 970 = step
    ring
  rw [overflow_le_nearest_iff _ Nat.one_pos, hlimit, hunits, ← Nat.mul_assoc,
    Nat.mul_le_mul_right_iff (Nat.two_pow_pos e), Nat.mul_le_mul_left_iff (Nat.two_pow_pos 54)]

/-! ### There and back -/

/-- No number lies between the two: they are equal or next to each other. -/
def Adjacent (x y : Binary64) : Prop :=
  ∀ z : Binary64, ¬(x.below z = true ∧ z.below y = true) ∧ ¬(y.below z = true ∧ z.below x = true)

theorem adjacent_finite (negative : Bool) (hu : Representable u) (hw : Representable w)
    (hbetween : ∀ v, Representable v → ¬(u < v ∧ v < w) ∧ ¬(w < v ∧ v < u)) :
    Adjacent (.finite negative u hu) (.finite negative w hw) := by
  intro z
  cases z with
  | nan => simp [below, isNaN]
  | infinite t =>
    have hu := hu.2
    have hw := hw.2
    rw [below_iff rfl rfl, below_iff rfl rfl, below_iff rfl rfl, below_iff rfl rfl]
    cases t <;> cases negative <;> simp only [position] <;> omega
  | finite t v hv =>
    have hnone := hbetween v hv
    rw [below_iff rfl rfl, below_iff rfl rfl, below_iff rfl rfl, below_iff rfl rfl]
    cases t <;> cases negative <;> simp only [position] <;> omega

/-- The next number is at least a step away. -/
theorem add_spacing_le_of_lt {v : Nat} (hu : Representable u) (hv : Representable v) (h : u < v) :
    u + 2 ^ spacing u ≤ v := by
  have hdvd : 2 ^ spacing u ∣ v :=
    Nat.dvd_trans (Nat.pow_dvd_pow 2 (spacing_mono (Nat.le_of_lt h))) hv.1
  have hle := Nat.le_of_dvd (Nat.sub_pos_of_lt h) (Nat.dvd_sub hdvd hu.1)
  omega

/-- A rounded whole count is off by at most one part in `2 ^ 53`. -/
theorem nearest_one_near (num : Nat) :
    2 ^ 53 * nearest num 1 ≤ 2 ^ 53 * num + num ∧ 2 ^ 53 * num ≤ 2 ^ 53 * nearest num 1 + num := by
  obtain ⟨hlow, hhigh⟩ := Rounding.nearestEven_near num (Nat.two_pow_pos (spacing num))
  rcases Nat.eq_zero_or_pos (spacing num) with hzero | hpos
  · have hkept : nearest num 1 = num := by
      have hone := Rounding.nearestEven_mul_right num Nat.one_pos
      rw [nearest, Nat.div_one, hzero, Nat.pow_zero, Nat.mul_one]
      rwa [Nat.mul_one] at hone
    rw [hkept]
    omega
  · have hleast := le_of_spacing_pos hpos
    rw [nearest, Nat.div_one, Nat.one_mul]
    omega

/-- A count that is off by at most one part in `2 ^ 53` from a multiple of a number is brought back,
by division and rounding, to this number or one next to it. -/
theorem adjacent_nearest (hu : Representable u) (hn : 0 < n)
    (hlow : 2 ^ 53 * (u * n) ≤ 2 ^ 53 * w + u * n) (hhigh : 2 ^ 53 * w ≤ 2 ^ 53 * (u * n) + u * n)
    (hlt : nearest w n < overflow) {v : Nat} (hv : Representable v) :
    ¬(u < v ∧ v < nearest w n) ∧ ¬(nearest w n < v ∧ v < u) := by
  constructor
  · rintro ⟨huv, hv'⟩
    have hw : v * n < w := Nat.lt_of_not_le fun hle =>
      Nat.not_le_of_lt hv' (nearest_le_of_le hv hn hle hlt)
    have hstep := Nat.mul_le_mul_right n (add_spacing_le_of_lt hu hv huv)
    have hspacing := Nat.mul_lt_mul_of_pos_right (lt_spacing u) hn
    rw [Nat.add_mul] at hstep
    rw [Nat.mul_assoc] at hspacing
    omega
  · rintro ⟨hv', hvu⟩
    have hw : w < v * n := Nat.lt_of_not_le fun hle =>
      Nat.not_le_of_lt hv' (le_nearest_of_le hv hn hle)
    have hstep := Nat.mul_le_mul_right n (add_spacing_le_of_lt hv hu hvu)
    have hspacing := Nat.mul_le_mul_right n (add_spacing_le hv)
    rw [Nat.add_mul] at hstep hspacing
    rw [Nat.mul_assoc] at hspacing
    omega

end Binary64

namespace Decimal

open Binary64

/-! ### Decimals without places -/

/-- A number with enough final zeros in binary has no tenths. -/
theorem halvesToTenths_mul_pow (n halves : Nat) :
    halvesToTenths (n * 2 ^ halves) halves halves = (n, 0) := by
  have hsteps (halves tenths : Nat) :
      halvesToTenths (n * 2 ^ halves) halves tenths = (n, tenths - halves) := by
    induction halves generalizing tenths with
    | zero => rw [Nat.pow_zero, Nat.mul_one, halvesToTenths, Nat.sub_zero]
    | succ halves ih =>
      have hsucc : n * 2 ^ (halves + 1) = n * 2 ^ halves * 2 := by rw [Nat.pow_succ, Nat.mul_assoc]
      rw [hsucc, halvesToTenths, if_pos (Nat.mul_mod_left _ 2), Nat.mul_div_cancel _ Nat.two_pos,
        ih, Nat.sub_sub, Nat.add_comm 1]
  rw [hsteps, Nat.sub_self]

/-- What is a whole number in halves needs no tenths. -/
theorem ofParts?_halvesToTenths (negative : Bool) (n halves : Nat) :
    (let (m, s) := halvesToTenths (n * 2 ^ halves) halves halves
     let (m, s) := limitScale m s
     let (m, s) := limitMantissa m s
     let (m, s) := stripZeros m s
     ofParts? negative m s) = ofParts? negative n 0 := by
  rw [halvesToTenths_mul_pow]
  rfl

/-- A whole number is a decimal without places if the mantissa holds it, and else no decimal. -/
theorem ofBinary?_whole (negative : Bool) (h : Representable u) (hu : u = n * unitsPerOne) :
    ofBinary? (.finite negative u h) = ofParts? negative n 0 := by
  obtain ⟨e, he, hone⟩ : ∃ e : Nat, (1074 : Int) = e ∧ unitsPerOne = 2 ^ e :=
    ⟨1074, rfl, by rw [unitsPerOne]⟩
  rw [hone] at hu
  rw [ofBinary?]
  split
  · next hzero =>
    have hn : n = 0 := (Nat.mul_eq_zero.1 (hu.symm.trans hzero)).resolve_right
      (Nat.two_pow_pos e).ne'
    rw [hn]
  · rw [binaryParts, he]
    dsimp only
    rcases Nat.lt_or_ge (spacing u) e with hlt | hle
    · have hexponent : (-((spacing u : Int) - e)).toNat = e - spacing u := by omega
      have hshift : u / 2 ^ spacing u = n * 2 ^ (e - spacing u) := by
        refine Nat.div_eq_of_eq_mul_left (Nat.two_pow_pos _) ?_
        rw [Nat.mul_assoc, ← Nat.pow_add, Nat.sub_add_cancel (Nat.le_of_lt hlt), hu]
      rw [if_neg (by omega), hexponent, hshift]
      exact ofParts?_halvesToTenths negative n _
    · -- The last bit of the significand is worth one or more.
      have hexponent : ((spacing u : Int) - e).toNat = spacing u - e := by omega
      have hshift : u / 2 ^ spacing u * 2 ^ (spacing u - e) = n := by
        refine Nat.eq_of_mul_eq_mul_right (Nat.two_pow_pos e) ?_
        rw [Nat.mul_assoc, ← Nat.pow_add, Nat.sub_add_cancel hle, Nat.div_mul_cancel h.1, hu]
      rw [if_pos (by omega), hexponent, hshift]

/-- A decimal without places is given back as the whole number that it came from. -/
theorem position_toBinary {d : Decimal} (hscale : d.scale = 0)
    (h : Representable (d.mantissa * unitsPerOne)) :
    d.toBinary.position = signedUnits d.negative (d.mantissa * unitsPerOne) := by
  rw [← natAbs_signed] at h
  rw [toBinary, if_pos hscale, position_ofInt h, positionOfInt, signed, signedUnits]
  split
  · rw [Int.neg_mul, Int.natCast_mul]
  · exact (Int.natCast_mul _ _).symm

end Decimal

end FileQuery
