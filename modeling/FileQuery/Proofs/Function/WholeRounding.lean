import FileQuery.Function.Scalar
import FileQuery.Proofs.Number.WholeNumbers

/-!
# Rounding whole numbers to decimal places

A number without a fraction has nothing that rounding to places could take away. Below `2 ^ 96` it
is a decimal and it is kept. From there on it is multiplied by the power of ten and divided by it
again, so it is kept where the product exists; otherwise the result may be a number next to it, and
it is an infinity where the product leaves the format.

## Main results

* `FileQuery.ScalarFunction.round_whole`: what rounding makes of a whole number.
-/

namespace FileQuery

namespace ScalarFunction

open Binary64

variable {negative : Bool} {n k : Nat} {p : Int64} {x : Binary64}

theorem apply_round [PatternEngine] (hlow : 0 ≤ p.toInt) (hhigh : p.toInt ≤ 12) :
    apply .round [.float x, .integer p] = .ok (.float (roundFloat x p.toInt.toNat)) := by
  rw [apply, roundValue, places_integer hlow hhigh]
  rfl

/-! ### The two paths -/

/-- A whole number that is a decimal is kept. -/
theorem position_roundFloat_of_lt (h : Representable (n * unitsPerOne)) (hn : n < 2 ^ 96)
    (k : Nat) : (roundFloat (.finite negative (n * unitsPerOne) h) k).position =
      signedUnits negative (n * unitsPerOne) := by
  have hdecimal := Decimal.ofBinary?_whole negative h rfl
  rw [Decimal.ofParts?, dif_pos ⟨hn, Nat.zero_le _⟩] at hdecimal
  rw [roundFloat, hdecimal]
  dsimp only
  rw [Decimal.roundTo, if_pos (Nat.zero_le _)]
  exact Decimal.position_toBinary rfl h

/-- A whole number that is no decimal is multiplied by the power of ten, and the product is divided
by it. -/
theorem roundFloat_of_le (h : Representable (n * unitsPerOne)) (hn : 2 ^ 96 ≤ n) (hk : k ≤ 12) :
    roundFloat (.finite negative (n * unitsPerOne) h) k =
      (Binary64.round negative (n * unitsPerOne * 10 ^ k) 1).roundToWhole.div
        (.finite false (10 ^ k * unitsPerOne) (representable_ten_pow hk)) := by
  have hdecimal := Decimal.ofBinary?_whole negative h rfl
  rw [Decimal.ofParts?, dif_neg fun hsmall => Nat.not_lt_of_le hn hsmall.1] at hdecimal
  rw [roundFloat, hdecimal]
  dsimp only
  rw [power_ten hk, mul_whole]

theorem overflow_le_nearest_product_iff (n k : Nat) :
    overflow ≤ nearest (n * unitsPerOne * 10 ^ k) 1 ↔ firstInfinite ≤ n * 10 ^ k := by
  rw [Nat.mul_right_comm, overflow_le_nearest_whole_iff]

/-- A product beyond the format stays an infinity. -/
theorem roundFloat_of_firstInfinite_le (h : Representable (n * unitsPerOne)) (hn : 2 ^ 96 ≤ n)
    (hk : k ≤ 12) (hlarge : firstInfinite ≤ n * 10 ^ k) :
    roundFloat (.finite negative (n * unitsPerOne) h) k = .infinite negative := by
  rw [← overflow_le_nearest_product_iff] at hlarge
  have hinfinite : (roundToWhole (.infinite negative)).div
      (.finite false (10 ^ k * unitsPerOne) (representable_ten_pow hk)) = .infinite negative := by
    cases negative <;> rfl
  rw [roundFloat_of_le h hn hk, round_of_overflow_le negative hlarge, hinfinite]

/-- Within the format the rounded product is divided. -/
theorem roundFloat_of_lt_firstInfinite (h : Representable (n * unitsPerOne)) (hn : 2 ^ 96 ≤ n)
    (hk : k ≤ 12) (hsmall : n * 10 ^ k < firstInfinite) :
    roundFloat (.finite negative (n * unitsPerOne) h) k =
      Binary64.round negative (nearest (n * unitsPerOne * 10 ^ k) 1) (10 ^ k) := by
  rw [← Nat.not_le, ← overflow_le_nearest_product_iff, Nat.not_le] at hsmall
  obtain ⟨e, hunits, -⟩ := unitsPerOne_eq_two_pow
  have hdvd : unitsPerOne ∣ nearest (n * unitsPerOne * 10 ^ k) 1 := by
    rw [hunits]
    exact two_pow_dvd_nearest (Nat.dvd_mul_right_of_dvd (Nat.dvd_mul_left _ n) _)
  rw [roundFloat_of_le h hn hk, round_of_lt negative hsmall, roundToWhole_of_dvd _ _ hdvd,
    div_whole _ _ _ (Nat.pow_pos (by decide))]

/-- What is multiplied exactly is given back exactly. -/
theorem roundFloat_of_representable (h : Representable (n * unitsPerOne)) (hn : 2 ^ 96 ≤ n)
    (hk : k ≤ 12) (hproduct : Representable (n * 10 ^ k * unitsPerOne)) :
    roundFloat (.finite negative (n * unitsPerOne) h) k = .finite negative (n * unitsPerOne) h := by
  have hpow : 0 < 10 ^ k := Nat.pow_pos (by decide)
  rw [Nat.mul_right_comm] at hproduct
  rw [roundFloat_of_le h hn hk, round_representable negative hproduct,
    roundToWhole_of_dvd _ _ (Nat.dvd_mul_right_of_dvd (Nat.dvd_mul_left _ n) _),
    div_whole _ _ _ hpow, round_mul_right negative h hpow]

/-- A quotient by more than one is within the format. -/
theorem nearest_lt_overflow {w : Nat} (hw : w < overflow) (hk : 0 < k) :
    nearest w (10 ^ k) < overflow := by
  have hpow : 10 ^ 1 ≤ 10 ^ k := Nat.pow_le_pow_right (by decide) hk
  have hmul := Nat.mul_le_mul_left overflow hpow
  rw [← Nat.not_le, overflow_le_nearest_iff _ (Nat.lt_of_lt_of_le (by decide) hpow)]
  omega

/-- Within the format the result is the number or one next to it. -/
theorem adjacent_roundFloat (h : Representable (n * unitsPerOne)) (hn : 2 ^ 96 ≤ n)
    (hk : k ≤ 12) (hsmall : n * 10 ^ k < firstInfinite) :
    (roundFloat (.finite negative (n * unitsPerOne) h) k).isFinite = true ∧
      (Binary64.finite negative (n * unitsPerOne) h).Adjacent
        (roundFloat (.finite negative (n * unitsPerOne) h) k) := by
  rcases Nat.eq_zero_or_pos k with rfl | hpos
  · have hproduct : Representable (n * 10 ^ 0 * unitsPerOne) := by
      rwa [Nat.pow_zero, Nat.mul_one]
    rw [roundFloat_of_representable h hn hk hproduct]
    exact ⟨rfl, adjacent_finite negative h h fun v _ => by omega⟩
  · have hproduct : nearest (n * unitsPerOne * 10 ^ k) 1 < overflow := by
      rwa [← Nat.not_le, overflow_le_nearest_product_iff, Nat.not_le]
    have hlt := nearest_lt_overflow hproduct hpos
    obtain ⟨hhigh, hlow⟩ := nearest_one_near (n * unitsPerOne * 10 ^ k)
    rw [roundFloat_of_lt_firstInfinite h hn hk hsmall, round_of_lt negative hlt]
    exact ⟨rfl, adjacent_finite negative h _ fun v hv =>
      adjacent_nearest h (Nat.pow_pos (by decide)) hlow hhigh hlt hv⟩

/-! ### The result -/

/-- Rounding to places keeps a whole number that is a decimal, or whose multiple by the power of
ten exists. Any other one becomes a number next to it at most, or an infinity of its sign where the
multiple leaves the format. -/
theorem round_whole [PatternEngine] (h : Representable (n * unitsPerOne)) (hlow : 0 ≤ p.toInt)
    (hhigh : p.toInt ≤ 12) :
    ∃ y, apply .round [.float (.finite negative (n * unitsPerOne) h), .integer p] =
        .ok (.float y) ∧
      (n < 2 ^ 96 ∨ Representable (n * 10 ^ p.toInt.toNat * unitsPerOne) →
        y.compare (.finite negative (n * unitsPerOne) h) = .eq) ∧
      (2 ^ 96 ≤ n → firstInfinite ≤ n * 10 ^ p.toInt.toNat → y = .infinite negative) ∧
      (2 ^ 96 ≤ n → n * 10 ^ p.toInt.toNat < firstInfinite →
        y.isFinite = true ∧ (Binary64.finite negative (n * unitsPerOne) h).Adjacent y) := by
  have hk : p.toInt.toNat ≤ 12 := by omega
  refine ⟨_, apply_round hlow hhigh, fun hkept => ?_, fun hn hlarge => ?_, fun hn hsmall => ?_⟩
  · rw [compare_eq, Int.compare_eq_eq]
    rcases Nat.lt_or_ge n (2 ^ 96) with hn | hn
    · rw [position_roundFloat_of_lt h hn, position_finite]
    · rw [roundFloat_of_representable h hn hk (hkept.resolve_left (Nat.not_lt_of_le hn))]
  · exact roundFloat_of_firstInfinite_le h hn hk hlarge
  · exact adjacent_roundFloat h hn hk hsmall

/-- The product of `2 ^ 100` and `10 ^ 12` has zeros enough at its end to exist. -/
theorem round_whole_twoPow : ∃ h : Representable (2 ^ 100 * unitsPerOne), ∃ y,
    apply .round [.float (.finite true (2 ^ 100 * unitsPerOne) h), .integer 12] = .ok (.float y) ∧
      y.compare (.finite true (2 ^ 100 * unitsPerOne) h) = .eq := by
  have h : Representable (2 ^ 100 * unitsPerOne) := by decide +kernel
  have hproduct : Representable (2 ^ 100 * 10 ^ (12 : Int64).toInt.toNat * unitsPerOne) := by
    decide +kernel
  obtain ⟨y, hy, hkept, -⟩ := @round_whole true (2 ^ 100) 12 _ h (by decide) (by decide)
  exact ⟨h, y, hy, hkept (Or.inr hproduct)⟩

/-- Not every whole number is kept: a large one becomes an infinity. -/
theorem round_whole_lost : (Binary64.ofInt (10 ^ 300)).isFinite = true ∧
    (Binary64.ofInt (10 ^ 300)).trunc = .ofInt (10 ^ 300) ∧
      apply .round [.float (.ofInt (10 ^ 300)), .integer 12] = .ok (.float (.infinite false)) := by
  have hrounded : roundFloat (.ofInt (10 ^ 300)) (12 : Int64).toInt.toNat = .infinite false := by
    decide +kernel
  refine ⟨by decide +kernel, by decide +kernel, ?_⟩
  rw [apply_round (by decide) (by decide), hrounded]

end ScalarFunction

end FileQuery
