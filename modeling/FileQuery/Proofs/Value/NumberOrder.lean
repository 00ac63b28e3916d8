import Mathlib.Tactic.Linarith
import FileQuery.Value.Order

/-!
# The order of integers and floats is that of their values

A 64-bit integer is compared with a float by cases: beyond the range of the integers the side
decides, and within it the whole part, cut off toward zero, and then the sign of the rest. This
file shows that the outcome is the comparison of the two places on one line of integers, on which
every integer and every float has its place (`Binary64.positionOfInt`, `Binary64.position`).

## Main results

* `FileQuery.Binary64.compare_eq`: floats are compared by their places.
* `FileQuery.Binary64.compareInt_eq`, `FileQuery.Binary64.compare_int64_eq`: so are integers with
  floats and with each other.
-/

namespace FileQuery

namespace Binary64

/-! ### Places -/

theorem position_finite (s : Bool) {u : Nat} (h : Representable u) :
    (Binary64.finite s u h).position = signedUnits s u := by
  cases s <;> rfl

theorem position_neg {x : Binary64} (hx : x.isNaN = false) : x.neg.position = -x.position := by
  cases x with
  | nan => cases hx
  | infinite s =>
    cases s
    · rfl
    · exact (Int.neg_neg _).symm
  | finite s u h =>
    cases s
    · rfl
    · exact (Int.neg_neg _).symm

theorem natAbs_signedUnits (s : Bool) (u : Nat) : (signedUnits s u).natAbs = u := by
  cases s <;> simp [signedUnits]

theorem isNaN_neg (x : Binary64) : x.neg.isNaN = x.isNaN := by
  cases x <;> rfl

/-- Only not-a-number is above the infinities. -/
theorem position_lt_nan {x : Binary64} (hx : x.isNaN = false) : x.position < 4 * overflow := by
  have ho := overflow_pos
  cases x with
  | nan => cases hx
  | infinite s => cases s <;> simp only [position] <;> omega
  | finite s u h =>
    have hu := h.2
    cases s <;> simp only [position] <;> omega

/-- Floats are compared by their places. -/
theorem compare_eq (x y : Binary64) : x.compare y = Ord.compare x.position y.position := by
  unfold compare
  cases hx : x.isNaN <;> cases hy : y.isNaN
  · rfl
  · obtain rfl : y = .nan := by cases y <;> simp_all [isNaN]
    exact (Int.compare_eq_lt.2 (position_lt_nan hx)).symm
  · obtain rfl : x = .nan := by cases x <;> simp_all [isNaN]
    exact (Int.compare_eq_gt.2 (position_lt_nan hy)).symm
  · obtain rfl : x = .nan := by cases x <;> simp_all [isNaN]
    obtain rfl : y = .nan := by cases y <;> simp_all [isNaN]
    exact (Int.compare_eq_eq.2 rfl).symm

/-- What lies within the format is finite. -/
theorem exists_eq_finite {x : Binary64} (hlow : -(overflow : Int) < x.position)
    (hhigh : x.position < overflow) : ∃ s u h, x = .finite s u h := by
  cases x with
  | nan =>
    simp only [position] at hhigh
    omega
  | infinite s => cases s <;> simp only [position] at hlow hhigh <;> omega
  | finite s u h => exact ⟨s, u, h, rfl⟩

theorem below_iff {x y : Binary64} (hx : x.isNaN = false) (hy : y.isNaN = false) :
    x.below y = true ↔ x.position < y.position := by
  simp [below, hx, hy]

/-! ### Whole part and rest -/

/-- The rest of a number beyond its whole part exists. -/
theorem representable_rest {u : Nat} (h : Representable u) : Representable (u % unitsPerOne) := by
  obtain ⟨e, he, -⟩ := unitsPerOne_eq_two_pow
  rw [he]
  refine ⟨?_, Nat.lt_of_le_of_lt (Nat.mod_le u _) h.2⟩
  rcases Nat.eq_zero_or_pos (u % 2 ^ e) with hz | hpos
  · rw [hz]
    exact Nat.dvd_zero _
  · have hlog : (u % 2 ^ e).log2 ≤ u.log2 := by
      have hu : u ≠ 0 := fun hu => by simp [hu] at hpos
      exact (Nat.le_log2 hu).2 (Nat.le_trans (Nat.log2_self_le (Nat.pos_iff_ne_zero.1 hpos))
        (Nat.mod_le u _))
    have hspacing : spacing (u % 2 ^ e) ≤ spacing u := by
      unfold spacing
      omega
    have hle : spacing (u % 2 ^ e) ≤ e := by
      have := (Nat.log2_lt (Nat.pos_iff_ne_zero.1 hpos)).2 (Nat.mod_lt u (Nat.two_pow_pos e))
      unfold spacing
      omega
    exact (Nat.dvd_mod_iff (Nat.pow_dvd_pow 2 hle)).2
      (Nat.dvd_trans (Nat.pow_dvd_pow 2 hspacing) h.1)

theorem signedUnits_bounds (s : Bool) {r k : Nat} (h : r < k) :
    -(k : Int) < signedUnits s r ∧ signedUnits s r < k := by
  cases s <;> simp only [signedUnits, Bool.false_eq_true, if_true, if_false] <;> omega

theorem signedUnits_div_add_mod (s : Bool) (u n : Nat) :
    signedUnits s (u / n) * n + signedUnits s (u % n) = signedUnits s u := by
  have h : ((u / n : Nat) : Int) * n + (u % n : Nat) = u := by
    exact_mod_cast Nat.div_add_mod' u n
  cases s
  · exact h
  · simp only [signedUnits, if_true, Int.neg_mul]
    omega

theorem signedUnits_sub_whole (s : Bool) (u n : Nat) :
    signedUnits s u + signedUnits (!s) (u / n * n) = signedUnits s (u % n) := by
  have h : ((u / n * n : Nat) : Int) + (u % n : Nat) = u := by
    exact_mod_cast Nat.div_add_mod' u n
  cases s <;>
    simp only [signedUnits, Bool.not_true, Bool.not_false, Bool.false_eq_true, if_true, if_false]
  · omega
  · omega

/-- A sum of units that exists is not rounded. -/
theorem position_add_finite {s t : Bool} {u v : Nat} (hu : Representable u) (hv : Representable v)
    (hsum : Representable (signedUnits s u + signedUnits t v).natAbs) :
    ((Binary64.finite s u hu).add (Binary64.finite t v hv)).position =
      signedUnits s u + signedUnits t v := by
  generalize hw : signedUnits s u + signedUnits t v = w at hsum
  simp only [add, hw]
  split
  · next hz =>
    rw [hz]
    cases s <;> cases t <;> rfl
  · rw [round_representable _ hsum, position_finite]
    by_cases hneg : w < 0
    · simp only [signedUnits, hneg, decide_true, if_true]
      omega
    · simp only [signedUnits, hneg, decide_false, Bool.false_eq_true, if_false]
      omega

/-- The difference of a number and its whole part is exact. -/
theorem position_sub_trunc (s : Bool) {u : Nat} (h : Representable u) :
    ((Binary64.finite s u h).sub (Binary64.finite s u h).trunc).position =
      signedUnits s (u % unitsPerOne) := by
  have hsum := signedUnits_sub_whole s u unitsPerOne
  rw [← hsum]
  apply position_add_finite
  rw [hsum, natAbs_signedUnits]
  exact representable_rest h

/-! ### Integers against floats -/

theorem compare_toInt (m n : Int64) : Ord.compare m n = Ord.compare m.toInt n.toInt := by
  simp only [Ord.compare, compareOfLessAndEq, Int64.lt_iff_toInt_lt, ← Int64.toInt_inj]

/-- Comparing whole parts first and then the sign of the rest compares the sums. -/
theorem compare_then_compare_rest {n w r k : Int} (hlow : -k < r) (hhigh : r < k) :
    (Ord.compare n w).then (Ord.compare 0 r) = Ord.compare (n * k) (w * k + r) := by
  rcases lt_trichotomy n w with h | rfl | h
  · have hk : n * k < w * k + r := by nlinarith
    rw [Int.compare_eq_lt.2 h, Int.compare_eq_lt.2 hk]
    rfl
  · rw [Int.compare_eq_eq.2 rfl, Ordering.eq_then]
    rcases lt_trichotomy 0 r with hr | rfl | hr
    · rw [Int.compare_eq_lt.2 hr, Int.compare_eq_lt.2 (by omega)]
    · rw [Int.compare_eq_eq.2 rfl, Int.compare_eq_eq.2 (by omega)]
    · rw [Int.compare_eq_gt.2 hr, Int.compare_eq_gt.2 (by omega)]
  · have hk : w * k + r < n * k := by nlinarith
    rw [Int.compare_eq_gt.2 h, Int.compare_eq_gt.2 hk]
    rfl

/-- The whole part of a number within the range of the integers is that integer. -/
theorem toInt_toInt64_trunc (s : Bool) {u : Nat} (h : Representable u)
    (hlow : -int64Limit.position ≤ signedUnits s u) (hhigh : signedUnits s u < int64Limit.position) :
    (Binary64.finite s u h).trunc.toInt64.toInt = signedUnits s (u / unitsPerOne) := by
  have hpos := unitsPerOne_pos
  have hmin : Int64.minValue.toInt = -2 ^ 63 := rfl
  have hmax : Int64.maxValue.toInt = 2 ^ 63 - 1 := rfl
  have hlimit : int64Limit.position = (2 ^ 63 * unitsPerOne : Nat) := by rw [int64Limit_eq, position]
  rw [hlimit] at hlow hhigh
  rw [trunc, toInt64, Nat.mul_div_cancel _ hpos]
  cases s with
  | false =>
    have hu : u / unitsPerOne < 2 ^ 63 := by
      rw [signedUnits, if_neg Bool.false_ne_true] at hhigh
      exact (Nat.div_lt_iff_lt_mul hpos).2 (Int.ofNat_lt.1 hhigh)
    simp only [signedUnits, Bool.false_eq_true, if_false]
    generalize u / unitsPerOne = w at hu
    exact Int64.toInt_ofIntClamp (by omega) (by omega)
  | true =>
    have hu : u / unitsPerOne ≤ 2 ^ 63 := by
      refine Nat.div_le_of_le_mul ?_
      rw [signedUnits, if_pos rfl] at hlow
      rw [Nat.mul_comm]
      exact Int.ofNat_le.1 (Int.neg_le_neg_iff.1 hlow)
    simp only [signedUnits, if_true]
    generalize u / unitsPerOne = w at hu
    exact Int64.toInt_ofIntClamp (by omega) (by omega)

/-- Every 64-bit integer is below the limit, and none is below its negative. -/
theorem positionOfInt_mem (n : Int64) :
    -int64Limit.position ≤ positionOfInt n.toInt ∧ positionOfInt n.toInt < int64Limit.position := by
  have hunits : (0 : Int) < unitsPerOne := by exact_mod_cast unitsPerOne_pos
  rw [position_int64Limit]
  constructor
  · have := Int.mul_le_mul_of_nonneg_right n.le_toInt (Int.le_of_lt hunits)
    rwa [Int.neg_mul] at this
  · exact Int.mul_lt_mul_of_pos_right n.toInt_lt hunits

/-- Within the range of the integers, whole part and rest decide as the places do. -/
theorem compare_whole_then_rest (n : Int64) {x : Binary64}
    (hlow : -int64Limit.position ≤ x.position) (hhigh : x.position < int64Limit.position) :
    (Ord.compare n x.trunc.toInt64).then ((zero false).compare (x.sub x.trunc)) =
      Ord.compare (positionOfInt n.toInt) x.position := by
  have hlimit := position_int64Limit_lt
  obtain ⟨s, u, h, rfl⟩ := exists_eq_finite (by omega) (Int.lt_trans hhigh hlimit)
  rw [position_finite] at hlow hhigh
  have hrest : (u % unitsPerOne : Nat) < unitsPerOne := Nat.mod_lt u unitsPerOne_pos
  have hzero : (zero false).position = 0 := rfl
  rw [compare_toInt, toInt_toInt64_trunc s h hlow hhigh, compare_eq, position_sub_trunc, hzero,
    compare_then_compare_rest (signedUnits_bounds s hrest).1 (signedUnits_bounds s hrest).2,
    position_finite, positionOfInt, signedUnits_div_add_mod]

/-- An integer and a float are compared by their places. -/
theorem compareInt_eq (n : Int64) (x : Binary64) :
    x.compareInt n = Ord.compare (positionOfInt n.toInt) x.position := by
  have hnan : int64Limit.isNaN = false := by rw [int64Limit_eq]; rfl
  obtain ⟨hlower, hupper⟩ := positionOfInt_mem n
  unfold compareInt
  cases hx : x.isNaN with
  | true =>
    obtain rfl : x = .nan := by cases x <;> simp_all [isNaN]
    have hlt : positionOfInt n.toInt < position .nan := by
      have := position_int64Limit_lt
      simp only [position]
      omega
    rw [Bool.true_or, if_pos rfl, Int.compare_eq_lt.2 hlt]
  | false =>
    have hbelow : x.below int64Limit = true ↔ x.position < int64Limit.position :=
      below_iff hx hnan
    have hbelow' : x.below int64Limit.neg = true ↔ x.position < -int64Limit.position := by
      rw [below_iff hx ((isNaN_neg _).trans hnan), position_neg hnan]
    rw [Bool.false_or]
    split
    · next hge =>
      rw [Bool.not_eq_true', ← Bool.not_eq_true, hbelow] at hge
      rw [Int.compare_eq_lt.2 (by omega)]
    · next hlt =>
      rw [Bool.not_eq_true', Bool.not_eq_false, hbelow] at hlt
      split
      · next hlow =>
        rw [hbelow'] at hlow
        rw [Int.compare_eq_gt.2 (by omega)]
      · next hlow =>
        rw [hbelow', Int.not_lt] at hlow
        exact compare_whole_then_rest n hlow hlt

/-- Two integers are compared by their places. -/
theorem compare_int64_eq (m n : Int64) :
    Ord.compare m n = Ord.compare (positionOfInt m.toInt) (positionOfInt n.toInt) := by
  have hunits : (0 : Int) < unitsPerOne := by exact_mod_cast unitsPerOne_pos
  have h := @compare_then_compare_rest m.toInt n.toInt 0 unitsPerOne (by omega) hunits
  rw [Int.compare_eq_eq.2 rfl, Ordering.then_eq, Int.add_zero] at h
  rw [compare_toInt, h, positionOfInt, positionOfInt]

end Binary64

end FileQuery
