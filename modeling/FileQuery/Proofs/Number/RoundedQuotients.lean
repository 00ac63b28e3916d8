import FileQuery.Proofs.Number.Neighbourhoods

/-!
# What quotients round to

A quotient rounds to a number near it, so rounding is characterised by nearness: what is near a
number rounds to it, and what rounds to a number is near it. Rounding depends on the value of the
quotient only, and it leaves the format from half a step below its end on.

## Main definitions

* `FileQuery.Binary64.nearest`: the count of units that a quotient is rounded to, whether it is one
  of the format or not.

## Main results

* `FileQuery.Binary64.round_mul_mul`: a common factor cancels.
* `FileQuery.Shortest.near_nearest`: a quotient is near the count that it is rounded to.
* `FileQuery.Binary64.le_nearest_of_le`, `FileQuery.Binary64.nearest_le_of_le`: rounding keeps the
  order.
* `FileQuery.Binary64.overflow_le_nearest_iff`: which quotients are rounded beyond the format.
-/

namespace FileQuery

open Rounding

variable {negative : Bool} {num den u k e : Nat}

namespace Binary64

/-- The count of units that a quotient is rounded to. -/
def nearest (num den : Nat) : Nat :=
  nearestEven num (den * 2 ^ spacing (num / den)) * 2 ^ spacing (num / den)

theorem representable_nearest (h : nearest num den < overflow) : Representable (nearest num den) :=
  representable_mul_two_pow (nearestEven_spacing_le num den) h

theorem round_of_lt (negative : Bool) (h : nearest num den < overflow) :
    Binary64.round negative num den =
      .finite negative (nearest num den) (representable_nearest h) :=
  Shortest.round_eq negative _ rfl rfl rfl

theorem round_of_overflow_le (negative : Bool) (h : overflow ≤ nearest num den) :
    Binary64.round negative num den = .infinite negative := by
  rw [Binary64.round, dif_neg]
  exact Nat.not_lt.2 h

/-- A common factor of numerator and denominator cancels. -/
theorem nearest_mul_mul (num den : Nat) {c : Nat} (hc : 0 < c) :
    nearest (num * c) (den * c) = nearest num den := by
  unfold nearest
  rw [Nat.mul_div_mul_right _ _ hc, Nat.mul_right_comm den c, nearestEven_mul_mul _ _ hc]

theorem round_mul_mul (negative : Bool) (num den : Nat) {c : Nat} (hc : 0 < c) :
    Binary64.round negative (num * c) (den * c) = Binary64.round negative num den := by
  have hnearest := nearest_mul_mul num den hc
  rcases Nat.lt_or_ge (nearest num den) overflow with h | h
  · rw [round_of_lt negative h, round_of_lt negative (hnearest ▸ h)]
    congr
  · rw [round_of_overflow_le negative h, round_of_overflow_le negative (hnearest ▸ h)]

/-- A quotient that is a number is this number. -/
theorem round_mul_right (negative : Bool) (h : Representable u) (hden : 0 < den) :
    Binary64.round negative (u * den) den = .finite negative u h := by
  have hone := round_mul_mul negative u 1 hden
  rw [Nat.one_mul] at hone
  rw [hone, round_representable negative h]

end Binary64

namespace Shortest

open Binary64

/-! ### Nearness -/

/-- The significand that a quotient is rounded to has 53 bits, unless the spacing is the
smallest. -/
theorem le_nearestEven (hpos : 0 < spacing (num / den)) :
    2 ^ 52 ≤ nearestEven num (den * 2 ^ spacing (num / den)) := by
  refine Nat.le_trans ?_ (div_le_nearestEven _ _)
  rw [← Nat.div_div_eq_div_mul, Nat.le_div_iff_mul_le (Nat.two_pow_pos _)]
  exact le_of_spacing_pos hpos

/-- Where the significand has 53 bits, the spacing around the number is the one that was used. -/
theorem near_of_significand_lt (hden : 0 < den) (hu : k * 2 ^ e = u) (hlt : k < 2 ^ 53)
    (hleast : 0 < e → 2 ^ 52 ≤ k) (hspacing : 0 < e → 2 ^ 52 * 2 ^ e * den ≤ num)
    (hlow : 2 * (u * den) ≤ 2 * num + 2 ^ e * den) (hhigh : 2 * num ≤ 2 * (u * den) + 2 ^ e * den)
    (heven : 2 * (u * den) = 2 * num + 2 ^ e * den ∨ 2 * num = 2 * (u * den) + 2 ^ e * den →
      k % 2 = 0) : Near u (num / den) := by
  have hwidth : spacing u = e := by
    rw [← hu]
    refine spacing_eq ?_ (Nat.mul_lt_mul_of_pos_right hlt (Nat.two_pow_pos e))
    rcases Nat.eq_zero_or_pos e with hzero | hpos
    · exact Or.inl hzero
    · exact Or.inr (Nat.mul_le_mul_right _ (hleast hpos))
  have hdiv : u / 2 ^ e = k := by rw [← hu, Nat.mul_div_cancel _ (Nat.two_pow_pos e)]
  rw [near_div_iff hden, gapBelow, hwidth, hdiv, Nat.mul_assoc]
  split
  · next hpower =>
    -- A power of two: the quotient does not lie below it.
    have hpos : 0 < e := Nat.pos_of_ne_zero fun hzero => by
      rw [hzero] at hpower
      exact absurd hpower.2 (by decide)
    have habove := hspacing hpos
    rw [← hpower.1] at habove
    have hk : k = 2 ^ 52 := Nat.eq_of_mul_eq_mul_right (Nat.two_pow_pos e) (hu.trans hpower.1)
    exact ⟨by omega, hhigh, fun _ => by rw [hk]⟩
  · exact ⟨hlow, hhigh, heven⟩

/-- Where the significand has become a power of two, the spacing above the number is wider. -/
theorem near_of_significand_eq (hden : 0 < den) (hu : 2 ^ 53 * 2 ^ e = u)
    (hlow : 2 * (u * den) ≤ 2 * num + 2 ^ e * den)
    (hhigh : 2 * num ≤ 2 * (u * den) + 2 ^ e * den) : Near u (num / den) := by
  have hpow : 2 ^ (e + 1) = 2 * 2 ^ e := by rw [Nat.pow_succ, Nat.mul_comm]
  have hpower : u = 2 ^ 52 * 2 ^ (e + 1) := by
    rw [hpow]
    omega
  have hwidth : spacing u = e + 1 := by
    have hstep := Nat.two_pow_pos (e + 1)
    exact spacing_eq (Or.inr (Nat.le_of_eq hpower.symm)) (by omega)
  have hgap : gapBelow u = 2 ^ e := by
    rw [gapBelow, hwidth, if_pos ⟨hpower, Nat.one_lt_two_pow (Nat.succ_ne_zero e)⟩, hpow,
      Nat.mul_div_cancel_left _ Nat.two_pos]
  have hdiv : u / 2 ^ (e + 1) = 2 ^ 52 := by
    rw [hpower, Nat.mul_div_cancel _ (Nat.two_pow_pos _)]
  rw [near_div_iff hden, hgap, hwidth, hdiv, hpow, Nat.mul_assoc 2 u, Nat.mul_assoc 2 (2 ^ e)]
  exact ⟨hlow, by omega, fun _ => rfl⟩

/-- A quotient is near the count that it is rounded to. -/
theorem near_nearest (num : Nat) (hden : 0 < den) : Near (nearest num den) (num / den) := by
  have hstep : 0 < den * 2 ^ spacing (num / den) := Nat.mul_pos hden (Nat.two_pow_pos _)
  obtain ⟨hlow, hhigh⟩ := nearestEven_near num hstep
  have heven := nearestEven_even num hstep
  have hleast : 0 < spacing (num / den) →
      2 ^ 52 ≤ nearestEven num (den * 2 ^ spacing (num / den)) := le_nearestEven
  have hbound := nearestEven_spacing_le num den
  have hspacing (hpos : 0 < spacing (num / den)) : 2 ^ 52 * 2 ^ spacing (num / den) * den ≤ num :=
    (Nat.le_div_iff_mul_le hden).1 (le_of_spacing_pos hpos)
  have hscaled : nearestEven num (den * 2 ^ spacing (num / den)) *
      (den * 2 ^ spacing (num / den)) = nearest num den * den := by
    rw [nearest, Nat.mul_comm den, Nat.mul_assoc]
  rw [hscaled, Nat.mul_comm den] at hlow hhigh heven
  rw [Nat.mul_comm den] at hleast hbound
  rcases Nat.lt_or_eq_of_le hbound with hlt | heq
  · refine near_of_significand_lt hden ?_ hlt hleast hspacing hlow hhigh heven
    rw [nearest, Nat.mul_comm den]
  · refine near_of_significand_eq hden ?_ hlow hhigh
    rw [nearest, Nat.mul_comm den, heq]

end Shortest

namespace Binary64

open Shortest

/-! ### Order -/

/-- A number that a quotient is not below is not above what the quotient is rounded to. -/
theorem le_nearest_of_le (hu : Representable u) (hden : 0 < den) (h : u * den ≤ num) :
    u ≤ nearest num den := by
  rcases Nat.lt_or_ge (nearest num den) overflow with hlt | hge
  · have hle : (u : ℚ) ≤ num / den := by
      rw [le_div_iff₀ (Nat.cast_pos.2 hden)]
      exact_mod_cast h
    exact (near_self u).le_of_le hu (representable_nearest hlt) (near_nearest num hden) hle
      (Nat.cast_nonneg u)
  · exact Nat.le_trans (Nat.le_of_lt hu.2) hge

/-- A number that a quotient is not above is not below what the quotient is rounded to. -/
theorem nearest_le_of_le (hu : Representable u) (hden : 0 < den) (h : num ≤ u * den)
    (hlt : nearest num den < overflow) : nearest num den ≤ u := by
  have hle : (num : ℚ) / den ≤ u := by
    rw [div_le_iff₀ (Nat.cast_pos.2 hden)]
    exact_mod_cast h
  exact (near_nearest num hden).le_of_le (representable_nearest hlt) hu (near_self u) hle
    (div_nonneg (Nat.cast_nonneg num) (Nat.cast_nonneg den))

/-! ### The end of the format -/

theorem overflow_eq : ∃ l, overflow = 2 ^ 53 * 2 ^ l := by
  obtain ⟨e, -, he⟩ := unitsPerOne_eq_two_pow
  refine ⟨971 + e, ?_⟩
  rw [he, ← Nat.pow_add, ← Nat.add_assoc]

/-- A quotient is rounded beyond the format from half a step below the end of the format on. -/
theorem overflow_le_nearest_iff (num : Nat) (hden : 0 < den) :
    overflow ≤ nearest num den ↔ (2 ^ 54 - 1) * (overflow * den) ≤ 2 ^ 54 * num := by
  obtain ⟨l, hl⟩ := overflow_eq
  have hstep : 0 < den * 2 ^ spacing (num / den) := Nat.mul_pos hden (Nat.two_pow_pos _)
  obtain ⟨hlow, hhigh⟩ := nearestEven_near num hstep
  have heven := nearestEven_even num hstep
  have hleast : 0 < spacing (num / den) →
      2 ^ 52 ≤ nearestEven num (den * 2 ^ spacing (num / den)) := le_nearestEven
  have hbound := nearestEven_spacing_le num den
  have hbelow (hpos : 0 < spacing (num / den)) :
      2 ^ 52 * (den * 2 ^ spacing (num / den)) ≤ num := by
    have := (Nat.le_div_iff_mul_le hden).1 (le_of_spacing_pos hpos)
    rwa [Nat.mul_assoc, Nat.mul_comm (2 ^ spacing (num / den))] at this
  have habove : num < 2 ^ 53 * (den * 2 ^ spacing (num / den)) := by
    have := (Nat.div_lt_iff_lt_mul hden).1 (lt_spacing (num / den))
    rwa [Nat.mul_assoc, Nat.mul_comm (2 ^ spacing (num / den))] at this
  have hgoal : 2 ^ 53 * 2 ^ l * den = 2 ^ 53 * (den * 2 ^ l) := by
    rw [Nat.mul_assoc, Nat.mul_comm (2 ^ l)]
  rw [hl, hgoal, nearest]
  generalize spacing (num / den) = e at *
  generalize nearestEven num (den * 2 ^ e) = k at *
  have hdouble {a b : Nat} (hab : a < b) :
      2 * 2 ^ a ≤ 2 ^ b ∧ 2 * (den * 2 ^ a) ≤ den * 2 ^ b := by
    have hle : 2 * 2 ^ a ≤ 2 ^ b := by
      rw [Nat.mul_comm, ← Nat.pow_succ]
      exact Nat.pow_le_pow_right Nat.two_pos hab
    refine ⟨hle, ?_⟩
    rw [Nat.mul_left_comm]
    exact Nat.mul_le_mul_left den hle
  rcases Nat.lt_trichotomy e l with hlt | rfl | hlt
  · -- The quotient lies far below the end of the format.
    obtain ⟨hpow, hscaled⟩ := hdouble hlt
    have hk := Nat.mul_le_mul_right (2 ^ e) hbound
    have hpos := Nat.two_pow_pos e
    refine iff_of_false ?_ ?_
    · omega
    · omega
  · -- The spacing is that at the end of the format, so the significand decides.
    rw [Nat.mul_le_mul_right_iff (Nat.two_pow_pos e)]
    generalize den * 2 ^ e = step at *
    constructor
    · intro hle
      have hk := Nat.mul_le_mul_right step hle
      omega
    · intro hle
      refine Nat.le_of_not_lt fun hk => ?_
      rcases Nat.lt_or_eq_of_le (Nat.succ_le_of_lt hk) with hk | hk
      · have hmul := Nat.mul_le_mul_right step (Nat.succ_le_of_lt hk)
        rw [Nat.succ_mul, Nat.succ_mul] at hmul
        omega
      · have hmul := congrArg (· * step) hk
        rw [Nat.succ_mul] at hmul
        have hodd := heven (Or.inr (by omega))
        omega
  · -- The quotient lies beyond the format.
    obtain ⟨hpow, hscaled⟩ := hdouble hlt
    have hk := Nat.mul_le_mul_right (2 ^ e) (hleast (Nat.zero_lt_of_lt hlt))
    have hnum := hbelow (Nat.zero_lt_of_lt hlt)
    exact iff_of_true (by omega) (by omega)

end Binary64

end FileQuery
