import FileQuery.Number.Shortest
import Mathlib.Algebra.Order.Field.Rat
import Mathlib.Tactic.Linarith

/-!
# What rounds to a number

The reals between two neighbours of a number, half way to each of them, round to this number. The
end points do if its significand is even. Of two numbers the smaller one has its reals below those
of the larger one.

## Main definitions

* `FileQuery.Shortest.gapBelow`: how far below a number the next one lies.
* `FileQuery.Shortest.Near`: the reals that round to a number.

## Main results

* `FileQuery.Shortest.holds_iff`: the neighbourhood of a number holds what is near it.
* `FileQuery.Shortest.round_of_near`: what is near a number rounds to it.
* `FileQuery.Shortest.Near.le_of_le`: rounding keeps the order.
-/

namespace FileQuery

namespace Rounding

/-- A whole number that is at most a half away is the nearest one, unless it is odd and exactly a
half away. -/
theorem nearestEven_eq {num den k : Nat} (hden : 0 < den) (hlow : 2 * (k * den) ≤ 2 * num + den)
    (hhigh : 2 * num ≤ 2 * (k * den) + den)
    (htie : 2 * (k * den) = 2 * num + den ∨ 2 * num = 2 * (k * den) + den → k % 2 = 0) :
    nearestEven num den = k := by
  have hnum := Nat.div_add_mod num den
  have hmod := Nat.mod_lt num hden
  rw [Nat.mul_comm] at hnum
  have hk : k = num / den ∨ k = num / den + 1 := by
    have hle : k < num / den + 2 := by
      refine Nat.lt_of_mul_lt_mul_right (a := den) ?_
      rw [Nat.add_mul]
      omega
    have hge : num / den < k + 1 := by
      refine Nat.lt_of_mul_lt_mul_right (a := den) ?_
      rw [Nat.add_mul]
      omega
    omega
  unfold nearestEven
  dsimp only
  rcases hk with hk | hk
  · rw [hk] at hhigh htie ⊢
    split
    · rfl
    · split
      · omega
      · have := htie (by omega)
        omega
  · rw [hk, Nat.add_mul] at hlow htie
    rw [hk]
    split
    · omega
    · split
      · rfl
      · have := htie (by omega)
        omega

end Rounding

namespace Binary64

variable {u q e : Nat}

theorem lt_spacing (u : Nat) : u < 2 ^ 53 * 2 ^ spacing u := by
  rw [← Nat.pow_add]
  refine Nat.lt_of_lt_of_le Nat.lt_log2_self (Nat.pow_le_pow_right (by decide) ?_)
  unfold spacing
  omega

theorem le_of_spacing_pos (h : 0 < spacing u) : 2 ^ 52 * 2 ^ spacing u ≤ u := by
  have hne : u ≠ 0 := by
    rintro rfl
    exact absurd h (by decide)
  rw [← Nat.pow_add]
  refine (Nat.le_log2 hne).1 ?_
  unfold spacing at h ⊢
  omega

/-- The spacing around a number is known from a power of two below it and one above it. -/
theorem spacing_eq (hlow : e = 0 ∨ 2 ^ 52 * 2 ^ e ≤ q) (hhigh : q < 2 ^ 53 * 2 ^ e) :
    spacing q = e := by
  rcases Nat.eq_zero_or_pos q with rfl | hpos
  · rcases hlow with rfl | hlow
    · rfl
    · have := Nat.two_pow_pos e
      omega
  · have hne := Nat.pos_iff_ne_zero.1 hpos
    rw [← Nat.pow_add] at hhigh
    have hlt := (Nat.log2_lt hne).2 hhigh
    rcases hlow with rfl | hlow
    · unfold spacing
      omega
    · rw [← Nat.pow_add] at hlow
      have hle := (Nat.le_log2 hne).2 hlow
      unfold spacing
      omega

theorem spacing_mono (h : q ≤ u) : spacing q ≤ spacing u := by
  rcases Nat.eq_zero_or_pos q with rfl | hpos
  · exact Nat.zero_le _
  · have hne := Nat.pos_iff_ne_zero.1 hpos
    have hle := Nat.le_trans (Nat.log2_self_le hne) h
    have hlog : q.log2 ≤ u.log2 := (Nat.le_log2 (by omega)).2 hle
    unfold spacing
    omega

theorem two_pow_spacing_le (h : Representable u) (hu : 0 < u) : 2 ^ spacing u ≤ u :=
  Nat.le_of_dvd hu h.1

/-- The next multiple of the spacing is at most the next power of two. -/
theorem add_spacing_le (h : Representable u) : u + 2 ^ spacing u ≤ 2 ^ 53 * 2 ^ spacing u := by
  obtain ⟨m, hm⟩ := h.1
  have hlt : m < 2 ^ 53 := by
    refine Nat.lt_of_mul_lt_mul_left (a := 2 ^ spacing u) ?_
    rw [← hm, Nat.mul_comm]
    exact lt_spacing u
  have hle := Nat.mul_le_mul_left (2 ^ spacing u) hlt
  rwa [Nat.mul_succ, ← hm, Nat.mul_comm _ (2 ^ 53)] at hle

/-- A number that is not a power of two is at least a step above one. -/
theorem le_of_ne_power (h : Representable u) (hpos : 0 < spacing u)
    (hne : u ≠ 2 ^ 52 * 2 ^ spacing u) : (2 ^ 52 + 1) * 2 ^ spacing u ≤ u := by
  obtain ⟨m, hm⟩ := h.1
  have hstep := Nat.two_pow_pos (spacing u)
  have hle : 2 ^ 52 ≤ m := by
    refine Nat.le_of_mul_le_mul_left ?_ hstep
    rw [← hm, Nat.mul_comm]
    exact le_of_spacing_pos hpos
  have hne' : m ≠ 2 ^ 52 := fun hm' => hne (by rw [Nat.mul_comm, ← hm', ← hm])
  have hmul := Nat.mul_le_mul_left (2 ^ spacing u) (show 2 ^ 52 + 1 ≤ m by omega)
  rwa [← hm, Nat.mul_comm] at hmul

end Binary64

namespace Shortest

open Binary64 Rounding

variable {u v num den : Nat} {x y : ℚ}

/-! ### Reals near a number -/

/-- How far below a number the next one lies: half a step below a power of two that is not among the
smallest numbers. -/
def gapBelow (u : Nat) : Nat :=
  if u = 2 ^ 52 * 2 ^ spacing u ∧ 1 < 2 ^ spacing u then 2 ^ spacing u / 2 else 2 ^ spacing u

theorem gapBelow_le (u : Nat) : gapBelow u ≤ 2 ^ spacing u := by
  unfold gapBelow
  split
  · exact Nat.div_le_self _ _
  · exact Nat.le_refl _

theorem neighbourhood_eq (u : Nat) : neighbourhood u =
    ⟨2 * u - gapBelow u, 2 * u + 2 ^ spacing u, u / 2 ^ spacing u % 2 == 0⟩ := rfl

/-- A real, in units, is at most half way from a number to its neighbours, and exactly half way only
if the significand is even. -/
structure Near (u : Nat) (x : ℚ) : Prop where
  low : 2 * u - gapBelow u ≤ 2 * x
  high : 2 * x ≤ 2 * u + (2 ^ spacing u : Nat)
  even : 2 * x = 2 * u - gapBelow u ∨ 2 * x = 2 * u + (2 ^ spacing u : Nat) →
    u / 2 ^ spacing u % 2 = 0

/-- A quotient near a number, without division. -/
theorem near_div_iff (hden : 0 < den) : Near u (num / den) ↔
    2 * u * den ≤ 2 * num + gapBelow u * den ∧ 2 * num ≤ 2 * u * den + 2 ^ spacing u * den ∧
      (2 * u * den = 2 * num + gapBelow u * den ∨ 2 * num = 2 * u * den + 2 ^ spacing u * den →
        u / 2 ^ spacing u % 2 = 0) := by
  have hpos : (0 : ℚ) < den := Nat.cast_pos.2 hden
  have hne : (den : ℚ) ≠ 0 := ne_of_gt hpos
  have hlow : (2 * u - gapBelow u : ℚ) ≤ 2 * (num / den) ↔
      2 * u * den ≤ 2 * num + gapBelow u * den := by
    rw [← mul_div_assoc, le_div_iff₀ hpos, sub_mul, sub_le_iff_le_add]
    exact_mod_cast Iff.rfl
  have hhigh : 2 * (num / den) ≤ (2 * u + (2 ^ spacing u : Nat) : ℚ) ↔
      2 * num ≤ 2 * u * den + 2 ^ spacing u * den := by
    rw [← mul_div_assoc, div_le_iff₀ hpos, add_mul]
    exact_mod_cast Iff.rfl
  have hlowTie : 2 * (num / den) = (2 * u - gapBelow u : ℚ) ↔
      2 * u * den = 2 * num + gapBelow u * den := by
    rw [← mul_div_assoc, div_eq_iff hne, sub_mul, eq_sub_iff_add_eq, eq_comm]
    exact_mod_cast Iff.rfl
  have hhighTie : 2 * (num / den) = (2 * u + (2 ^ spacing u : Nat) : ℚ) ↔
      2 * num = 2 * u * den + 2 ^ spacing u * den := by
    rw [← mul_div_assoc, div_eq_iff hne, add_mul]
    exact_mod_cast Iff.rfl
  constructor
  · rintro ⟨h₁, h₂, h₃⟩
    rw [hlowTie, hhighTie] at h₃
    exact ⟨hlow.1 h₁, hhigh.1 h₂, h₃⟩
  · rintro ⟨h₁, h₂, h₃⟩
    rw [← hlowTie, ← hhighTie] at h₃
    exact ⟨hlow.2 h₁, hhigh.2 h₂, h₃⟩

/-- The neighbourhood of a number holds what is near it. -/
theorem holds_iff (h : Representable u) (hu : 0 < u) (hden : 0 < den) :
    (neighbourhood u).holds num den = true ↔ Near u (num / den) := by
  have hgap : gapBelow u * den ≤ 2 * u * den :=
    Nat.mul_le_mul_right _ (by have := gapBelow_le u; have := two_pow_spacing_le h hu; omega)
  rw [near_div_iff hden, neighbourhood_eq, Neighbourhood.holds]
  dsimp only
  rw [Nat.sub_mul, Nat.add_mul]
  cases hclosed : u / 2 ^ spacing u % 2 == 0 with
  | true =>
    rw [beq_iff_eq] at hclosed
    simp only [if_true, Bool.and_eq_true, decide_eq_true_eq, hclosed, implies_true, and_true]
    omega
  | false =>
    rw [beq_eq_false_iff_ne] at hclosed
    simp only [Bool.false_eq_true, if_false, Bool.and_eq_true, decide_eq_true_eq, hclosed,
      imp_false, not_or]
    omega

/-- A number is near itself. -/
theorem near_self (u : Nat) : Near u u := by
  have hstep := Nat.two_pow_pos (spacing u)
  have hgap : 0 < gapBelow u := by
    unfold gapBelow
    split
    · omega
    · exact hstep
  have hdiv : (u : ℚ) = u / (1 : Nat) := by simp
  rw [hdiv, near_div_iff Nat.one_pos]
  exact ⟨by omega, by omega, by omega⟩

/-! ### Rounding -/

theorem round_eq (negative : Bool) (h : Representable u) {e : Nat}
    (he : spacing (num / den) = e) {k : Nat} (hk : nearestEven num (den * 2 ^ e) = k)
    (hu : k * 2 ^ e = u) : Binary64.round negative num den = .finite negative u h := by
  subst hu he hk
  rw [Binary64.round, dif_pos h.2]

/-- From below a power of two, where the spacing is half as wide. -/
theorem round_of_near_below (negative : Bool) (h : Representable u) {e : Nat} (hden : 0 < den)
    (hu : u = 2 ^ 53 * 2 ^ e) (hlow : 2 * (u * den) ≤ 2 * num + 2 ^ e * den)
    (hbelow : num < u * den) : Binary64.round negative num den = .finite negative u h := by
  have hstep : 0 < 2 ^ e * den := Nat.mul_pos (Nat.two_pow_pos e) hden
  have hscaled : u * den = 2 ^ 53 * (2 ^ e * den) := by rw [hu, Nat.mul_assoc]
  refine round_eq negative h (spacing_eq (Or.inr ?_) ?_) (nearestEven_eq ?_ ?_ ?_ fun _ => rfl)
    hu.symm
  · rw [Nat.le_div_iff_mul_le hden, Nat.mul_assoc]
    omega
  · rw [Nat.div_lt_iff_lt_mul hden, Nat.mul_assoc]
    omega
  · exact Nat.mul_comm den _ ▸ hstep
  · rw [Nat.mul_comm den]
    omega
  · rw [Nat.mul_comm den]
    omega

/-- Where the spacing is as wide as around the number. -/
theorem round_of_near_within (negative : Bool) (h : Representable u) (hden : 0 < den)
    (hx : Near u (num / den))
    (hbelow : num < u * den → 0 < spacing u → (2 ^ 52 + 1) * 2 ^ spacing u ≤ u) :
    Binary64.round negative num den = .finite negative u h := by
  obtain ⟨hlow, hhigh, heven⟩ := (near_div_iff hden).1 hx
  obtain ⟨m, hm⟩ := h.1
  have hgap : gapBelow u * den ≤ 2 ^ spacing u * den := Nat.mul_le_mul_right _ (gapBelow_le u)
  have hsteps : m * (den * 2 ^ spacing u) = u * den := by
    rw [Nat.mul_comm den, ← Nat.mul_assoc, Nat.mul_comm m, ← hm]
  have hdiv : u / 2 ^ spacing u = m := by
    conv => lhs; arg 1; rw [hm]
    exact Nat.mul_div_cancel_left _ (Nat.two_pow_pos _)
  rw [Nat.mul_assoc] at hlow hhigh heven
  rw [hdiv] at heven
  have hspacing : spacing (num / den) = spacing u := by
    refine spacing_eq ?_ ?_
    · rcases Nat.eq_zero_or_pos (spacing u) with hzero | hpos
      · exact Or.inl hzero
      · have hle := Nat.mul_le_mul_right den (le_of_spacing_pos hpos)
        rw [Nat.le_div_iff_mul_le hden, Nat.mul_assoc]
        rw [Nat.mul_assoc] at hle
        by_cases hnum : num < u * den
        · have hpower := Nat.mul_le_mul_right den (hbelow hnum hpos)
          rw [Nat.mul_assoc] at hpower
          omega
        · omega
    · have hle := Nat.mul_le_mul_right den (add_spacing_le h)
      have hpos : 0 < 2 ^ spacing u * den := Nat.mul_pos (Nat.two_pow_pos _) hden
      rw [Nat.add_mul, Nat.mul_assoc] at hle
      rw [Nat.div_lt_iff_lt_mul hden, Nat.mul_assoc]
      omega
  have hnearest : nearestEven num (den * 2 ^ spacing u) = m := by
    refine nearestEven_eq (Nat.mul_pos hden (Nat.two_pow_pos _)) ?_ ?_ fun htie => heven ?_
    · rw [hsteps, Nat.mul_comm den]
      omega
    · rw [hsteps, Nat.mul_comm den]
      omega
    · rw [hsteps, Nat.mul_comm den] at htie
      omega
  exact round_eq negative h hspacing hnearest (by rw [Nat.mul_comm, ← hm])

/-- What is near a number rounds to it. -/
theorem round_of_near (negative : Bool) (h : Representable u) (hden : 0 < den)
    (hx : Near u (num / den)) : Binary64.round negative num den = .finite negative u h := by
  by_cases hbelow : (u = 2 ^ 52 * 2 ^ spacing u ∧ 1 < 2 ^ spacing u) ∧ num < u * den
  · obtain ⟨hpower, hbelow⟩ := hbelow
    have hlow := ((near_div_iff hden).1 hx).1
    obtain ⟨e, he⟩ : ∃ e, spacing u = e + 1 := by
      refine Nat.exists_eq_add_one_of_ne_zero fun hzero => ?_
      rw [hzero] at hpower
      exact absurd hpower.2 (by decide)
    rw [gapBelow, if_pos hpower, he, Nat.pow_succ, Nat.mul_div_cancel _ Nat.two_pos,
      Nat.mul_assoc] at hlow
    refine round_of_near_below negative h hden (hpower.1.trans ?_) hlow hbelow
    rw [he, Nat.pow_succ]
    omega
  · refine round_of_near_within negative h hden hx fun hnum hpos => le_of_ne_power h hpos ?_
    exact fun hpower => hbelow ⟨⟨hpower, Nat.one_lt_two_pow (Nat.ne_of_gt hpos)⟩, hnum⟩

/-! ### Order -/

/-- The reals near a number end where those near a larger one begin. -/
theorem two_mul_add_le (hu : Representable u) (hv : Representable v) (huv : u < v) :
    2 * u + 2 ^ spacing u + gapBelow v ≤ 2 * v := by
  have hgap := gapBelow_le v
  rcases Nat.lt_or_eq_of_le (spacing_mono (Nat.le_of_lt huv)) with hlt | heq
  · have hpos : 0 < spacing v := Nat.zero_lt_of_lt hlt
    have hbelow := add_spacing_le hu
    have habove := le_of_spacing_pos hpos
    obtain ⟨e, he⟩ : ∃ e, spacing v = e + 1 := Nat.exists_eq_add_one_of_ne_zero (by omega)
    have hstep : 2 ^ spacing u ≤ 2 ^ e := Nat.pow_le_pow_right Nat.two_pos (by omega)
    have hdouble : 2 ^ spacing v = 2 ^ e * 2 := by rw [he, Nat.pow_succ]
    by_cases hpower : v = 2 ^ 52 * 2 ^ spacing v
    · have hhalf : gapBelow v = 2 ^ e := by
        rw [gapBelow, if_pos ⟨hpower, Nat.one_lt_two_pow (Nat.ne_of_gt hpos)⟩, hdouble,
          Nat.mul_div_cancel _ Nat.two_pos]
      omega
    · have hnext := le_of_ne_power hv hpos hpower
      omega
  · obtain ⟨m, hm⟩ := hu.1
    obtain ⟨n, hn⟩ := hv.1
    rw [← heq] at hn hgap
    have hmn : m + 1 ≤ n := by
      refine Nat.lt_of_mul_lt_mul_left (a := 2 ^ spacing u) ?_
      rwa [← hm, ← hn]
    have := Nat.mul_le_mul_left (2 ^ spacing u) hmn
    rw [Nat.mul_add, ← hm, ← hn] at this
    omega

/-- No real is near two numbers. -/
theorem Near.eq_of_near (hu : Representable u) (hv : Representable v) (hx : Near u x)
    (hy : Near v x) (h : 0 ≤ x) : u = v := by
  obtain ⟨num, hnum⟩ := Int.eq_ofNat_of_zero_le (Rat.num_nonneg.2 h)
  have hdiv : x = num / x.den := by
    rw [← Int.cast_natCast, ← hnum, Rat.num_div_den]
  have hround := round_of_near false hu x.den_pos (hdiv ▸ hx)
  have hround' := round_of_near false hv x.den_pos (hdiv ▸ hy)
  exact (Binary64.finite.inj (hround.symm.trans hround')).2

/-- What is near a number is at most what is near a larger one. -/
theorem Near.le_of_lt (hu : Representable u) (hv : Representable v) (hx : Near u x)
    (hy : Near v y) (huv : u < v) : x ≤ y := by
  have hle : (2 * u + (2 ^ spacing u : Nat) + gapBelow v : ℚ) ≤ 2 * v := by
    exact_mod_cast two_mul_add_le hu hv huv
  have hhigh := hx.high
  have hlow := hy.low
  linarith

/-- Rounding keeps the order. -/
theorem Near.le_of_le (hu : Representable u) (hv : Representable v) (hx : Near u x)
    (hy : Near v y) (hxy : x ≤ y) (h : 0 ≤ x) : u ≤ v := by
  by_contra hlt
  have heq := le_antisymm hxy (hy.le_of_lt hv hu hx (Nat.lt_of_not_le hlt))
  exact hlt (Nat.le_of_eq (hx.eq_of_near hu hv (heq ▸ hy) h))

end Shortest

end FileQuery
