import FileQuery.Proofs.Aggregate.WholeTotals

/-!
# Quotients of decimals

The quotient of a whole number is worked out digit by digit. What comes out is the exact quotient,
or the nearest number with 28 places, or the nearest one with as many digits as the mantissa holds.
It always exists, however large the dividend is, and dropping final zeros does not change it.

## Main definitions

* `FileQuery.Decimal.Digits`: the digits of a quotient.
* `FileQuery.Decimal.IsQuotient`: the decimals that stand for a quotient.

## Main results

* `FileQuery.Decimal.digits_quotientDigits`: each step adds digits to the same quotient.
* `FileQuery.Decimal.exists_divNat?`: quotients of whole numbers.
-/

namespace FileQuery

namespace Decimal

open Rounding

variable {m n q s : Nat}

/-- The number `q / 10 ^ s` is the nearest one to `m / n` with `s` places, and either it is exact or
there is no room for a further digit. -/
structure Digits (m n q s : Nat) : Prop where
  scale_le : s ≤ 28
  mantissa_lt : q < 2 ^ 96
  low : 2 * (q * n) ≤ 2 * (m * 10 ^ s) + n
  high : 2 * (m * 10 ^ s) ≤ 2 * (q * n) + n
  full : q * n = m * 10 ^ s ∨ s = 28 ∨ 2 ^ 96 ≤ 10 * (q + 1)

/-! ### Steps -/

/-- The nearest number with `s` places, where the quotient is exact or has no room for more. -/
theorem digits_nearestEven (hn : 0 < n) (hs : s ≤ 28)
    (hfits : nearestEven (m * 10 ^ s) n < 2 ^ 96)
    (hstop : m * 10 ^ s % n = 0 ∨ s = 28 ∨ 2 ^ 96 ≤ 10 * (m * 10 ^ s / n)) :
    Digits m n (nearestEven (m * 10 ^ s) n) s := by
  have hdiv := div_le_nearestEven (m * 10 ^ s) n
  obtain ⟨hlow, hhigh⟩ := nearestEven_near (m * 10 ^ s) hn
  refine ⟨hs, hfits, hlow, hhigh, hstop.imp (fun h => ?_) (Or.imp_right fun h => ?_)⟩
  · obtain ⟨k, hk⟩ := Nat.dvd_of_mod_eq_zero h
    rw [hk, Nat.mul_comm n k]
    exact congrArg (· * n) (nearestEven_mul_right k hn)
  · exact Nat.le_trans h (Nat.mul_le_mul_left 10 (Nat.le_succ_of_le hdiv))

/-- The nearest number with a place less, where the one with all places just does not fit. -/
theorem digits_placeLess (hn : 0 < n) (hs : s ≤ 28)
    (hwide : m * 10 ^ (s + 1) / n < 2 ^ 96 + 10 ^ 9)
    (hfull : 2 ^ 96 ≤ nearestEven (m * 10 ^ (s + 1)) n) :
    Digits m n (nearestEven (m * 10 ^ (s + 1)) (10 * n)) s := by
  have hten : m * 10 ^ (s + 1) = 10 * (m * 10 ^ s) := by
    rw [Nat.pow_succ, ← Nat.mul_assoc, Nat.mul_comm]
  rw [hten] at hwide hfull ⊢
  have hsucc := nearestEven_le_succ_div (10 * (m * 10 ^ s)) n
  have hnear := nearestEven_near (10 * (m * 10 ^ s)) (Nat.mul_pos (by decide : 0 < 10) hn)
  have hlow := div_le_nearestEven (10 * (m * 10 ^ s)) (10 * n)
  have hhigh := nearestEven_le_succ_div (10 * (m * 10 ^ s)) (10 * n)
  rw [Nat.mul_comm 10 n, ← Nat.div_div_eq_div_mul, Nat.mul_comm n 10] at hlow hhigh
  generalize nearestEven (10 * (m * 10 ^ s)) (10 * n) = q at hnear hlow hhigh ⊢
  rw [Nat.mul_left_comm q] at hnear
  exact ⟨hs, by omega, by omega, by omega, Or.inr (Or.inr (by omega))⟩

/-- Where the digits end: the quotient is exact, or there is no room. A quotient without places is
small enough not to lose one. -/
theorem digits_roundQuotient (hn : 0 < n) (hs : s ≤ 28)
    (hwide : m * 10 ^ s / n < 2 ^ 96 + 10 ^ 9) (hzero : s = 0 → m / n + 1 < 2 ^ 96)
    (hstop : m * 10 ^ s % n = 0 ∨ s = 28 ∨ 2 ^ 96 ≤ 10 * (m * 10 ^ s / n)) :
    Digits m n (roundQuotient (m * 10 ^ s) n s).1 (roundQuotient (m * 10 ^ s) n s).2 := by
  rw [roundQuotient]
  split
  · next hfits => exact digits_nearestEven hn hs hfits hstop
  · next hfull =>
    cases s with
    | zero =>
      have hsucc := nearestEven_le_succ_div (m * 10 ^ 0) n
      have hsmall := hzero rfl
      rw [Nat.pow_zero, Nat.mul_one] at hsucc hfull
      exact absurd (Nat.lt_of_le_of_lt hsucc hsmall) hfull
    | succ s => exact digits_placeLess hn (Nat.le_of_succ_le hs) hwide (Nat.le_of_not_lt hfull)

theorem roomFor_le (q k : Nat) : roomFor q k ≤ k := by
  induction k with
  | zero => exact Nat.le_refl 0
  | succ k ih =>
    rw [roomFor]
    split
    · exact Nat.le_refl _
    · exact Nat.le_succ_of_le ih

/-- The digits that there is room for fit. -/
theorem mul_pow_roomFor_lt (hq : q < 2 ^ 96) (k : Nat) : q * 10 ^ roomFor q k < 2 ^ 96 := by
  induction k with
  | zero => rwa [roomFor, Nat.pow_zero, Nat.mul_one]
  | succ k ih =>
    rw [roomFor]
    split
    · assumption
    · exact ih

/-- The digits behind those of a quotient are below a power of ten, so the mantissa is left by less
than that. -/
theorem div_lt_of_roomFor (hn : 0 < n) (hq : m / n < 2 ^ 96) {k : Nat} (hk : k ≤ 9) :
    m * 10 ^ roomFor (m / n) k / n < 2 ^ 96 + 10 ^ 9 := by
  have hfit := mul_pow_roomFor_lt hq k
  have hpow : 10 ^ roomFor (m / n) k ≤ 10 ^ 9 :=
    Nat.pow_le_pow_right (by decide) (Nat.le_trans (roomFor_le _ k) hk)
  have hlt : m < (m / n + 1) * n := by
    rw [Nat.succ_mul]
    exact Nat.lt_div_mul_add hn
  calc m * 10 ^ roomFor (m / n) k / n
      < (m / n + 1) * 10 ^ roomFor (m / n) k := by
        rw [Nat.div_lt_iff_lt_mul hn, Nat.mul_right_comm]
        exact Nat.mul_lt_mul_of_pos_right hlt (Nat.pow_pos (by decide))
    _ = m / n * 10 ^ roomFor (m / n) k + 10 ^ roomFor (m / n) k := Nat.succ_mul _ _
    _ < 2 ^ 96 + 10 ^ 9 := Nat.add_lt_add_of_lt_of_le hfit hpow

/-- There is no room only where one more digit does not fit. -/
theorem le_of_roomFor_eq_zero {k : Nat} (hk : 0 < k) (h : roomFor q k = 0) : 2 ^ 96 ≤ 10 * q := by
  induction k with
  | zero => exact absurd hk (Nat.lt_irrefl 0)
  | succ k ih =>
    rw [roomFor] at h
    split at h
    · exact absurd h (Nat.succ_ne_zero k)
    · next hge =>
      cases k with
      | zero =>
        rw [Nat.zero_add, Nat.pow_one] at hge
        omega
      | succ k => exact ih (Nat.succ_pos k) h

/-- The steps add digits to the quotient until it is exact or there is no room. -/
theorem digits_quotientDigits (hn : 0 < n) (steps : Nat) (hs : s ≤ 28) (hsteps : 28 ≤ s + steps)
    (hwide : m * 10 ^ s / n < 2 ^ 96 + 10 ^ 9) (hzero : s = 0 → m / n + 1 < 2 ^ 96) :
    Digits m n (quotientDigits (m * 10 ^ s) n s steps).1
      (quotientDigits (m * 10 ^ s) n s steps).2 := by
  induction steps generalizing s with
  | zero => exact digits_roundQuotient hn hs hwide hzero (Or.inr (Or.inl (by omega)))
  | succ steps ih =>
    rw [quotientDigits]
    split
    · next hstop =>
      exact digits_roundQuotient hn hs hwide hzero
        (hstop.imp_right fun h => Or.inr (by omega))
    · next hgo =>
      rw [not_or, Nat.not_le] at hgo
      split
      · next hroom =>
        refine digits_roundQuotient hn hs hwide hzero (Or.inr ?_)
        rcases Nat.lt_or_ge s 28 with hlt | hge
        · exact Or.inr (le_of_roomFor_eq_zero (by omega) hroom)
        · exact Or.inl (by omega)
      · next hroom =>
        have hne : roomFor (m * 10 ^ s / n) (min 9 (28 - s)) ≠ 0 := hroom
        have hk := roomFor_le (m * 10 ^ s / n) (min 9 (28 - s))
        have hnext := div_lt_of_roomFor (m := m * 10 ^ s) hn hgo.2 (Nat.min_le_left 9 (28 - s))
        rw [Nat.mul_assoc, ← Nat.pow_add] at hnext ⊢
        exact ih (by omega) (by omega) hnext (fun h => absurd h (by omega))

/-! ### Final zeros -/

/-- The second number is the first without some final zeros of its fraction. -/
def Trims (q t : Nat × Nat) : Prop := ∃ k, q.1 = t.1 * 10 ^ k ∧ q.2 = t.2 + k

theorem Trims.refl (q : Nat × Nat) : Trims q q := ⟨0, (Nat.mul_one q.1).symm, rfl⟩

theorem Trims.trans {q t u : Nat × Nat} (hqt : Trims q t) (htu : Trims t u) : Trims q u := by
  obtain ⟨k, hk, hk'⟩ := hqt
  obtain ⟨l, hl, hl'⟩ := htu
  exact ⟨l + k, by rw [hk, hl, Nat.mul_assoc, Nat.pow_add], by omega⟩

/-- A group of `k` final zeros. -/
theorem trims_of_mod {q : Nat × Nat} {k : Nat} (hk : k ≤ q.2) (h : q.1 % 10 ^ k = 0) :
    Trims q (q.1 / 10 ^ k, q.2 - k) :=
  ⟨k, (Nat.div_mul_cancel (Nat.dvd_of_mod_eq_zero h)).symm, (Nat.sub_add_cancel hk).symm⟩

theorem trims_dropZeros (k : Nat) (q : Nat × Nat) : Trims q (dropZeros k q) := by
  rw [dropZeros]
  split
  · next h => exact trims_of_mod h.1 h.2
  · exact Trims.refl q

theorem trims_dropOctets (n : Nat) (q : Nat × Nat) : Trims q (dropOctets n q) := by
  induction n generalizing q with
  | zero => exact Trims.refl q
  | succ n ih =>
    rw [dropOctets]
    split
    · next h => exact (trims_of_mod h.2.1 h.2.2).trans (ih _)
    · exact Trims.refl q

/-! ### Quotients -/

/-- The decimal has the sign of the quotient `k / n` and, with final zeros if need be, its digits. -/
def IsQuotient (d : Decimal) (k : Int) (n : Nat) : Prop :=
  d.negative = decide (k < 0) ∧
    ∃ zeros, Digits k.natAbs n (d.mantissa * 10 ^ zeros) (d.scale + zeros)

/-- Digits without final zeros make a decimal. -/
theorem exists_ofParts? {k : Int} {q t : Nat × Nat} (hdigits : Digits k.natAbs n q.1 q.2)
    (htrims : Trims q t) :
    ∃ d, ofParts? (decide (k < 0)) t.1 t.2 = some d ∧ d.IsQuotient k n := by
  obtain ⟨zeros, hmantissa, hscale⟩ := htrims
  have hle : t.1 ≤ q.1 := hmantissa ▸ Nat.le_mul_of_pos_right _ (Nat.pow_pos (by decide))
  have hfit : t.1 < 2 ^ 96 ∧ t.2 ≤ 28 :=
    ⟨Nat.lt_of_le_of_lt hle hdigits.mantissa_lt, by have := hdigits.scale_le; omega⟩
  rw [hmantissa, hscale] at hdigits
  exact ⟨_, dif_pos hfit, rfl, zeros, hdigits⟩

theorem digits_of_dvd (hm : m < 2 ^ 96) (h : n ∣ m) : Digits m n (m / n) 0 := by
  have hexact : m / n * n = m * 10 ^ 0 := by rw [Nat.div_mul_cancel h, Nat.pow_zero, Nat.mul_one]
  exact ⟨by decide, Nat.lt_of_le_of_lt (Nat.div_le_self m n) hm, hexact ▸ Nat.le_add_right _ _,
    hexact ▸ Nat.le_add_right _ _, Or.inl hexact⟩

/-- A whole number has a quotient by any number but zero. -/
theorem exists_divNat? {k : Int} (hk : k.natAbs < 2 ^ 96) (hn : 0 < n) :
    ∃ d, (ofWhole k).divNat? n = some d ∧ d.IsQuotient k n := by
  rw [ofWhole_eq hk, divNat?, if_neg (Nat.ne_of_gt hn)]
  dsimp only
  split
  · next hzero =>
    have hexact := digits_of_dvd (n := n) (by decide : 0 < 2 ^ 96) (Nat.dvd_zero n)
    rw [Nat.zero_div] at hexact
    refine ⟨zero, rfl, ?_, 0, ?_⟩
    · rw [Int.natAbs_eq_zero.1 hzero]
      rfl
    · rw [hzero]
      exact hexact
  · split
    · next hdvd =>
      exact exists_ofParts? (q := (k.natAbs / n, 0))
        (digits_of_dvd hk (Nat.dvd_of_mod_eq_zero hdvd)) (Trims.refl _)
    · next hrest =>
      have htwo : 2 ≤ n := by
        rcases Nat.lt_or_eq_of_le (Nat.succ_le_of_lt hn) with hlt | rfl
        · exact hlt
        · exact absurd (Nat.mod_one _) hrest
      have hhalf : k.natAbs / n ≤ 2 ^ 95 :=
        Nat.le_trans (Nat.div_le_div_left htwo (by decide)) (by omega)
      have hdigits := digits_quotientDigits (m := k.natAbs) (s := 0) hn 29 (by decide) (by decide)
        (by rw [Nat.pow_zero, Nat.mul_one]; omega) (fun _ => by omega)
      rw [Nat.pow_zero, Nat.mul_one] at hdigits
      exact exists_ofParts? hdigits ((trims_dropOctets 3 _).trans ((trims_dropZeros 4 _).trans
        ((trims_dropZeros 2 _).trans (trims_dropZeros 1 _))))

end Decimal

end FileQuery
