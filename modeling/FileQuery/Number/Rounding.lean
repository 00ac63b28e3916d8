/-!
# Rounding a quotient to a whole number

The two ways in which this library rounds a quotient of natural numbers to a nearest whole number:
a tie goes to the even neighbour in binary arithmetic and in fixed-point output, and away from zero
in decimal rounding.

## Main definitions

* `FileQuery.Rounding.nearestEven`, `FileQuery.Rounding.nearestUp`.

## Main results

* `FileQuery.Rounding.nearestEven_mul_right`, `FileQuery.Rounding.nearestUp_mul_right`: a whole
  quotient is kept.
* `FileQuery.Rounding.nearestEven_le_succ_div`: the result is the quotient or one more.
* `FileQuery.Rounding.nearestEven_near`: the result is at most a half away.
-/

-- Powers of natural and whole numbers are those of the core library, also where algebra is imported.
attribute [instance (high + 1), default_instance (high + 1)] instPowNat

namespace FileQuery.Rounding

/-- The whole number nearest to `num / den`, the even one of two. -/
def nearestEven (num den : Nat) : Nat :=
  let q := num / den
  let r := num % den
  if 2 * r < den then q else if den < 2 * r then q + 1 else q + q % 2

/-- The whole number nearest to `num / den`, the larger one of two. -/
def nearestUp (num den : Nat) : Nat :=
  let q := num / den
  if 2 * (num % den) < den then q else q + 1

theorem nearestEven_mul_right (k : Nat) {den : Nat} (h : 0 < den) :
    nearestEven (k * den) den = k := by
  simp [nearestEven, Nat.mul_div_cancel _ h, h]

theorem nearestUp_mul_right (k : Nat) {den : Nat} (h : 0 < den) :
    nearestUp (k * den) den = k := by
  simp [nearestUp, Nat.mul_div_cancel _ h, h]

theorem nearestEven_le_succ_div (num den : Nat) : nearestEven num den ≤ num / den + 1 := by
  have : num / den % 2 < 2 := Nat.mod_lt _ (by decide)
  unfold nearestEven
  dsimp only
  split
  · omega
  · split <;> omega

theorem div_le_nearestEven (num den : Nat) : num / den ≤ nearestEven num den := by
  unfold nearestEven
  dsimp only
  split
  · exact Nat.le_refl _
  · split <;> omega

/-- The nearest whole number to a quotient is at most a half away from it. -/
theorem nearestEven_near (num : Nat) {den : Nat} (hden : 0 < den) :
    2 * (nearestEven num den * den) ≤ 2 * num + den ∧
      2 * num ≤ 2 * (nearestEven num den * den) + den := by
  have hsplit := Nat.div_add_mod' num den
  have hmod := Nat.mod_lt num hden
  unfold nearestEven
  dsimp only
  generalize num / den = q at hsplit ⊢
  split
  · omega
  · have hsucc : (q + 1) * den = q * den + den := Nat.succ_mul q den
    split
    · omega
    · rcases Nat.mod_two_eq_zero_or_one q with h | h
      · rw [h, Nat.add_zero]
        omega
      · rw [h]
        omega

/-- Exactly a half away it is even. -/
theorem nearestEven_even (num : Nat) {den : Nat} (hden : 0 < den)
    (h : 2 * (nearestEven num den * den) = 2 * num + den ∨
      2 * num = 2 * (nearestEven num den * den) + den) : nearestEven num den % 2 = 0 := by
  have hsplit := Nat.div_add_mod' num den
  have hmod := Nat.mod_lt num hden
  unfold nearestEven at h ⊢
  dsimp only at h ⊢
  generalize num / den = q at hsplit h ⊢
  split at h
  · omega
  · have hsucc : (q + 1) * den = q * den + den := Nat.succ_mul q den
    split at h
    · omega
    · next hle hge =>
      rw [if_neg hle, if_neg hge]
      omega

/-- The result is below an even number if the quotient is more than a half below it. -/
theorem nearestEven_lt_iff (num : Nat) {den k : Nat} (hden : 0 < den) (heven : k % 2 = 0) :
    nearestEven num den < k ↔ 2 * num + den < 2 * (k * den) := by
  obtain ⟨hlow, hhigh⟩ := nearestEven_near num hden
  have htie := nearestEven_even num hden
  generalize nearestEven num den = m at hlow hhigh htie ⊢
  constructor
  · intro hlt
    have hmul := Nat.mul_le_mul_right den (Nat.succ_le_of_lt hlt)
    rw [Nat.succ_mul] at hmul
    rcases Nat.lt_or_eq_of_le (Nat.succ_le_of_lt hlt) with hlt | heq
    · have hmul := Nat.mul_le_mul_right den (Nat.succ_le_of_lt hlt)
      rw [Nat.succ_mul, Nat.succ_mul] at hmul
      omega
    · have hodd : ¬2 * num = 2 * (m * den) + den := fun h => by
        have := htie (Or.inr h)
        omega
      omega
  · intro hlt
    refine Nat.lt_of_not_le fun hle => ?_
    have hmul := Nat.mul_le_mul_right den hle
    omega

/-- A common factor cancels. -/
theorem nearestEven_mul_mul (num den : Nat) {c : Nat} (hc : 0 < c) :
    nearestEven (num * c) (den * c) = nearestEven num den := by
  have htwice : 2 * (num % den * c) = 2 * (num % den) * c := (Nat.mul_assoc _ _ _).symm
  unfold nearestEven
  dsimp only
  rw [Nat.mul_div_mul_right _ _ hc, Nat.mul_mod_mul_right, htwice]
  simp only [Nat.mul_lt_mul_right hc]

end FileQuery.Rounding
