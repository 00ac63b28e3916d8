import FileQuery.Aggregate.Accumulator

/-!
# Totals that are whole numbers

A decimal without a fraction stands for an integer below `2 ^ 96`, and adding two of them is exact
as long as the sum is below that bound. The totals that sums and averages keep over 64-bit integers
are such decimals.

## Main definitions

* `FileQuery.Decimal.ofWhole`: an integer as a decimal.

## Main results

* `FileQuery.Decimal.add?_ofWhole`: sums that fit are exact.
-/

namespace FileQuery

namespace Decimal

/-- An integer as a decimal; zero stands in for one that does not fit. -/
def ofWhole (n : Int) : Decimal := (ofParts? (decide (n < 0)) n.natAbs 0).getD zero

theorem ofWhole_eq {n : Int} (hn : n.natAbs < 2 ^ 96) :
    ofWhole n = ⟨decide (n < 0), n.natAbs, 0, hn, by decide⟩ := by
  rw [ofWhole, ofParts?, dif_pos ⟨hn, Nat.zero_le _⟩]
  rfl

theorem natAbs_toInt_le (n : Int64) : n.toInt.natAbs ≤ 2 ^ 63 := by
  have h₁ := n.le_toInt
  have h₂ := n.toInt_lt
  omega

theorem ofInt64_eq (n : Int64) : ofInt64 n = ofWhole n.toInt :=
  (ofWhole_eq (Nat.lt_of_le_of_lt (natAbs_toInt_le n) (by decide))).symm

theorem signed_ofWhole {n : Int} (hn : n.natAbs < 2 ^ 96) : (ofWhole n).signed = n := by
  rw [ofWhole_eq hn, signed]
  by_cases h : n < 0
  · simp only [h, decide_true, if_true]
    omega
  · simp only [h, decide_false, Bool.false_eq_true, if_false]
    omega

/-- A sum of whole numbers that fits is exact. -/
theorem add?_ofWhole {m n : Int} (hm : m.natAbs < 2 ^ 96) (hn : n.natAbs < 2 ^ 96)
    (hsum : (m + n).natAbs < 2 ^ 96) : (ofWhole m).add? (ofWhole n) = some (ofWhole (m + n)) := by
  have hmantissa {k : Int} (hk : k.natAbs < 2 ^ 96) : (ofWhole k).mantissa = k.natAbs := by
    rw [ofWhole_eq hk]
  have hscale {k : Int} (hk : k.natAbs < 2 ^ 96) : (ofWhole k).scale = 0 := by rw [ofWhole_eq hk]
  rw [add?, hmantissa hm, hmantissa hn]
  split
  · next h =>
    obtain rfl : m = 0 := Int.natAbs_eq_zero.1 h
    rw [Int.zero_add]
  · split
    · next h =>
      obtain rfl : n = 0 := Int.natAbs_eq_zero.1 h
      rw [Int.add_zero]
    · simp only [hscale hm, hscale hn, signed_ofWhole hm, signed_ofWhole hn, Nat.max_self,
        Nat.sub_self, Int.pow_zero, Int.mul_one]
      rw [fit?_eq_some _ hsum (Nat.zero_le _), ofWhole_eq hsum]

end Decimal

end FileQuery
