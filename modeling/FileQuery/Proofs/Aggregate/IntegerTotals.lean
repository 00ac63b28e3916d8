import FileQuery.Proofs.Aggregate.ExactTotals
import FileQuery.Proofs.Number.Quotients

/-!
# Sums and averages of integers

A total of fewer than `2 ^ 32` integers of 64 bits fits 96 bits, and so does every total on the way
there. So the sum is exact in any order of the rows, also where it leaves the 64 bits and comes back
later. It is an integer again just if it fits 64 bits at the end; otherwise it is the nearest
floating-point number, never an integer that was cut. The average is the quotient of the exact sum
by the number of integers.

## Main definitions

* `FileQuery.Value.IsWhole`: integers and null.
* `FileQuery.Value.wholeSum`, `FileQuery.Value.wholeCount`: the exact sum and the number of
  integers.

## Main results

* `FileQuery.Accumulator.ofValues_whole`: integers are folded to their exact sum.
* `FileQuery.Accumulator.final_whole`: the final sum and average, for any order.
-/

namespace FileQuery

namespace Value

/-- Integers and null. -/
def IsWhole (v : Value) : Prop := v = .null ∨ ∃ n, v = .integer n

/-- What a value adds to a sum of integers. -/
def whole : Value → Int
  | .integer n => n.toInt
  | _ => 0

/-- The exact sum of the integers among values. -/
def wholeSum : List Value → Int
  | [] => 0
  | v :: vs => v.whole + wholeSum vs

/-- The number of values other than null. -/
def wholeCount (vs : List Value) : Nat := vs.countP fun v => !v.isNull

variable {vs ws : List Value}

theorem wholeSum_append (vs ws : List Value) :
    wholeSum (vs ++ ws) = wholeSum vs + wholeSum ws := by
  induction vs with
  | nil => exact (Int.zero_add _).symm
  | cons v vs ih => rw [List.cons_append, wholeSum, wholeSum, ih, Int.add_assoc]

theorem wholeCount_append (vs ws : List Value) :
    wholeCount (vs ++ ws) = wholeCount vs + wholeCount ws := List.countP_append

theorem wholeSum_perm (h : ws.Perm vs) : wholeSum ws = wholeSum vs := by
  induction h with
  | nil => rfl
  | cons v _ ih => rw [wholeSum, wholeSum, ih]
  | swap v w us => exact Int.add_left_comm _ _ _
  | trans _ _ ihl ihr => exact ihl.trans ihr

theorem natAbs_whole_le (v : Value) : v.whole.natAbs ≤ 2 ^ 63 := by
  cases v with
  | integer n => exact Decimal.natAbs_toInt_le n
  | _ => exact Nat.zero_le _

/-- Each value adds at most 63 bits to a sum. -/
theorem natAbs_wholeSum_le (vs : List Value) : (wholeSum vs).natAbs ≤ vs.length * 2 ^ 63 := by
  induction vs with
  | nil => exact Nat.zero_le _
  | cons v vs ih =>
    have hv := natAbs_whole_le v
    rw [wholeSum, List.length_cons]
    omega

theorem natAbs_wholeSum_lt (h : vs.length < 2 ^ 32) : (wholeSum vs).natAbs < 2 ^ 96 := by
  have := natAbs_wholeSum_le vs
  omega

theorem wholeCount_eq_zero_iff : wholeCount vs = 0 ↔ ∀ v ∈ vs, v = .null := by
  rw [wholeCount, List.countP_eq_zero]
  refine forall₂_congr fun v _ => ?_
  cases v <;> simp [isNull]

end Value

namespace Decimal

/-- A whole number is a 64-bit integer if it fits. -/
theorem toInt64?_ofWhole {k : Int} (hk : k.natAbs < 2 ^ 96) :
    (ofWhole k).toInt64? = if -2 ^ 63 ≤ k ∧ k < 2 ^ 63 then some (.ofInt k) else none := by
  have hsigned : (if decide (k < 0) then -(k.natAbs : Int) else k.natAbs) = k := by
    have := signed_ofWhole hk
    rwa [ofWhole_eq hk] at this
  rw [ofWhole_eq hk, toInt64?]
  dsimp only
  rw [Nat.pow_zero, Nat.div_one, hsigned]

theorem toBinary_ofWhole {k : Int} (hk : k.natAbs < 2 ^ 96) : (ofWhole k).toBinary = .ofInt k := by
  have hscale : (ofWhole k).scale = 0 := by rw [ofWhole_eq hk]
  rw [toBinary, if_pos hscale, signed_ofWhole hk]

end Decimal

namespace Accumulator

open Value

variable {f : AggregateFunction} {vs ws : List Value}

/-- Integers are folded to their exact sum and their number. -/
theorem ofValues_whole (hf : f = .sum ∨ f = .average) (hvs : ∀ v ∈ vs, v.IsWhole)
    (hlength : vs.length < 2 ^ 32) :
    ofValues f vs = .ok (ofNumbers f (.ofWhole (wholeSum vs)) false (wholeCount vs)) := by
  induction vs using List.reverseRecOn with
  | nil => exact congrArg Except.ok (start_eq_ofNumbers hf)
  | append_singleton vs v ih =>
    rw [List.length_append, List.length_singleton] at hlength
    have hbefore := natAbs_wholeSum_le vs
    rw [ofValues_concat, ih (fun u hu => hvs u (List.mem_append_left _ hu)) (by omega),
      wholeSum_append, wholeCount_append]
    rcases hvs v (List.mem_append_right _ List.mem_cons_self) with rfl | ⟨n, rfl⟩
    · have hsum : wholeSum [.null] = 0 := rfl
      rw [hsum, Int.add_zero]
      exact update_number_null hf
    · have hsum : wholeSum [.integer n] = n.toInt := Int.add_zero _
      have hn := Decimal.natAbs_toInt_le n
      refine (update_number hf rfl).trans ?_
      rw [hsum, Decimal.ofInt64_eq, addTotals_of_add? (Decimal.add?_ofWhole (by omega) (by omega)
        (by omega))]
      rfl

/-! ### Final values -/

/-- A sum of integers is an integer just if it fits 64 bits. -/
theorem final_sum_ofWhole {k : Int} (hk : k.natAbs < 2 ^ 96) (n : Nat) :
    (-2 ^ 63 ≤ k ∧ k < 2 ^ 63 →
      ∃ i : Int64, i.toInt = k ∧ (ofNumbers .sum (.ofWhole k) false n).final = .integer i) ∧
    (¬(-2 ^ 63 ≤ k ∧ k < 2 ^ 63) →
      (ofNumbers .sum (.ofWhole k) false n).final = .float (.ofInt k)) := by
  rw [ofNumbers, final, Decimal.toInt64?_ofWhole hk, Decimal.toBinary_ofWhole hk]
  refine ⟨fun hfits => ⟨.ofInt k, Int64.toInt_ofInt_of_le hfits.1 hfits.2, ?_⟩, fun hwide => ?_⟩
  · rw [if_pos hfits]
    rfl
  · rw [if_neg hwide]
    rfl

/-- Without integers the average is null, otherwise it is the quotient of the sum. -/
theorem final_average_ofWhole {k : Int} (hk : k.natAbs < 2 ^ 96) (n : Nat) :
    (n = 0 → (ofNumbers .average (.ofWhole k) false n).final = .null) ∧
    (0 < n → ∃ d, (Decimal.ofWhole k).divNat? n = some d ∧ d.IsQuotient k n ∧
      (ofNumbers .average (.ofWhole k) false n).final = .float d.toBinary) := by
  refine ⟨fun hn => ?_, fun hn => ?_⟩
  · subst hn
    rfl
  · obtain ⟨d, hd, hquotient⟩ := Decimal.exists_divNat? hk hn
    refine ⟨d, hd, hquotient, ?_⟩
    rw [ofNumbers, final, hd]
    · rfl
    · exact AggregateFunction.noConfusion

/-- Fewer than `2 ^ 32` integers and nulls have a sum in any order of the rows, which is the exact
one: an integer if it fits 64 bits at the end, and otherwise the nearest floating-point number. They
have an average, which is null if there are no integers, and otherwise the quotient of the exact sum
by their number. -/
theorem final_whole (hvs : ∀ v ∈ vs, v.IsWhole) (hlength : vs.length < 2 ^ 32)
    (hperm : ws.Perm vs) :
    (-2 ^ 63 ≤ wholeSum vs ∧ wholeSum vs < 2 ^ 63 → ∃ n : Int64, n.toInt = wholeSum vs ∧
      (ofValues .sum ws).map final = .ok (.integer n)) ∧
    (¬(-2 ^ 63 ≤ wholeSum vs ∧ wholeSum vs < 2 ^ 63) →
      (ofValues .sum ws).map final = .ok (.float (.ofInt (wholeSum vs)))) ∧
    ((∀ v ∈ vs, v = .null) → (ofValues .average ws).map final = .ok .null) ∧
    ((∃ v ∈ vs, v ≠ .null) → ∃ d, (Decimal.ofWhole (wholeSum vs)).divNat? (wholeCount vs) = some d ∧
      d.IsQuotient (wholeSum vs) (wholeCount vs) ∧
      (ofValues .average ws).map final = .ok (.float d.toBinary)) := by
  have hws : ∀ v ∈ ws, v.IsWhole := fun v hv => hvs v (hperm.mem_iff.1 hv)
  have hfold {f : AggregateFunction} (hf : f = .sum ∨ f = .average) : (ofValues f ws).map final =
      .ok (ofNumbers f (.ofWhole (wholeSum vs)) false (wholeCount vs)).final := by
    rw [ofValues_whole hf hws (hperm.length_eq ▸ hlength), wholeSum_perm hperm, wholeCount,
      hperm.countP_eq]
    rfl
  have hfit := natAbs_wholeSum_lt hlength
  obtain ⟨hinteger, hfloat⟩ := final_sum_ofWhole hfit (wholeCount vs)
  obtain ⟨hnull, hquotient⟩ := final_average_ofWhole hfit (wholeCount vs)
  rw [hfold (Or.inl rfl), hfold (Or.inr rfl)]
  refine ⟨fun h => ?_, fun h => congrArg Except.ok (hfloat h), fun h => ?_, fun h => ?_⟩
  · obtain ⟨n, hn, hfinal⟩ := hinteger h
    exact ⟨n, hn, congrArg Except.ok hfinal⟩
  · exact congrArg Except.ok (hnull (wholeCount_eq_zero_iff.2 h))
  · obtain ⟨v, hv, hne⟩ := h
    have hpos : 0 < wholeCount vs :=
      Nat.pos_of_ne_zero fun hzero => hne (wholeCount_eq_zero_iff.1 hzero v hv)
    obtain ⟨d, hd, hdigits, hfinal⟩ := hquotient hpos
    exact ⟨d, hd, hdigits, congrArg Except.ok hfinal⟩

/-- The largest integer plus one and minus one again: the total leaves the 64 bits and comes
back. -/
theorem final_whole_comesBack :
    (∀ v ∈ [.integer .maxValue, .null, .integer 1, .integer (-1)], Value.IsWhole v) ∧
    [Value.integer .maxValue, .null, .integer 1, .integer (-1)].length < 2 ^ 32 ∧
    [Value.integer 1, .integer .maxValue, .integer (-1), .null].Perm
      [.integer .maxValue, .null, .integer 1, .integer (-1)] ∧
    (ofValues .sum [.integer 1, .integer .maxValue, .integer (-1), .null]).map final =
      .ok (.integer .maxValue) := by
  have hvs : ∀ v ∈ [.integer .maxValue, .null, .integer 1, .integer (-1)], Value.IsWhole v := by
    intro v hv
    simp only [List.mem_cons, List.not_mem_nil, or_false] at hv
    rcases hv with rfl | rfl | rfl | rfl
    · exact Or.inr ⟨_, rfl⟩
    · exact Or.inl rfl
    · exact Or.inr ⟨_, rfl⟩
    · exact Or.inr ⟨_, rfl⟩
  have hperm : [Value.integer 1, .integer .maxValue, .integer (-1), .null].Perm
      [.integer .maxValue, .null, .integer 1, .integer (-1)] := by decide
  obtain ⟨n, hn, hfinal⟩ := (final_whole hvs (by decide) hperm).1 (by decide)
  refine ⟨hvs, by decide, hperm, hfinal.trans ?_⟩
  rw [Int64.toInt_inj.1 (hn.trans (by decide : _ = Int64.maxValue.toInt))]

end Accumulator

end FileQuery
