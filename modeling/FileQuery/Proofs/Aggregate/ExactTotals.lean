import Mathlib.Data.List.Infix
import FileQuery.Proofs.Aggregate.Splitting

/-!
# Sums and averages of two parts

A total is a decimal of 96 bits, so it is exact only as long as there is room: the sum is taken at
the larger number of places, and what does not fit is rounded or fails. Which totals are formed
depends on the parts in which values are folded. They are all sums of runs of consecutive terms. If
each such run has an exact sum that fits, at as many places as its terms need, then every total is
that sum, and sums and averages do not depend on the parts.

There is one more condition. A total of zero takes over the places of what is added to it, so a run
that cancels out must not have needed places of its own; the later result would otherwise have them
or not, depending on the parts.

## Main definitions

* `FileQuery.Decimal.places`, `FileQuery.Decimal.exactSum`: the exact sum of terms.
* `FileQuery.Decimal.ExactRuns`: terms whose runs all have a sum that fits.
* `FileQuery.Value.number?`: the term that a value is.

## Main results

* `FileQuery.Decimal.IsTotal.add?`: exact totals of two runs add up to the exact total of both.
* `FileQuery.Accumulator.exists_ofValues_total`: values with exact runs are folded to their sum.
* `FileQuery.Accumulator.ofParts_total`: sums and averages do not depend on the parts.
-/

namespace FileQuery

namespace Decimal

/-! ### Exact sums -/

/-- The places of the fraction that terms need; zeros need none. -/
def places : List Decimal → Nat
  | [] => 0
  | d :: ds => if d.mantissa = 0 then places ds else max d.scale (places ds)

/-- The sum of terms in units of `10 ^ -s`. -/
def sumAt (s : Nat) : List Decimal → Int
  | [] => 0
  | d :: ds => d.signed * 10 ^ (s - d.scale) + sumAt s ds

/-- The sum of terms in units of the last place that they need. -/
def exactSum (ds : List Decimal) : Int := sumAt (places ds) ds

/-- The sum of terms fits at the places that they need, and it is zero only if they need none. -/
structure Exact (ds : List Decimal) : Prop where
  fits : (exactSum ds).natAbs < 2 ^ 96
  places_eq_zero : exactSum ds = 0 → places ds = 0

instance (ds : List Decimal) : Decidable (Exact ds) :=
  decidable_of_iff ((exactSum ds).natAbs < 2 ^ 96 ∧ (exactSum ds = 0 → places ds = 0))
    ⟨fun h => ⟨h.1, h.2⟩, fun h => ⟨h.1, h.2⟩⟩

/-- All runs of consecutive terms have a sum that fits. -/
def ExactRuns (ds : List Decimal) : Prop := ∀ run, run <:+: ds → Exact run

theorem ExactRuns.of_infix {ds es : List Decimal} (h : ExactRuns ds) (hes : es <:+: ds) :
    ExactRuns es := fun run hrun => h run (hrun.trans hes)

theorem exactRuns_iff {ds : List Decimal} :
    ExactRuns ds ↔ ∀ tail ∈ ds.tails, ∀ run ∈ tail.inits, Exact run := by
  refine ⟨fun h tail htail run hrun => h run ?_, fun h run hrun => ?_⟩
  · exact ((List.mem_inits _ _).1 hrun).isInfix.trans ((List.mem_tails _ _).1 htail).isInfix
  · obtain ⟨tail, hrun, htail⟩ := List.infix_iff_prefix_suffix.1 hrun
    exact h tail ((List.mem_tails _ _).2 htail) run ((List.mem_inits _ _).2 hrun)

variable {xs ys ds : List Decimal} {a b d : Decimal}

theorem signed_eq_zero : d.signed = 0 ↔ d.mantissa = 0 := by
  unfold signed
  split <;> omega

theorem places_append (xs ys : List Decimal) :
    places (xs ++ ys) = max (places xs) (places ys) := by
  induction xs with
  | nil => exact (Nat.zero_max _).symm
  | cons d xs ih =>
    rw [List.cons_append, places, places, ih]
    split
    · rfl
    · exact (Nat.max_assoc _ _ _).symm

theorem places_le (ds : List Decimal) : places ds ≤ 28 := by
  induction ds with
  | nil => exact Nat.zero_le _
  | cons d ds ih =>
    rw [places]
    split
    · exact ih
    · exact Nat.max_le.2 ⟨d.scale_le, ih⟩

theorem sumAt_append (s : Nat) (xs ys : List Decimal) :
    sumAt s (xs ++ ys) = sumAt s xs + sumAt s ys := by
  induction xs with
  | nil => exact (Int.zero_add _).symm
  | cons d xs ih => rw [List.cons_append, sumAt, sumAt, ih, Int.add_assoc]

/-- The sum in smaller units, if the terms do not need them. -/
theorem sumAt_eq_mul {s t : Nat} (hs : places ds ≤ s) (hst : s ≤ t) :
    sumAt t ds = sumAt s ds * 10 ^ (t - s) := by
  induction ds with
  | nil => exact (Int.zero_mul _).symm
  | cons d ds ih =>
    rw [places] at hs
    rw [sumAt, sumAt, Int.add_mul]
    split at hs
    · next hzero => rw [signed_eq_zero.2 hzero, Int.zero_mul, Int.zero_mul, Int.zero_mul, ih hs]
    · obtain ⟨hscale, hplaces⟩ := Nat.max_le.1 hs
      have hsplit : t - d.scale = (s - d.scale) + (t - s) := by omega
      rw [hsplit, Int.pow_add, ← Int.mul_assoc, ih hplaces]

theorem exactSum_append (xs ys : List Decimal) :
    exactSum (xs ++ ys) =
      exactSum xs * 10 ^ (places (xs ++ ys) - places xs) +
        exactSum ys * 10 ^ (places (xs ++ ys) - places ys) := by
  have hxs : places xs ≤ places (xs ++ ys) := by rw [places_append]; exact Nat.le_max_left _ _
  have hys : places ys ≤ places (xs ++ ys) := by rw [places_append]; exact Nat.le_max_right _ _
  rw [exactSum, sumAt_append, sumAt_eq_mul (Nat.le_refl _) hxs, sumAt_eq_mul (Nat.le_refl _) hys,
    exactSum, exactSum]

/-! ### Totals -/

/-- A decimal is the exact sum of terms with the places that they need. -/
structure IsTotal (ds : List Decimal) (d : Decimal) : Prop where
  scale : d.scale = places ds
  signed : d.signed = exactSum ds

theorem isTotal_nil : IsTotal [] zero := ⟨rfl, rfl⟩

theorem isTotal_singleton (hzero : d.mantissa = 0 → d.scale = 0) : IsTotal [d] d := by
  have hplaces : places [d] = d.scale := by
    rw [places]
    split
    · next h => exact (hzero h).symm
    · exact Nat.max_zero _
  refine ⟨hplaces.symm, ?_⟩
  rw [exactSum, hplaces, sumAt, sumAt, Nat.sub_self, Int.pow_zero, Int.mul_one, Int.add_zero]

/-- A total of zero has no places, and terms before or behind it keep theirs. -/
theorem IsTotal.eq_zero (h : IsTotal ds d) (hexact : Exact ds) (hd : d.mantissa = 0) :
    exactSum ds = 0 ∧ places ds = 0 := by
  have hsum : exactSum ds = 0 := h.signed ▸ signed_eq_zero.2 hd
  exact ⟨hsum, hexact.places_eq_zero hsum⟩

/-- The totals of two runs add up to that of both. -/
theorem IsTotal.add? (ha : IsTotal xs a) (hb : IsTotal ys b) (hxs : Exact xs) (hys : Exact ys)
    (hexact : Exact (xs ++ ys)) : ∃ c, a.add? b = some c ∧ IsTotal (xs ++ ys) c := by
  have hsum := exactSum_append xs ys
  by_cases hazero : a.mantissa = 0
  · obtain ⟨hzero, hplaces⟩ := ha.eq_zero hxs hazero
    have hboth : places (xs ++ ys) = places ys := by
      rw [places_append, hplaces, Nat.zero_max]
    rw [hboth, hzero, Int.zero_mul, Int.zero_add, Nat.sub_self, Int.pow_zero, Int.mul_one] at hsum
    exact ⟨b, if_pos hazero, hb.scale.trans hboth.symm, hb.signed.trans hsum.symm⟩
  by_cases hbzero : b.mantissa = 0
  · obtain ⟨hzero, hplaces⟩ := hb.eq_zero hys hbzero
    have hboth : places (xs ++ ys) = places xs := by
      rw [places_append, hplaces, Nat.max_zero]
    rw [hboth, hzero, Int.zero_mul, Int.add_zero, Nat.sub_self, Int.pow_zero, Int.mul_one] at hsum
    exact ⟨a, by rw [Decimal.add?, if_neg hazero, if_pos hbzero],
      ha.scale.trans hboth.symm, ha.signed.trans hsum.symm⟩
  · have hscale : max a.scale b.scale = places (xs ++ ys) := by
      rw [ha.scale, hb.scale, places_append]
    have hfits := hexact.fits
    refine ⟨⟨decide (exactSum (xs ++ ys) < 0), (exactSum (xs ++ ys)).natAbs, places (xs ++ ys),
      hfits, places_le _⟩, ?_, rfl, ?_⟩
    · simp only [Decimal.add?, if_neg hazero, if_neg hbzero, hscale]
      rw [ha.scale, hb.scale, ha.signed, hb.signed, ← hsum, fit?_eq_some _ hfits (places_le _)]
    · by_cases hneg : exactSum (xs ++ ys) < 0
      · simp only [Decimal.signed, hneg, decide_true, if_true]
        omega
      · simp only [Decimal.signed, hneg, decide_false, Bool.false_eq_true, if_false]
        omega

/-- Two totals of the same terms differ at most in the sign of zero. -/
theorem IsTotal.eq_or_zero (ha : IsTotal ds a) (hb : IsTotal ds b) (hexact : Exact ds) :
    a = b ∨ (a.mantissa = 0 ∧ a.scale = 0) ∧ (b.mantissa = 0 ∧ b.scale = 0) := by
  have hsigned : a.signed = b.signed := ha.signed.trans hb.signed.symm
  have hmantissa : a.mantissa = b.mantissa := by rw [← natAbs_signed, hsigned, natAbs_signed]
  by_cases hzero : a.mantissa = 0
  · have hplaces := (ha.eq_zero hexact hzero).2
    exact Or.inr ⟨⟨hzero, ha.scale.trans hplaces⟩,
      ⟨hmantissa ▸ hzero, hb.scale.trans hplaces⟩⟩
  · left
    obtain ⟨s, m, k, hm, hk⟩ := a
    obtain ⟨s', m', k', hm', hk'⟩ := b
    obtain rfl : m = m' := hmantissa
    obtain rfl : k = k' := ha.scale.trans hb.scale.symm
    have hsign : s = s' := by
      have hzero' : m ≠ 0 := hzero
      cases s <;> cases s' <;> simp only [Decimal.signed] at hsigned <;> first | rfl | grind
    rw [hsign]

theorem toInt64?_of_zero (hd : d.mantissa = 0) : d.toInt64? = zero.toInt64? := by
  have hwhole : ((0 : Nat) : Int) = 0 := rfl
  simp only [toInt64?, hd, zero, Nat.zero_div, hwhole, Int.neg_zero, ite_self]

theorem toBinary_of_zero (hd : d.mantissa = 0) (hscale : d.scale = 0) :
    d.toBinary = zero.toBinary := by
  have hwhole {e : Decimal} (he : e.scale = 0) : e.toBinary = Binary64.ofInt e.signed := if_pos he
  have hzero : zero.mantissa = 0 := rfl
  rw [hwhole hscale, hwhole rfl, signed_eq_zero.2 hd, signed_eq_zero.2 hzero]

theorem divNat?_of_zero (hd : d.mantissa = 0) (n : Nat) : d.divNat? n = zero.divNat? n := by
  have hzero : zero.mantissa = 0 := rfl
  rw [divNat?, divNat?, if_pos hd, if_pos hzero]

/-! ### Terms -/

theorem stripZeros_zero (s : Nat) : stripZeros 0 s = (0, 0) := by
  induction s with
  | zero => rfl
  | succ s ih => rw [stripZeros, if_pos (Nat.zero_mod 10), Nat.zero_div, ih]

theorem stripZeros_fst_ne_zero {m : Nat} (hm : m ≠ 0) (s : Nat) : (stripZeros m s).1 ≠ 0 := by
  induction s generalizing m with
  | zero => exact hm
  | succ s ih =>
    rw [stripZeros]
    split
    · exact ih (by omega)
    · exact hm

theorem stripZeros_snd_eq_zero {m s : Nat} (h : (stripZeros m s).1 = 0) :
    (stripZeros m s).2 = 0 := by
  by_cases hm : m = 0
  · rw [hm, stripZeros_zero]
  · exact absurd h (stripZeros_fst_ne_zero hm s)

theorem parts_of_ofParts? {negative : Bool} {m s : Nat} (h : ofParts? negative m s = some d) :
    d.mantissa = m ∧ d.scale = s := by
  unfold ofParts? at h
  split at h
  · obtain rfl := Option.some.inj h
    exact ⟨rfl, rfl⟩
  · cases h

/-- A floating-point number that counts as zero needs no places. -/
theorem scale_of_ofBinary? {x : Binary64} (h : ofBinary? x = some d) (hd : d.mantissa = 0) :
    d.scale = 0 := by
  cases x with
  | nan => cases h
  | infinite negative => cases h
  | finite negative u hu =>
    rw [ofBinary?] at h
    split at h
    · exact (parts_of_ofParts? h).2
    · dsimp only at h
      split at h
      · exact (parts_of_ofParts? h).2
      · obtain ⟨hmantissa, hscale⟩ := parts_of_ofParts? h
        exact hscale.trans (stripZeros_snd_eq_zero (hmantissa.symm.trans hd))

end Decimal

namespace Value

/-- The term that a number is in a sum. -/
def number? : Value → Option Decimal
  | .integer n => some (.ofInt64 n)
  | .float x => Decimal.ofBinary? x
  | _ => none

def isFloat : Value → Bool
  | .float _ => true
  | _ => false

/-- Null and the numbers that are decimals. -/
def Summable (v : Value) : Prop := v = .null ∨ ∃ d, v.number? = some d

/-- The terms that values are in a sum. -/
def terms (vs : List Value) : List Decimal := vs.filterMap number?

theorem terms_append (us vs : List Value) : terms (us ++ vs) = terms us ++ terms vs :=
  List.filterMap_append

theorem terms_null : terms [.null] = [] := rfl

theorem terms_number {v : Value} {d : Decimal} (h : v.number? = some d) : terms [v] = [d] := by
  rw [terms, List.filterMap_cons, h]
  rfl

theorem isTotal_number {v : Value} {d : Decimal} (h : v.number? = some d) :
    Decimal.IsTotal [d] d := by
  refine Decimal.isTotal_singleton fun hd => ?_
  cases v with
  | integer n =>
    obtain rfl := Option.some.inj h
    rfl
  | float x => exact Decimal.scale_of_ofBinary? h hd
  | _ => cases h

end Value

namespace Accumulator

variable {f : AggregateFunction} {d : Decimal} {float : Bool} {n : Nat} {v : Value}
  {vs xs ys : List Value}

/-! ### Values that are added -/

/-- The accumulator of a sum or an average over numbers. -/
def ofNumbers : AggregateFunction → Decimal → Bool → Nat → Accumulator
  | .sum, d, float, _ => .sum d float
  | _, d, _, n => .average d n

theorem update_number (hf : f = .sum ∨ f = .average) {t : Decimal} (hv : v.number? = some t) :
    (ofNumbers f d float n).update [v] =
      (addTotals d t).map fun u => ofNumbers f u (float || v.isFloat) (n + 1) := by
  cases v with
  | integer k =>
    obtain rfl := Option.some.inj hv
    rcases hf with rfl | rfl <;> rfl
  | float x =>
    have hx : Decimal.ofBinary? x = some t := hv
    rcases hf with rfl | rfl <;>
      · simp only [ofNumbers, update, List.head?_cons, Option.getD_some, term?, hx]
        rfl
  | _ => cases hv

theorem update_number_null (hf : f = .sum ∨ f = .average) :
    (ofNumbers f d float n).update [.null] = .ok (ofNumbers f d float n) := by
  rcases hf with rfl | rfl <;> rfl

theorem update_not_summable (hf : f = .sum ∨ f = .average) (hv : ¬v.Summable) :
    ((ofNumbers f d float n).update [v]).toOption = none := by
  cases v with
  | null => exact absurd (Or.inl rfl) hv
  | integer k => exact absurd (Or.inr ⟨_, rfl⟩) hv
  | float x =>
    have hx : Decimal.ofBinary? x = none :=
      Option.eq_none_iff_forall_ne_some.2 fun t ht => hv (Or.inr ⟨t, ht⟩)
    rcases hf with rfl | rfl <;>
      · simp only [ofNumbers, update, List.head?_cons, Option.getD_some, term?, hx]
        rfl
  | _ => rcases hf with rfl | rfl <;> rfl

theorem merge_ofNumbers (hf : f = .sum ∨ f = .average) {e : Decimal} {float' : Bool} {m : Nat} :
    (ofNumbers f d float n).merge (ofNumbers f e float' m) =
      (addTotals d e).map fun u => ofNumbers f u (float || float') (n + m) := by
  rcases hf with rfl | rfl <;> rfl

theorem start_eq_ofNumbers (hf : f = .sum ∨ f = .average) :
    start f 1 = ofNumbers f .zero false 0 := by
  rcases hf with rfl | rfl <;> rfl

theorem addTotals_of_add? {a b c : Decimal} (h : a.add? b = some c) : addTotals a b = .ok c := by
  rw [addTotals, h]

/-- The final value does not show the sign of a total that is zero. -/
theorem final_ofNumbers_zero (hf : f = .sum ∨ f = .average) (hmantissa : d.mantissa = 0)
    (hscale : d.scale = 0) : (ofNumbers f d float n).final = (ofNumbers f .zero float n).final := by
  rcases hf with rfl | rfl
  · simp only [ofNumbers, final, Decimal.toInt64?_of_zero hmantissa,
      Decimal.toBinary_of_zero hmantissa hscale]
  · simp only [ofNumbers, final, Decimal.divNat?_of_zero hmantissa]

theorem final_ofNumbers_congr (hf : f = .sum ∨ f = .average) {ds : List Decimal} {a b : Decimal}
    (ha : Decimal.IsTotal ds a) (hb : Decimal.IsTotal ds b) (hexact : Decimal.Exact ds) :
    (ofNumbers f a float n).final = (ofNumbers f b float n).final := by
  rcases ha.eq_or_zero hb hexact with rfl | ⟨⟨ham, has⟩, hbm, hbs⟩
  · rfl
  · rw [final_ofNumbers_zero hf ham has, final_ofNumbers_zero hf hbm hbs]

/-! ### Lists of values -/

theorem ofValues_concat (f : AggregateFunction) (vs : List Value) (v : Value) :
    ofValues f (vs ++ [v]) = ofValues f vs >>= fun a => a.update [v] := by
  rw [ofValues, foldAll, List.foldlM_append]
  exact bind_congr fun a => bind_pure _

/-- Values whose terms have exact runs are folded to the sum of their terms. -/
theorem exists_ofValues_total (hf : f = .sum ∨ f = .average) (hvs : ∀ v ∈ vs, v.Summable)
    (hruns : Decimal.ExactRuns (Value.terms vs)) :
    ∃ d, Decimal.IsTotal (Value.terms vs) d ∧
      ofValues f vs = .ok (ofNumbers f d (vs.any Value.isFloat) (Value.terms vs).length) := by
  induction vs using List.reverseRecOn with
  | nil => exact ⟨.zero, Decimal.isTotal_nil, congrArg Except.ok (start_eq_ofNumbers hf)⟩
  | append_singleton vs v ih =>
    rw [Value.terms_append] at hruns ⊢
    obtain ⟨d, hd, hfold⟩ := ih (fun u hu => hvs u (List.mem_append_left _ hu))
      (hruns.of_infix (List.prefix_append _ _).isInfix)
    rw [ofValues_concat, hfold]
    rcases hvs v (List.mem_append_right _ List.mem_cons_self) with rfl | ⟨t, ht⟩
    · have hfloat : [Value.null].any Value.isFloat = false := rfl
      rw [Value.terms_null, List.append_nil, List.any_append, hfloat, Bool.or_false]
      exact ⟨d, hd, update_number_null hf⟩
    · rw [Value.terms_number ht] at hruns ⊢
      obtain ⟨c, hc, htotal⟩ := hd.add? (Value.isTotal_number ht)
        (hruns _ (List.prefix_append _ _).isInfix) (hruns _ (List.suffix_append _ _).isInfix)
        (hruns _ List.infix_rfl)
      refine ⟨c, htotal, (update_number hf ht).trans ?_⟩
      rw [addTotals_of_add? hc, List.any_append, List.any_cons, List.any_nil, Bool.or_false,
        List.length_append]
      rfl

/-- A value that is no decimal fails, wherever it stands. -/
theorem foldAll_not_summable (hf : f = .sum ∨ f = .average) (hv : v ∈ vs) (hsum : ¬v.Summable) :
    (foldAll (ofNumbers f d float n) vs).toOption = none := by
  induction vs generalizing d float n with
  | nil => cases hv
  | cons u us ih =>
    rw [foldAll, List.foldlM_cons, Except.toOption_bind]
    rcases List.mem_cons.1 hv with rfl | hmem
    · rw [update_not_summable hf hsum, Option.bind_none]
    · by_cases hu : u.Summable
      · rcases hu with rfl | ⟨t, ht⟩
        · rw [update_number_null hf]
          exact ih hmem
        · rw [update_number hf ht]
          cases addTotals d t with
          | error e => rfl
          | ok c => exact ih hmem
      · rw [update_not_summable hf hu, Option.bind_none]

theorem ofValues_not_summable (hf : f = .sum ∨ f = .average) (hv : v ∈ vs)
    (hsum : ¬v.Summable) : (ofValues f vs).toOption = none := by
  rw [ofValues, start_eq_ofNumbers hf]
  exact foldAll_not_summable hf hv hsum

/-- A value that is no decimal fails in whichever part it is. -/
theorem ofParts_not_summable (hf : f = .sum ∨ f = .average) (hv : v ∈ xs ++ ys)
    (hsum : ¬v.Summable) : (ofParts f xs ys).toOption = none := by
  rw [ofParts, Except.toOption_bind]
  rcases List.mem_append.1 hv with hv | hv
  · rw [ofValues_not_summable hf hv hsum, Option.bind_none]
  · refine Option.bind_eq_none_iff.2 fun a _ => ?_
    rw [Except.toOption_bind, ofValues_not_summable hf hv hsum, Option.bind_none]

/-- Where all runs of terms have a sum that fits, the sum and the average of two parts are those of
all values. With a value that is no decimal, both ways fail. -/
theorem ofParts_total (hf : f = .sum ∨ f = .average) (xs ys : List Value)
    (h : (∀ v ∈ xs ++ ys, v.Summable) → Decimal.ExactRuns (Value.terms (xs ++ ys))) :
    ((ofParts f xs ys).map final).toOption = ((ofValues f (xs ++ ys)).map final).toOption := by
  by_cases hvs : ∀ v ∈ xs ++ ys, v.Summable
  · have hruns := h hvs
    obtain ⟨w, hw, hwhole⟩ := exists_ofValues_total hf hvs hruns
    rw [Value.terms_append] at hruns hw hwhole
    obtain ⟨a, ha, hleft⟩ := exists_ofValues_total hf
      (fun v hv => hvs v (List.mem_append_left _ hv))
      (hruns.of_infix (List.prefix_append _ _).isInfix)
    obtain ⟨b, hb, hright⟩ := exists_ofValues_total hf
      (fun v hv => hvs v (List.mem_append_right _ hv))
      (hruns.of_infix (List.suffix_append _ _).isInfix)
    obtain ⟨c, hc, htotal⟩ := ha.add? hb (hruns _ (List.prefix_append _ _).isInfix)
      (hruns _ (List.suffix_append _ _).isInfix) (hruns _ List.infix_rfl)
    have hparts : ofParts f xs ys = .ok (ofNumbers f c ((xs ++ ys).any Value.isFloat)
        (Value.terms xs ++ Value.terms ys).length) := by
      rw [ofParts, hleft, hright, List.any_append, List.length_append]
      refine (merge_ofNumbers hf).trans ?_
      rw [addTotals_of_add? hc]
      rfl
    rw [hparts, hwhole]
    exact congrArg some (final_ofNumbers_congr hf htotal hw (hruns _ List.infix_rfl))
  · obtain ⟨v, hv⟩ := not_forall.1 hvs
    obtain ⟨hv, hsum⟩ := Classical.not_imp.1 hv
    rw [Except.toOption_map, Except.toOption_map, ofParts_not_summable hf hv hsum,
      ofValues_not_summable hf hv hsum]

/-- Numbers with few digits: the total of two of them cancels the other one in part. -/
theorem ofParts_total_quarters :
    ((∀ v ∈ [.float (.ofRatio false 3 2), .null] ++ [.integer 2, .float (.ofRatio true 1 4)],
      Value.Summable v) → Decimal.ExactRuns (Value.terms
        ([.float (.ofRatio false 3 2), .null] ++ [.integer 2, .float (.ofRatio true 1 4)]))) ∧
    ((ofParts .average [.float (.ofRatio false 3 2), .null]
        [.integer 2, .float (.ofRatio true 1 4)]).map final).toOption =
      ((ofValues .average ([.float (.ofRatio false 3 2), .null] ++
        [.integer 2, .float (.ofRatio true 1 4)])).map final).toOption := by
  have hruns : Decimal.ExactRuns (Value.terms
      ([.float (.ofRatio false 3 2), .null] ++ [.integer 2, .float (.ofRatio true 1 4)])) := by
    rw [Decimal.exactRuns_iff]
    decide +kernel
  exact ⟨fun _ => hruns, ofParts_total (Or.inr rfl) _ _ fun _ => hruns⟩

/-- Beside a number of 96 bits there is no room for a half. In one go the large number is cancelled
first and the half remains; in a part of its own the half is rounded away. -/
theorem ofParts_sum_half :
    ((ofParts .sum [.float (.ofInt (2 ^ 95))]
        [.float (.ofInt (-2 ^ 95)), .float (.ofRatio false 1 2)]).map final).toOption ≠
      ((ofValues .sum ([.float (.ofInt (2 ^ 95))] ++
        [.float (.ofInt (-2 ^ 95)), .float (.ofRatio false 1 2)])).map final).toOption := by
  have hparts : ((ofParts .sum [.float (.ofInt (2 ^ 95))]
      [.float (.ofInt (-2 ^ 95)), .float (.ofRatio false 1 2)]).map final).toOption =
      some (.float (.zero false)) := by decide +kernel
  have hwhole : ((ofValues .sum ([.float (.ofInt (2 ^ 95))] ++
      [.float (.ofInt (-2 ^ 95)), .float (.ofRatio false 1 2)])).map final).toOption =
      some (.float (.ofRatio false 1 2)) := by decide +kernel
  rw [hparts, hwhole]
  decide +kernel

/-- All runs fit, but `1e-14` cancels out and has places of its own. In one go the total is `40.7` in
one place; of two parts it is the same in 14, and then it becomes another floating-point number. -/
example :
    ((ofParts .sum [.float (.ofRatio false 1 (10 ^ 14))]
        [.float (.ofRatio true 1 (10 ^ 14)), .float (.ofRatio false 407 10)]).map final).toOption ≠
      ((ofValues .sum ([.float (.ofRatio false 1 (10 ^ 14))] ++
        [.float (.ofRatio true 1 (10 ^ 14)), .float (.ofRatio false 407 10)])).map
          final).toOption := by
  decide +kernel

end Accumulator

end FileQuery
