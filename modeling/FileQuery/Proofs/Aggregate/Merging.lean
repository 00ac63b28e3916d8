import FileQuery.Proofs.Aggregate.WholeTotals
import FileQuery.Proofs.Run.Outcome
import FileQuery.Proofs.Value.SortOrder

/-!
# Merging accumulators

The accumulators of two neighbouring parts of the values merge to the accumulator of all of them.
The law behind it is about one more value: feeding it to the second part and then merging is the
same as merging first and feeding it to the whole, and one side fails just if the other does.

The law needs that sums do not depend on how they are grouped and that a comparison fails for every
grouping or for none. So no floating-point numbers may be summed, a sum has less than `2 ^ 32`
terms, and times are not compared with strings, since such a comparison fails for some strings only.
For minima and maxima it is enough that all values compare as some keys of them sort.

## Main definitions

* `FileQuery.Value.ComparesBy`: values that compare as their keys sort.
* `FileQuery.AggregateFunction.Admits`: the values that a function may be given.
* `FileQuery.Accumulator.Holds`: the accumulators that a function has after some values.

## Main results

* `FileQuery.Value.pick?_assoc`: picking the best of three values does not depend on the grouping.
* `FileQuery.Accumulator.merge_start`: no values are neutral.
* `FileQuery.Accumulator.merge_update`: the law of one more value.
-/

namespace FileQuery

/-! ### The better of two values -/

namespace Value

variable {wanted : Ordering} {key : Value → Value} {a b c : Value}

theorem sortCompare_trans (hw : wanted ≠ .eq) (hab : a.sortCompare b = wanted)
    (hbc : b.sortCompare c = wanted) : a.sortCompare c = wanted := by
  cases wanted with
  | lt => exact Std.TransCmp.lt_trans hab hbc
  | eq => exact absurd rfl hw
  | gt => exact Std.TransCmp.gt_trans hab hbc

theorem sortCompare_ne_trans (hw : wanted ≠ .eq) (hab : a.sortCompare b ≠ wanted)
    (hbc : b.sortCompare c ≠ wanted) : a.sortCompare c ≠ wanted := by
  cases wanted with
  | lt =>
    exact Ordering.isGE_iff_ne_lt.1 (Std.TransCmp.isGE_trans (Ordering.isGE_iff_ne_lt.2 hab)
      (Ordering.isGE_iff_ne_lt.2 hbc))
  | eq => exact absurd rfl hw
  | gt =>
    exact Ordering.isLE_iff_ne_gt.1 (Std.TransCmp.isLE_trans (Ordering.isLE_iff_ne_gt.2 hab)
      (Ordering.isLE_iff_ne_gt.2 hbc))

/-- The value kept of two: the second one only if its key sorts as wanted. Values whose keys are of
different ranks are not compared. -/
def pick? (key : Value → Value) (wanted : Ordering) (a b : Value) : Option Value :=
  if (key a).sortRank = (key b).sortRank then
    some (if (key b).sortCompare (key a) = wanted then b else a)
  else none

theorem pick?_eq_none :
    pick? key wanted a b = none ↔ (key a).sortRank ≠ (key b).sortRank := by
  unfold pick?
  split
  · next h => simp [h]
  · next h => simp [h]

theorem sortRank_of_pick? (h : pick? key wanted a b = some c) :
    (key c).sortRank = (key a).sortRank ∧ (key c).sortRank = (key b).sortRank := by
  unfold pick? at h
  split at h
  · next hrank =>
    split at h
    · obtain rfl := Option.some.inj h
      exact ⟨hrank.symm, rfl⟩
    · obtain rfl := Option.some.inj h
      exact ⟨rfl, hrank⟩
  · cases h

theorem eq_or_eq_of_pick? (h : pick? key wanted a b = some c) : c = a ∨ c = b := by
  unfold pick? at h
  split at h
  · split at h
    · exact Or.inr (Option.some.inj h).symm
    · exact Or.inl (Option.some.inj h).symm
  · cases h

theorem pick?_assoc (hw : wanted ≠ .eq) (a b c : Value) :
    (pick? key wanted b c).bind (pick? key wanted a) =
      (pick? key wanted a b).bind (pick? key wanted · c) := by
  by_cases hbc : (key b).sortRank = (key c).sortRank
  · by_cases hab : (key a).sortRank = (key b).sortRank
    · have hac : (key a).sortRank = (key c).sortRank := hab.trans hbc
      by_cases h₁ : (key b).sortCompare (key a) = wanted <;>
        by_cases h₂ : (key c).sortCompare (key b) = wanted
      · have h₃ : (key c).sortCompare (key a) = wanted := sortCompare_trans hw h₂ h₁
        simp [pick?, hab, hbc, h₁, h₂, h₃]
      · simp [pick?, hab, hbc, h₁, h₂]
      · simp [pick?, hab, hbc, h₁, h₂]
      · have h₃ : (key c).sortCompare (key a) ≠ wanted := sortCompare_ne_trans hw h₂ h₁
        simp [pick?, hab, hbc, h₁, h₂, h₃]
    · rw [pick?_eq_none.2 hab, Option.bind_none, Option.bind_eq_none_iff]
      intro d hd
      rw [pick?_eq_none, (sortRank_of_pick? hd).1]
      exact hab
  · rw [pick?_eq_none.2 hbc, Option.bind_none, eq_comm, Option.bind_eq_none_iff]
    intro d hd
    rw [pick?_eq_none, (sortRank_of_pick? hd).2]
    exact hbc

/-- The values of a set compare as their keys sort: they are compared if their keys are of one rank,
and a comparison fails otherwise. -/
def ComparesBy (key : Value → Value) (S : Set Value) : Prop :=
  ∀ a ∈ S, ∀ b ∈ S, a ≠ .null → b ≠ .null →
    (a.compare b).toOption = if (key b).sortRank = (key a).sortRank
      then some (some ((key a).sortCompare (key b))) else none

end Value

/-! ### Values that functions admit -/

/-- The values that a function may be given: no floats to sum, and not both times and strings to
compare. -/
def AggregateFunction.Admits (S : Set Value) : AggregateFunction → Prop
  | .count => True
  | .sum | .average => ∀ x, Value.float x ∉ S
  | .min | .max => ∀ t s, Value.time t ∈ S → Value.string s ∉ S

namespace Accumulator

variable {S : Set Value} {wanted : Ordering} {key : Value → Value}

/-! ### The best of two parts -/

/-- Where times and strings are not mixed, values compare as they sort. -/
theorem comparesBy_self (hS : ∀ t s, Value.time t ∈ S → Value.string s ∉ S) :
    Value.ComparesBy id S := by
  intro a ha b hb hna hnb
  by_cases hrank : a.sortRank = b.sortRank
  · rw [id_eq, id_eq, if_pos hrank.symm, Value.sortCompare, Nat.compare_eq_eq.2 hrank,
      Ordering.eq_then]
    cases a <;> cases b <;> first | rfl | contradiction | simp [Value.sortRank] at hrank
  · rw [id_eq, id_eq, if_neg (Ne.symm hrank)]
    cases a <;> cases b <;> first
      | rfl
      | contradiction
      | exact absurd rfl hrank
      | exact absurd hb (hS _ _ ha)
      | exact absurd ha (hS _ _ hb)

theorem better_null (best : Option Value) : better wanted best .null = .ok best := rfl

theorem better_none {v : Value} (hv : v ≠ .null) : better wanted none v = .ok (some v) := by
  cases v <;> first | contradiction | rfl

theorem better_some (hS : Value.ComparesBy key S) {old v : Value} (hold : old ∈ S) (hv : v ∈ S)
    (hnold : old ≠ .null) (hnv : v ≠ .null) :
    (better wanted (some old) v).toOption = (Value.pick? key wanted old v).map some := by
  have hbetter : better wanted (some old) v = ((v.compare old).mapError .comparison).map fun o =>
      if o = some wanted then some v else some old := by
    cases v <;> first | contradiction | rfl
  rw [hbetter, Except.toOption_map, Except.toOption_mapError, hS v hv old hold hnv hnold,
    Value.pick?]
  split
  · simp only [Option.map_some, Option.some.injEq]
    split <;> rfl
  · rfl

/-- A value kept so far is one of a set and not null. -/
def Keeps (S : Set Value) (best : Option Value) : Prop := ∀ v ∈ best, v ∈ S ∧ v ≠ .null

theorem keeps_none : Keeps S none := fun _ h => (nomatch h)

theorem keeps_some {v : Value} (hv : v ∈ S) (hnull : v ≠ .null) : Keeps S (some v) := by
  intro u hu
  obtain rfl := Option.some.inj hu
  exact ⟨hv, hnull⟩

theorem Keeps.better (hS : Value.ComparesBy key S) {x z : Option Value} (hx : Keeps S x)
    {v : Value} (hv : v ∈ S) (h : (better wanted x v).toOption = some z) : Keeps S z := by
  by_cases hnull : v = .null
  · subst hnull
    obtain rfl : x = z := Option.some.inj h
    exact hx
  · cases x with
    | none =>
      rw [better_none hnull] at h
      obtain rfl : some v = z := Option.some.inj h
      exact keeps_some hv hnull
    | some old =>
      obtain ⟨hold, hnold⟩ := hx old rfl
      rw [better_some hS hold hv hnold hnull] at h
      obtain ⟨c, hc, rfl⟩ := Option.map_eq_some_iff.1 h
      rcases Value.eq_or_eq_of_pick? hc with rfl | rfl
      · exact hx
      · exact keeps_some hv hnull

/-- No value is neutral on the left. -/
theorem betterOf_none_left {x : Option Value} (hx : Keeps S x) :
    betterOf wanted none x = .ok x := by
  cases x with
  | none => rfl
  | some v => exact better_none (hx v rfl).2

/-- The law of one more value for the best of two parts. -/
theorem betterOf_better (hw : wanted ≠ .eq) (hS : Value.ComparesBy key S) {x y : Option Value}
    {v : Value} (hx : Keeps S x) (hy : Keeps S y) (hv : v ∈ S) :
    (better wanted y v).toOption.bind (fun z => (betterOf wanted x z).toOption) =
      (betterOf wanted x y).toOption.bind fun z => (better wanted z v).toOption := by
  by_cases hnull : v = .null
  · subst hnull
    simp only [better_null, Except.toOption, Option.bind_some, Option.bind_fun_some]
  match x, y with
  | x, none => rw [better_none hnull]; rfl
  | none, some b =>
    rw [betterOf_none_left hy, Except.toOption, Option.bind_some]
    cases h : (better wanted (some b) v).toOption with
    | none => rfl
    | some z => rw [Option.bind_some, betterOf_none_left (hy.better hS hv h)]; rfl
  | some a, some b =>
    obtain ⟨ha, hna⟩ := hx a rfl
    obtain ⟨hb, hnb⟩ := hy b rfl
    have hright : (Value.pick? key wanted a b).bind (fun z => (better wanted (some z) v).toOption) =
        ((Value.pick? key wanted a b).bind (Value.pick? key wanted · v)).map some := by
      cases h : Value.pick? key wanted a b with
      | none => rfl
      | some z =>
        rcases Value.eq_or_eq_of_pick? h with rfl | rfl
        · exact better_some hS ha hv hna hnull
        · exact better_some hS hb hv hnb hnull
    have hleft : (Value.pick? key wanted b v).bind (fun z => (better wanted (some a) z).toOption) =
        ((Value.pick? key wanted b v).bind (Value.pick? key wanted a)).map some := by
      cases h : Value.pick? key wanted b v with
      | none => rfl
      | some z =>
        rcases Value.eq_or_eq_of_pick? h with rfl | rfl
        · exact better_some hS ha hb hna hnb
        · exact better_some hS ha hv hna hnull
    rw [better_some hS hb hv hnb hnull, betterOf, better_some hS ha hb hna hnb, Option.bind_map,
      Option.bind_map]
    exact hleft.trans ((congrArg (Option.map some) (Value.pick?_assoc hw a b v)).trans hright.symm)

/-! ### Totals and best values

Sums and averages, and minima and maxima, are pairs of functions with one law each. -/

/-- The accumulator of a sum or an average over whole numbers. -/
def ofTotal : AggregateFunction → Decimal → Nat → Accumulator
  | .sum, d, _ => .sum d false
  | _, d, k => .average d k

/-- The accumulator of a minimum or a maximum. -/
def ofBest : AggregateFunction → Option Value → Accumulator
  | .min, x => .min x
  | _, x => .max x

/-- How a new value has to compare with the best one so far. -/
def wantedOf : AggregateFunction → Ordering
  | .min => .lt
  | _ => .gt

variable {args m n : Nat} {f : AggregateFunction} {a b c : Accumulator}

theorem merge_ofTotal (hf : f = .sum ∨ f = .average) (d e : Decimal) (k l : Nat) :
    (ofTotal f d k).merge (ofTotal f e l) =
      (addTotals d e).map fun u => ofTotal f u (k + l) := by
  rcases hf with rfl | rfl <;> rfl

/-- What a value that is no float adds to a total. -/
theorem term?_cases (f : AggregateFunction) {v : Value} (hv : ∀ x, v ≠ .float x) :
    term? f v = .ok none ∨ (∃ l : Int64, term? f v = .ok (some (.ofWhole l.toInt, false))) ∨
      ∃ e, term? f v = .error e := by
  cases v with
  | null => exact Or.inl rfl
  | integer l => exact Or.inr (Or.inl ⟨l, by rw [term?, Decimal.ofInt64_eq]⟩)
  | float x => exact absurd rfl (hv x)
  | _ => exact Or.inr (Or.inr ⟨_, rfl⟩)

/-- A value leaves any total as it is, adds an integer to it, or fails for any total. -/
theorem update_ofTotal (hf : f = .sum ∨ f = .average) {v : Value} (hv : ∀ x, v ≠ .float x) :
    (∀ d k, (ofTotal f d k).update [v] = .ok (ofTotal f d k)) ∨
    (∃ l : Int64, ∀ d k, (ofTotal f d k).update [v] =
      (addTotals d (.ofWhole l.toInt)).map fun u => ofTotal f u (k + 1)) ∨
    ∃ e, ∀ d k, (ofTotal f d k).update [v] = .error e := by
  rcases term?_cases f hv with h | ⟨l, h⟩ | ⟨e, h⟩
  · refine Or.inl fun d k => ?_
    rcases hf with rfl | rfl <;>
      · simp only [ofTotal, update, List.head?_cons, Option.getD_some, h]
        rfl
  · refine Or.inr (Or.inl ⟨l, fun d k => ?_⟩)
    rcases hf with rfl | rfl <;>
      · simp only [ofTotal, update, List.head?_cons, Option.getD_some, h]
        rfl
  · refine Or.inr (Or.inr ⟨e, fun d k => ?_⟩)
    rcases hf with rfl | rfl <;>
      · simp only [ofTotal, update, List.head?_cons, Option.getD_some, h]
        rfl

theorem addTotals_ofWhole {k l : Int} (hk : k.natAbs ≤ m * 2 ^ 63) (hl : l.natAbs ≤ n * 2 ^ 63)
    (hmn : m + n ≤ 2 ^ 32) : addTotals (.ofWhole k) (.ofWhole l) = .ok (.ofWhole (k + l)) := by
  rw [addTotals, Decimal.add?_ofWhole (by omega) (by omega) (by omega)]

theorem merge_ofBest (hf : f = .min ∨ f = .max) (x y : Option Value) :
    (ofBest f x).merge (ofBest f y) = (betterOf (wantedOf f) x y).map (ofBest f) := by
  rcases hf with rfl | rfl <;> rfl

theorem update_ofBest (hf : f = .min ∨ f = .max) (x : Option Value) (v : Value) :
    (ofBest f x).update [v] = (better (wantedOf f) x v).map (ofBest f) := by
  rcases hf with rfl | rfl <;> rfl

theorem wantedOf_ne_eq (f : AggregateFunction) : wantedOf f ≠ .eq := by
  cases f <;> exact fun h => (nomatch h)

/-! ### Accumulators -/

/-- The accumulators that a function with a number of arguments may have after at most `n` values
of a set: totals are whole numbers that `n` integers of 64 bits can add up to, and the best value is
one of the set. -/
inductive Holds (S : Set Value) (args n : Nat) (f : AggregateFunction) : Accumulator → Prop
  | count (hf : f = .count) (k : Nat) : Holds S args n f (.count (args == 0) k)
  | total (hf : f = .sum ∨ f = .average) {k : Int} (hk : k.natAbs ≤ n * 2 ^ 63) (terms : Nat) :
    Holds S args n f (ofTotal f (.ofWhole k) terms)
  | best (hf : f = .min ∨ f = .max) {x : Option Value} (hx : Keeps S x) :
    Holds S args n f (ofBest f x)

theorem holds_start (f : AggregateFunction) : Holds S args 0 f (start f args) := by
  have hzero : (0 : Int).natAbs ≤ 0 * 2 ^ 63 := Nat.le_refl 0
  cases f with
  | count => exact .count rfl 0
  | sum => exact .total (Or.inl rfl) hzero 0
  | average => exact .total (Or.inr rfl) hzero 0
  | min => exact .best (Or.inl rfl) keeps_none
  | max => exact .best (Or.inr rfl) keeps_none

theorem Holds.eq_count (h : Holds S args n f a) (hf : f = .count) :
    ∃ k, a = .count (args == 0) k := by
  subst hf
  rcases h with ⟨_, k⟩ | hf | hf
  · exact ⟨k, rfl⟩
  · simp at hf
  · simp at hf

theorem Holds.eq_total (h : Holds S args n f a) (hf : f = .sum ∨ f = .average) :
    ∃ k : Int, k.natAbs ≤ n * 2 ^ 63 ∧ ∃ terms, a = ofTotal f (.ofWhole k) terms := by
  cases h with
  | count hf' k => subst hf'; simp at hf
  | total _ hk terms => exact ⟨_, hk, terms, rfl⟩
  | best hf' hx => rcases hf with rfl | rfl <;> simp at hf'

theorem Holds.eq_best (h : Holds S args n f a) (hf : f = .min ∨ f = .max) :
    ∃ x, Keeps S x ∧ a = ofBest f x := by
  cases h with
  | count hf' k => subst hf'; simp at hf
  | total hf' hk terms => rcases hf with rfl | rfl <;> simp at hf'
  | best _ hx => exact ⟨_, hx, rfl⟩

theorem Holds.mono (h : Holds S args m f a) (hmn : m ≤ n) : Holds S args n f a := by
  cases h with
  | count hf k => exact .count hf k
  | total hf hk terms => exact .total hf (Nat.le_trans hk (Nat.mul_le_mul_right _ hmn)) terms
  | best hf hx => exact .best hf hx

theorem not_float_of_admits (hS : f.Admits S) (hf : f = .sum ∨ f = .average) {v : Value}
    (hv : v ∈ S) : ∀ x, v ≠ .float x := by
  rintro x rfl
  rcases hf with rfl | rfl
  · exact hS x hv
  · exact hS x hv

theorem comparesBy_of_admits (hS : f.Admits S) (hf : f = .min ∨ f = .max) :
    Value.ComparesBy id S := by
  rcases hf with rfl | rfl
  · exact comparesBy_self hS
  · exact comparesBy_self hS

/-- One more value keeps the invariant. -/
theorem Holds.update (hS : f.Admits S) (h : Holds S args n f a) (hn : n + 1 ≤ 2 ^ 32) {v : Value}
    (hv : v ∈ S) (hu : (a.update [v]).toOption = some b) : Holds S args (n + 1) f b := by
  cases h with
  | count hf k =>
    obtain rfl := Option.some.inj hu
    exact .count hf _
  | @total hf k hk terms =>
    rcases update_ofTotal hf (not_float_of_admits hS hf hv) with hup | ⟨l, hup⟩ | ⟨e, hup⟩
    · rw [hup] at hu
      obtain rfl := Option.some.inj hu
      exact (Holds.total hf hk terms).mono (Nat.le_succ n)
    · have hl := Decimal.natAbs_toInt_le l
      rw [hup, addTotals_ofWhole hk (n := 1) (by omega) hn] at hu
      obtain rfl := Option.some.inj hu
      exact .total hf (by omega) _
    · rw [hup] at hu
      cases hu
  | @best hf x hx =>
    rw [update_ofBest hf] at hu
    cases hbetter : better (wantedOf f) x v with
    | error e => rw [hbetter] at hu; cases hu
    | ok z =>
      rw [hbetter] at hu
      obtain rfl := Option.some.inj hu
      exact .best hf (hx.better (comparesBy_of_admits hS hf) hv (congrArg Except.toOption hbetter))

/-- No values are neutral on the right. -/
theorem merge_start (h : Holds S args n f a) (hn : n ≤ 2 ^ 32) :
    a.merge (start f args) = .ok a := by
  cases h with
  | count hf k =>
    subst hf
    rfl
  | @total hf k hk terms =>
    have hstart : start f args = ofTotal f (.ofWhole 0) 0 := by
      rcases hf with rfl | rfl <;> rfl
    rw [hstart, merge_ofTotal hf, addTotals_ofWhole hk (Nat.zero_le (0 * 2 ^ 63)) hn, Int.add_zero]
    rfl
  | @best hf x hx =>
    have hstart : start f args = ofBest f none := by
      rcases hf with rfl | rfl <;> rfl
    rw [hstart, merge_ofBest hf]
    rfl

/-- The law of one more value: it may be folded before a merge or after it. -/
theorem merge_update (hS : f.Admits S) (ha : Holds S args m f a) (hb : Holds S args n f b)
    (hmn : m + n + 1 ≤ 2 ^ 32) {v : Value} (hv : v ∈ S) :
    (b.update [v]).toOption.bind (fun b => (a.merge b).toOption) =
      (a.merge b).toOption.bind fun c => (c.update [v]).toOption := by
  cases ha with
  | count hf k =>
    obtain ⟨l, rfl⟩ := hb.eq_count hf
    obtain ⟨d, hd⟩ : ∃ d, ∀ j, (count (args == 0) j).update [v] =
        .ok (.count (args == 0) (j + d)) := by
      by_cases hcounts : (args == 0 || !v.isNull) = true
      · exact ⟨1, fun j => congrArg (fun k => Except.ok (count _ k)) (if_pos hcounts)⟩
      · exact ⟨0, fun j => congrArg (fun k => Except.ok (count _ k)) (if_neg hcounts)⟩
    simp only [hd, merge, Except.toOption, Option.bind_some, Nat.add_assoc]
  | @total hf k hk terms =>
    obtain ⟨l, hl, terms', rfl⟩ := hb.eq_total hf
    have hkl : (k + l).natAbs ≤ (m + n) * 2 ^ 63 := by omega
    rw [merge_ofTotal hf, addTotals_ofWhole hk hl (by omega)]
    rcases update_ofTotal hf (not_float_of_admits hS hf hv) with hup | ⟨i, hup⟩ | ⟨e, hup⟩
    · rw [hup, Except.toOption, Option.bind_some, merge_ofTotal hf,
        addTotals_ofWhole hk hl (by omega)]
      simp [Except.map, Except.toOption, hup]
    · have hi : i.toInt.natAbs ≤ 1 * 2 ^ 63 := by
        rw [Nat.one_mul]
        exact Decimal.natAbs_toInt_le i
      have hli : (l + i.toInt).natAbs ≤ (n + 1) * 2 ^ 63 := by omega
      rw [hup, addTotals_ofWhole hl hi (by omega), Except.map, Except.toOption, Option.bind_some,
        merge_ofTotal hf, addTotals_ofWhole hk hli (by omega), Except.map, Except.map,
        Except.toOption, Except.toOption, Option.bind_some, hup,
        addTotals_ofWhole hkl hi (by omega), Int.add_assoc, Nat.add_assoc]
      rfl
    · simp [hup, Except.map, Except.toOption]
  | @best hf x hx =>
    obtain ⟨y, hy, rfl⟩ := hb.eq_best hf
    have hlaw := betterOf_better (wantedOf_ne_eq f) (comparesBy_of_admits hS hf) hx hy hv
    have hmap := congrArg (Option.map (ofBest f)) hlaw
    rw [Option.map_bind, Option.map_bind] at hmap
    simpa only [update_ofBest hf, merge_ofBest hf, Except.toOption_map, Option.bind_map,
      Function.comp_def] using hmap

end Accumulator

end FileQuery
