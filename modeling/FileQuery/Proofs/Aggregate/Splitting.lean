import Mathlib.Data.List.Induction
import FileQuery.Proofs.Aggregate.Merging

/-!
# Minima and maxima of two parts

The values of a call may be folded in two parts whose accumulators are merged. For minima and maxima
the result is that of all values in one go if the values are ordered in one way only. Strings are
not: among themselves they compare as texts, and with times as dates. So beside a time all strings
have to be dates, and the order of the texts has to be the order of the dates. Otherwise the parts
decide which of the two orders is used, and the results differ.

## Main definitions

* `FileQuery.Accumulator.ofValues`: all values in one go.
* `FileQuery.Accumulator.ofParts`: two parts that are merged.
* `FileQuery.Value.DatesInOrder`: the sets of values that are ordered in one way.

## Main results

* `FileQuery.Accumulator.bestOf_append`: the best of a list is the better of the best of two parts.
* `FileQuery.Accumulator.ofParts_best`: minima and maxima do not depend on the parts.
-/

namespace FileQuery

namespace Value

/-- Beside a time every string is a date, and the order of these texts is that of the dates. -/
def DatesInOrder (S : Set Value) : Prop :=
  ∀ t, .time t ∈ S → ∀ r s, .string r ∈ S → .string s ∈ S →
    ∃ u v, Instant.ofLiteral? r = some u ∧ Instant.ofLiteral? s = some v ∧
      Ord.compare r s = u.compare v

/-- The value that stands for a value beside times: a date is the time that it means. -/
def dated : Value → Value
  | .string s => ((Instant.ofLiteral? s).map .time).getD (.string s)
  | v => v

theorem dated_string {s : String} {u : Instant} (h : Instant.ofLiteral? s = some u) :
    dated (.string s) = .time u := by
  rw [dated, h]
  rfl

/-- Beside a time, dates in order compare as the times that they mean. -/
theorem comparesBy_dated {S : Set Value} (hS : DatesInOrder S) {t : Instant}
    (ht : .time t ∈ S) : ComparesBy dated S := by
  intro a ha b hb hna hnb
  cases a with
  | string r =>
    obtain ⟨u, -, hu, -, -⟩ := hS t ht r r ha ha
    rw [dated_string hu]
    cases b with
    | string s =>
      obtain ⟨u', v, hu', hv, hrs⟩ := hS t ht r s ha hb
      obtain rfl := Option.some.inj (hu.symm.trans hu')
      rw [dated_string hv]
      exact congrArg (fun o => some (some o)) hrs
    | time v => simp only [compare, instantOf, hu]; rfl
    | null => contradiction
    | _ => rfl
  | time u =>
    cases b with
    | string s =>
      obtain ⟨v, -, hv, -, -⟩ := hS t ht s s hb hb
      rw [dated_string hv]
      simp only [compare, instantOf, hv]
      rfl
    | null => contradiction
    | _ => rfl
  | null => contradiction
  | _ =>
    cases b with
    | string s =>
      obtain ⟨v, -, hv, -, -⟩ := hS t ht s s hb hb
      rw [dated_string hv]
      rfl
    | null => contradiction
    | _ => rfl

/-- Values of which no date is out of order are ordered by keys. -/
theorem exists_comparesBy {S : Set Value} (hS : DatesInOrder S) : ∃ key, ComparesBy key S := by
  by_cases h : ∃ t, .time t ∈ S
  · obtain ⟨t, ht⟩ := h
    exact ⟨dated, comparesBy_dated hS ht⟩
  · exact ⟨id, Accumulator.comparesBy_self fun t s ht => absurd ⟨t, ht⟩ h⟩

end Value

namespace Accumulator

/-! ### Folding in one go and in two parts -/

/-- The accumulator after more values. -/
def foldAll (a : Accumulator) (vs : List Value) : Except FoldError Accumulator :=
  vs.foldlM (fun a v => a.update [v]) a

/-- The accumulator of a function over values. -/
def ofValues (f : AggregateFunction) (vs : List Value) : Except FoldError Accumulator :=
  foldAll (start f 1) vs

/-- The accumulator of a function over two parts that are folded apart and merged. -/
def ofParts (f : AggregateFunction) (xs ys : List Value) : Except FoldError Accumulator := do
  let a ← ofValues f xs
  let b ← ofValues f ys
  a.merge b

/-! ### The best of a list -/

variable {S : Set Value} {wanted : Ordering} {key : Value → Value} {f : AggregateFunction}

/-- The best of the values of a list. -/
def bestOf (wanted : Ordering) (vs : List Value) : Except FoldError (Option Value) :=
  vs.foldlM (better wanted) none

theorem toOption_bestOf_concat (vs : List Value) (v : Value) :
    (bestOf wanted (vs ++ [v])).toOption =
      (bestOf wanted vs).toOption.bind fun x => (better wanted x v).toOption := by
  rw [bestOf, List.foldlM_append, Except.toOption_bind]
  exact Option.bind_congr fun x _ => congrArg Except.toOption (bind_pure _)

theorem keeps_bestOf (hS : Value.ComparesBy key S) {vs : List Value} (hvs : ∀ v ∈ vs, v ∈ S)
    {x : Option Value} (h : (bestOf wanted vs).toOption = some x) : Keeps S x := by
  induction vs using List.reverseRecOn generalizing x with
  | nil =>
    obtain rfl : none = x := Option.some.inj h
    exact keeps_none
  | append_singleton vs v ih =>
    rw [toOption_bestOf_concat, Option.bind_eq_some_iff] at h
    obtain ⟨y, hy, hx⟩ := h
    have hkeeps := ih (fun u hu => hvs u (List.mem_append_left _ hu)) hy
    exact hkeeps.better hS (hvs v (List.mem_append_right _ List.mem_cons_self)) hx

/-- The best of a list is the better one of the best of two parts, or both ways fail. -/
theorem bestOf_append (hw : wanted ≠ .eq) (hS : Value.ComparesBy key S) {xs ys : List Value}
    (hxs : ∀ v ∈ xs, v ∈ S) (hys : ∀ v ∈ ys, v ∈ S) :
    ((bestOf wanted xs).toOption.bind fun x =>
      (bestOf wanted ys).toOption.bind fun y => (betterOf wanted x y).toOption) =
      (bestOf wanted (xs ++ ys)).toOption := by
  induction ys using List.reverseRecOn with
  | nil =>
    rw [List.append_nil]
    exact Option.bind_fun_some _
  | append_singleton ys v ih =>
    have hys' : ∀ u ∈ ys, u ∈ S := fun u hu => hys u (List.mem_append_left _ hu)
    have hv : v ∈ S := hys v (List.mem_append_right _ List.mem_cons_self)
    rw [← List.append_assoc, toOption_bestOf_concat, toOption_bestOf_concat, ← ih hys',
      Option.bind_assoc]
    refine Option.bind_congr fun x hx => ?_
    rw [Option.bind_assoc, Option.bind_assoc]
    exact Option.bind_congr fun y hy =>
      betterOf_better hw hS (keeps_bestOf hS hxs hx) (keeps_bestOf hS hys' hy) hv

theorem foldAll_ofBest (hf : f = .min ∨ f = .max) (x : Option Value) (vs : List Value) :
    foldAll (ofBest f x) vs = (vs.foldlM (better (wantedOf f)) x).map (ofBest f) := by
  induction vs generalizing x with
  | nil => rfl
  | cons v vs ih =>
    rw [foldAll, List.foldlM_cons, List.foldlM_cons, update_ofBest hf]
    cases better (wantedOf f) x v with
    | error e => rfl
    | ok z => exact ih z

theorem ofValues_best (hf : f = .min ∨ f = .max) (vs : List Value) :
    ofValues f vs = (bestOf (wantedOf f) vs).map (ofBest f) := by
  have hstart : start f 1 = ofBest f none := by
    rcases hf with rfl | rfl <;> rfl
  rw [ofValues, hstart, foldAll_ofBest hf, bestOf]

theorem toOption_ofParts_best (hf : f = .min ∨ f = .max) (xs ys : List Value) :
    (ofParts f xs ys).toOption =
      ((bestOf (wantedOf f) xs).toOption.bind fun x => (bestOf (wantedOf f) ys).toOption.bind
        fun y => (betterOf (wantedOf f) x y).toOption).map (ofBest f) := by
  simp only [ofParts, Except.toOption_bind, ofValues_best hf, Except.toOption_map, Option.bind_map,
    Function.comp_def, merge_ofBest hf, Option.map_bind]

/-- Where dates are in order, the minimum and the maximum of two parts are those of all values, or
both ways fail. -/
theorem ofParts_best (hf : f = .min ∨ f = .max) (xs ys : List Value)
    (h : Value.DatesInOrder {v | v ∈ xs ++ ys}) :
    ((ofParts f xs ys).map final).toOption = ((ofValues f (xs ++ ys)).map final).toOption := by
  obtain ⟨key, hkey⟩ := Value.exists_comparesBy h
  have happend := bestOf_append (wantedOf_ne_eq f) hkey
    (fun v hv => List.mem_append_left ys hv) (fun v hv => List.mem_append_right xs hv)
  rw [Except.toOption_map, Except.toOption_map, toOption_ofParts_best hf, happend,
    ofValues_best hf, Except.toOption_map]

/-- A change at noon between two days that are written with as many digits. -/
theorem ofParts_best_sameWidth :
    Value.DatesInOrder {v | v ∈ [.null, .time ⟨1704801600, 0⟩] ++
      [.string "2024-01-10", .null, .string "2024-01-09"]} ∧
    ((ofParts .min [.null, .time ⟨1704801600, 0⟩]
        [.string "2024-01-10", .null, .string "2024-01-09"]).map final).toOption =
      ((ofValues .min ([.null, .time ⟨1704801600, 0⟩] ++
        [.string "2024-01-10", .null, .string "2024-01-09"])).map final).toOption := by
  have hdates : Value.DatesInOrder {v | v ∈ [.null, .time ⟨1704801600, 0⟩] ++
      [.string "2024-01-10", .null, .string "2024-01-09"]} := by
    have hten : Instant.ofLiteral? "2024-01-10" = some ⟨1704844800, 0⟩ := by decide +kernel
    have hnine : Instant.ofLiteral? "2024-01-09" = some ⟨1704758400, 0⟩ := by decide +kernel
    intro t _ r s hr hs
    have hr' : r = "2024-01-10" ∨ r = "2024-01-09" := by simpa using hr
    have hs' : s = "2024-01-10" ∨ s = "2024-01-09" := by simpa using hs
    rcases hr' with rfl | rfl <;> rcases hs' with rfl | rfl
    · exact ⟨_, _, hten, hten, by decide +kernel⟩
    · exact ⟨_, _, hten, hnine, by decide +kernel⟩
    · exact ⟨_, _, hnine, hten, by decide +kernel⟩
    · exact ⟨_, _, hnine, hnine, by decide +kernel⟩
  exact ⟨hdates, ofParts_best (Or.inl rfl) _ _ hdates⟩

/-- With as few digits as possible, the tenth of a month sorts before the ninth. In a part of their
own the tenth is the better text and then later than noon of the ninth; in one go the midnight of
the ninth comes out. -/
theorem ofParts_min_fewDigits :
    ((ofParts .min [.time ⟨1704801600, 0⟩] [.string "2024-1-10", .string "2024-1-9"]).map
        final).toOption ≠
      ((ofValues .min ([.time ⟨1704801600, 0⟩] ++ [.string "2024-1-10", .string "2024-1-9"])).map
        final).toOption := by
  have hparts : ((ofParts .min [.time ⟨1704801600, 0⟩]
      [.string "2024-1-10", .string "2024-1-9"]).map final).toOption =
      some (.time ⟨1704801600, 0⟩) := by decide +kernel
  have hwhole : ((ofValues .min ([.time ⟨1704801600, 0⟩] ++
      [.string "2024-1-10", .string "2024-1-9"])).map final).toOption =
      some (.string "2024-1-9") := by decide +kernel
  rw [hparts, hwhole]
  exact fun h => (nomatch h)

end Accumulator

end FileQuery
