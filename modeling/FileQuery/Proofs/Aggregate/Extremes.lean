import FileQuery.Proofs.Aggregate.Splitting
import FileQuery.Proofs.Run.StableSort

/-!
# Minima and maxima as first values in an order

Of values that tie a minimum keeps the first, and a stable sort puts it in front. So where the
values other than null have one rank, the minimum is the first of them in ascending order and the
maximum the first of them in descending order, also if some of the numbers that tie are integers and
others are floats. Null is no candidate. It sorts below all else, so that it stands last in
descending order and the first value of all is the maximum.

## Main definitions

* `FileQuery.Accumulator.keyOf`: the order in which the best value comes first.

## Main results

* `FileQuery.head?_sortBy_cons`: the first item of a stable sort, one item at a time.
* `FileQuery.Accumulator.toOption_bestOf`: the best of a list is the first of its sorted values.
-/

namespace FileQuery

/-! ### First items -/

section FirstItem

variable {α : Type} {cmp : α → α → Ordering} [Std.TransCmp cmp]

/-- An item in front of a list comes first in its order unless the first item of the others is
strictly below it. -/
theorem head?_sortBy_cons (a : α) (l : List α) : (sortBy cmp (a :: l)).head? =
    some (((sortBy cmp l).head?.filter fun b => cmp b a = .lt).getD a) := by
  rw [sortBy_cons]
  cases sortBy cmp l with
  | nil => rfl
  | cons b rest =>
    have hswap : cmp b a = (cmp a b).swap := Std.OrientedCmp.eq_swap
    rw [insertBy, List.head?_cons, Option.filter, hswap]
    cases cmp a b <;> rfl

theorem find?_sortBy (p : α → Bool) (l : List α) :
    (sortBy cmp l).find? p = (sortBy cmp (l.filter p)).head? := by
  rw [sortBy_filter, List.head?_filter]

end FirstItem

namespace Accumulator

variable {f : AggregateFunction} {vs : List Value}

/-- The order in which the best value comes first: ascending for a minimum, descending for a
maximum. -/
def keyOf : AggregateFunction → OrderKey
  | .min => ⟨1, .ascending⟩
  | _ => ⟨1, .descending⟩

theorem compare_keyOf {a b : Value} :
    (keyOf f).compare a b = .lt ↔ a.sortCompare b = wantedOf f := by
  cases f with
  | min => exact Iff.rfl
  | _ => exact Ordering.swap_eq_lt

/-- The values of a list other than null have one rank. -/
def OneRank (vs : List Value) : Prop :=
  ∀ v ∈ vs, ∀ w ∈ vs, v ≠ .null → w ≠ .null → v.sortRank = w.sortRank

instance (vs : List Value) : Decidable (OneRank vs) :=
  inferInstanceAs (Decidable (∀ v ∈ vs, ∀ w ∈ vs, v ≠ .null → w ≠ .null → v.sortRank = w.sortRank))

theorem OneRank.comparesBy (h : OneRank vs) : Value.ComparesBy id {v | v ∈ vs} :=
  comparesBy_self fun t s ht hs => by
    cases h _ ht _ hs (fun hnull => by cases hnull) (fun hnull => by cases hnull)

theorem OneRank.of_cons {v : Value} (h : OneRank (v :: vs)) : OneRank vs :=
  fun a ha b hb => h a (List.mem_cons_of_mem v ha) b (List.mem_cons_of_mem v hb)

theorem OneRank.of_null (h : ∀ v ∈ vs, v = .null) : OneRank vs :=
  fun v hv _ _ hnull => absurd (h v hv) hnull

/-- The better of two values of one rank: the second one only if it comes before the first. -/
theorem toOption_better {a b : Value} (ha : a ≠ .null) (hb : b ≠ .null)
    (hrank : a.sortRank = b.sortRank) : (better (wantedOf f) (some a) b).toOption =
      some (some (if (keyOf f).compare b a = .lt then b else a)) := by
  have hpair : OneRank [a, b] := by
    simp [OneRank, hrank]
  rw [better_some hpair.comparesBy (by simp) (by simp) ha hb, Value.pick?, id_eq, id_eq,
    if_pos hrank]
  simp only [compare_keyOf, Option.map_some]

/-- The best of a list is the first of its sorted values other than null. -/
theorem toOption_bestOf (h : OneRank vs) : (bestOf (wantedOf f) vs).toOption =
    some ((sortBy (keyOf f).compare vs).find? fun v => !v.isNull) := by
  induction vs with
  | nil =>
    rw [sortBy, List.mergeSort_nil]
    rfl
  | cons v vs ih =>
    have ih := ih h.of_cons
    rw [find?_sortBy] at ih ⊢
    by_cases hnull : v = .null
    · subst hnull
      exact ih
    · have hfilter : (v :: vs).filter (fun v => !v.isNull) =
          v :: vs.filter fun v => !v.isNull := by
        refine List.filter_cons_of_pos ?_
        cases v <;> first | contradiction | rfl
      have hhead : bestOf (wantedOf f) [v] = .ok (some v) :=
        (bind_pure _).trans (better_none hnull)
      have hfront : ∀ w ∈ [v], w ∈ {w | w ∈ v :: vs} := by simp
      have happend := bestOf_append (wantedOf_ne_eq f) h.comparesBy hfront
        fun w (hw : w ∈ vs) => List.mem_cons_of_mem v hw
      rw [hhead, ih, List.singleton_append] at happend
      rw [← happend, hfilter, head?_sortBy_cons]
      cases hfirst : (sortBy (keyOf f).compare (vs.filter fun v => !v.isNull)).head? with
      | none => rfl
      | some w =>
        have hw : w ∈ vs.filter fun v => !v.isNull :=
          List.mem_mergeSort.1 (List.mem_of_head? hfirst)
        obtain ⟨hw, hwnull⟩ := List.mem_filter.1 hw
        have hwnull : w ≠ .null := by rintro rfl; cases hwnull
        have hrank := h v List.mem_cons_self w (List.mem_cons_of_mem v hw) hnull hwnull
        simp only [Except.toOption_ok, Option.bind_some, betterOf,
          toOption_better hnull hwnull hrank]
        by_cases hlt : (keyOf f).compare w v = .lt <;> simp [Option.filter, hlt]

theorem find?_sortBy_of_null {k : OrderKey} (h : ∀ v ∈ vs, v = .null) :
    (sortBy k.compare vs).find? (fun v => !v.isNull) = none := by
  refine List.find?_eq_none.2 fun v hv => ?_
  rw [h v (List.mem_mergeSort.1 hv)]
  decide

/-- Null stands last in descending order, so that the first value of all is the first other than
null, if there is one. -/
theorem head?_eq_find? {ws : List Value}
    (h : ws.Pairwise fun a b => ((keyOf .max).compare a b).isLE) :
    ws.head?.getD .null = (ws.find? fun v => !v.isNull).getD .null := by
  cases ws with
  | nil => rfl
  | cons v ws =>
    cases v with
    | null =>
      have hnull : ∀ w ∈ ws, w = .null := by
        intro w hw
        have hle := List.rel_of_pairwise_cons h hw
        cases w <;> first | rfl | cases hle
      have hnone : (Value.null :: ws).find? (fun v => !v.isNull) = none := by
        refine List.find?_eq_none.2 (List.forall_mem_cons.2 ⟨by decide, fun w hw => ?_⟩)
        rw [hnull w hw]
        decide
      rw [hnone]
      rfl
    | _ => rfl

/-- The minimum of values of one rank is the first of them in ascending order, the maximum the first
in descending order. -/
theorem final_ofValues_best (hf : f = .min ∨ f = .max) (h : OneRank vs) :
    ((ofValues f vs).map final).toOption =
      some (((sortBy (keyOf f).compare vs).find? fun v => !v.isNull).getD .null) := by
  rw [ofValues_best hf, Except.toOption_map, Except.toOption_map, toOption_bestOf h]
  rcases hf with rfl | rfl <;> rfl

end Accumulator

end FileQuery
