import FileQuery.Evaluate.Operator
import FileQuery.Proofs.Value.SortOrder

/-!
# The comparison operators agree with each other

The pairs of kinds that can be compared are handled one by one, an integer before a float apart
from a float before an integer and a time before a text apart from a text before a time, and
equality is decided apart from the order. Nevertheless two values other than null are compared in
both directions or in neither, and the two orderings are each other's reverse. Every operator asks
that one ordering, so that no two of them contradict each other, not-a-number included.

Null has no place in the order. It equals null and nothing else.

## Main definitions

* `FileQuery.Relation.IsOrdering`: the relations that ask for an order.
* `FileQuery.Relation.Consistent`: answers of the operators that come from one ordering.

## Main results

* `FileQuery.Value.compare_cases`: comparing in the other direction.
* `FileQuery.Relation.apply_of_compare`, `FileQuery.Relation.apply_of_error`: every operator asks
  the same comparison.
* `FileQuery.Relation.apply_consistent`: the six operators on any two values.
-/

namespace FileQuery

namespace Value

variable {a b : Value}

/-- Within a rank values compare as they sort. -/
theorem compare_of_sortRank_eq (ha : a ≠ .null) (h : a.sortRank = b.sortRank) :
    compare a b = .ok (some (a.sortCompare b)) := by
  rw [sortCompare, h, Nat.compare_eq_eq.2 rfl, Ordering.eq_then]
  cases a <;> cases b <;> first | rfl | contradiction | simp [sortRank] at h

/-- A time is compared with the instant that a text stands for, in both directions. A text that
stands for none is not compared with times. -/
theorem compare_time_string (t : Instant) (s : String) :
    (∃ e, compare (.time t) (.string s) = .error e ∧ compare (.string s) (.time t) = .error e) ∨
    ∃ u, compare (.time t) (.string s) = .ok (some ((time t).sortCompare (.time u))) ∧
      compare (.string s) (.time t) = .ok (some ((time u).sortCompare (.time t))) := by
  simp only [compare, instantOf]
  cases Instant.ofLiteral? s with
  | none => exact Or.inl ⟨_, rfl, rfl⟩
  | some u => exact Or.inr ⟨u, rfl, rfl⟩

/-- Two values other than null are compared in both directions, with opposite orderings, or in
neither. -/
theorem compare_cases (ha : a ≠ .null) (hb : b ≠ .null) :
    (∃ e e', compare a b = .error e ∧ compare b a = .error e') ∨
    ∃ o, compare a b = .ok (some o) ∧ compare b a = .ok (some o.swap) := by
  by_cases hrank : a.sortRank = b.sortRank
  · refine Or.inr ⟨a.sortCompare b, compare_of_sortRank_eq ha hrank, ?_⟩
    rw [compare_of_sortRank_eq hb hrank.symm, ← Std.OrientedCmp.eq_swap]
  · -- Of values of different ranks only times and texts are compared.
    have hmixed (t : Instant) (s : String) :
        (∃ e e', compare (.time t) (.string s) = .error e ∧
          compare (.string s) (.time t) = .error e') ∨
        ∃ o, compare (.time t) (.string s) = .ok (some o) ∧
          compare (.string s) (.time t) = .ok (some o.swap) := by
      rcases compare_time_string t s with ⟨e, h, h'⟩ | ⟨u, h, h'⟩
      · exact Or.inl ⟨e, e, h, h'⟩
      · exact Or.inr ⟨_, h, by rw [h', ← Std.OrientedCmp.eq_swap]⟩
    cases a <;> cases b
    case time.string t s => exact hmixed t s
    case string.time s t =>
      rcases hmixed t s with ⟨e, e', h, h'⟩ | ⟨o, h, h'⟩
      · exact Or.inl ⟨e', e, h', h⟩
      · exact Or.inr ⟨o.swap, h', by rw [Ordering.swap_swap, h]⟩
    all_goals first
      | contradiction
      | exact absurd rfl hrank
      | exact Or.inl ⟨_, _, rfl, rfl⟩

/-- Apart from null, equality asks the comparison of the other operators. -/
theorem equals_eq (ha : a ≠ .null) (hb : b ≠ .null) :
    equals a b = (compare a b).map (· == some .eq) := by
  cases a <;> cases b <;> first | contradiction | rfl

end Value

namespace Relation

variable {r : Relation} {a b : Value}

/-- The relations that ask for an order, in which null has no place. -/
def IsOrdering (r : Relation) : Prop := r ≠ .equal ∧ r ≠ .notEqual

instance (r : Relation) : Decidable r.IsOrdering := inferInstanceAs (Decidable (_ ∧ _))

/-- What a relation that asks for an order makes of a comparison. -/
theorem apply_of_isOrdering (hr : r.IsOrdering) : r.apply a b =
    ((a.compare b).mapError .comparison).map fun o =>
      (o.map fun o => Value.boolean (r.holds o)).getD .null := by
  cases r with
  | equal => exact absurd rfl hr.1
  | notEqual => exact absurd rfl hr.2
  | _ => rfl

/-- Where two values have an ordering, every operator asks it. -/
theorem apply_of_compare (ha : a ≠ .null) (hb : b ≠ .null) {o : Ordering}
    (h : a.compare b = .ok (some o)) : r.apply a b = .ok (.boolean (r.holds o)) := by
  cases r with
  | equal =>
    rw [apply, Value.equals_eq ha hb, h]
    cases o <;> rfl
  | notEqual =>
    rw [apply, Value.equals_eq ha hb, h]
    cases o <;> rfl
  | _ =>
    rw [apply_of_isOrdering (by decide), h]
    rfl

/-- Where two values cannot be compared, no operator answers. -/
theorem apply_of_error (ha : a ≠ .null) (hb : b ≠ .null) {e : CompareError}
    (h : a.compare b = .error e) : r.apply a b = .error (.comparison e) := by
  cases r with
  | equal =>
    rw [apply, Value.equals_eq ha hb, h]
    rfl
  | notEqual =>
    rw [apply, Value.equals_eq ha hb, h]
    rfl
  | _ =>
    rw [apply_of_isOrdering (by decide), h]
    rfl

/-- The order knows nothing about null. -/
theorem apply_null (hr : r.IsOrdering) (h : a = .null ∨ b = .null) : r.apply a b = .ok .null := by
  have hcompare : a.compare b = .ok none := by
    rcases h with rfl | rfl
    · exact Value.compare_null_left b
    · exact Value.compare_null_right a
  rw [apply_of_isOrdering hr, hcompare]
  rfl

/-- Null equals null and nothing else. -/
theorem equals_null (h : a = .null ∨ b = .null) :
    a.equals b = .ok (decide (a = .null ∧ b = .null)) := by
  rcases h with rfl | rfl
  · cases b <;> rfl
  · cases a <;> rfl

/-- Answers `x` of the operators on two values and `y` on the same values the other way round that
come from one ordering: the first value is less, equal or greater, and never two of these. -/
structure Consistent (x y : Relation → Bool) : Prop where
  trichotomy : [x .less, x .equal, x .greater].count true = 1
  lessEqual : x .lessEqual = !x .greater
  greaterEqual : x .greaterEqual = !x .less
  notEqual : x .notEqual = !x .equal
  less_swap : x .less = y .greater
  greater_swap : x .greater = y .less
  equal_swap : x .equal = y .equal

theorem consistent_holds (o : Ordering) :
    Consistent (fun r => r.holds o) fun r => r.holds o.swap := by
  cases o <;> exact ⟨rfl, rfl, rfl, rfl, rfl, rfl, rfl⟩

/-- The operators are consistent. On two values other than null none of them answers, whichever
value comes first, or all of them answer as one ordering says and its reverse the other way round.
With null the order has no answer, and equality holds between null and null only. -/
theorem apply_consistent (a b : Value) :
    (a ≠ .null → b ≠ .null →
      (∀ r : Relation, (∃ e, r.apply a b = .error e) ∧ ∃ e, r.apply b a = .error e) ∨
      ∃ x y : Relation → Bool,
        (∀ r : Relation, r.apply a b = .ok (.boolean (x r)) ∧
          r.apply b a = .ok (.boolean (y r))) ∧
        Consistent x y ∧ Consistent y x) ∧
    (a = .null ∨ b = .null →
      (∀ r : Relation, r.IsOrdering → r.apply a b = .ok .null) ∧
      Relation.equal.apply a b = .ok (.boolean (decide (a = .null ∧ b = .null))) ∧
      Relation.notEqual.apply a b = .ok (.boolean !decide (a = .null ∧ b = .null))) := by
  refine ⟨fun ha hb => ?_, fun h => ⟨fun r hr => apply_null hr h, ?_, ?_⟩⟩
  · rcases Value.compare_cases ha hb with ⟨e, e', h, h'⟩ | ⟨o, h, h'⟩
    · exact Or.inl fun r => ⟨⟨_, apply_of_error ha hb h⟩, _, apply_of_error hb ha h'⟩
    · refine Or.inr ⟨fun r => r.holds o, fun r => r.holds o.swap,
        fun r => ⟨apply_of_compare ha hb h, apply_of_compare hb ha h'⟩, consistent_holds o, ?_⟩
      have hswap := consistent_holds o.swap
      rwa [Ordering.swap_swap] at hswap
  · rw [apply, equals_null h]
    rfl
  · rw [apply, equals_null h]
    rfl

/-- Not-a-number is above the integer after `2 ^ 53`, which is below it the other way round; a truth
value is not compared with it; and null is not below it. -/
theorem apply_consistent_nan :
    (∃ x y : Relation → Bool,
      (∀ r : Relation, r.apply (.float .nan) (.integer 9007199254740993) = .ok (.boolean (x r)) ∧
        r.apply (.integer 9007199254740993) (.float .nan) = .ok (.boolean (y r))) ∧
      Consistent x y ∧ Consistent y x ∧ x .greater = true) ∧
    (∀ r : Relation, (∃ e, r.apply (.boolean true) (.float .nan) = .error e) ∧
      ∃ e, r.apply (.float .nan) (.boolean true) = .error e) ∧
    ∀ r : Relation, r.IsOrdering → r.apply .null (.float .nan) = .ok .null := by
  refine ⟨?_, ?_, ((apply_consistent .null (.float .nan)).2 (Or.inl rfl)).1⟩
  · have hgreater : Relation.greater.apply (.float .nan) (.integer 9007199254740993) =
        .ok (.boolean true) := rfl
    rcases (apply_consistent (.float .nan) (.integer 9007199254740993)).1 (by simp) (by simp) with
      h | ⟨x, y, h, hxy, hyx⟩
    · obtain ⟨e, he⟩ := (h .greater).1
      cases hgreater.symm.trans he
    · have hx := (h .greater).1
      rw [hgreater] at hx
      exact ⟨x, y, h, hxy, hyx, (Value.boolean.inj (Except.ok.inj hx)).symm⟩
  · refine ((apply_consistent (.boolean true) (.float .nan)).1 (by simp) (by simp)).resolve_right ?_
    rintro ⟨x, y, h, -, -⟩
    cases (h .less).1

end Relation

end FileQuery
