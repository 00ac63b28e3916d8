import Mathlib.Algebra.Order.Field.Rat
import Mathlib.Data.Rat.Cast.Order
import Mathlib.Order.WithBot
import FileQuery.Proofs.Run.Outcome
import FileQuery.Proofs.Value.NumberOrder

/-!
# Sorting compares by a total preorder

The order of sorting compares values by the rank of their kind and, within a rank, by their
truth, their place among the numbers, their text or their instant. Each of these is the comparison
of a key in a linear order, so that all laws come from the lexicographic composition of keys.

On numbers the order is that of the exact values: integers are not rounded, zeros of either sign
are one value, and not-a-number lies above all others. Rows are compared by any list of order keys;
rows of one length are totally preordered too.

## Main definitions

* `FileQuery.Value.exactValue?`: the exact value of a number, a rational or an infinity.
* `FileQuery.IsTotalPreorder`: what sorting asks of a comparison.

## Main results

* `FileQuery.Value.sortCompare_eq_compareLex`: the order of sorting as a composition of keys.
* `FileQuery.Value.sortCompare_of_exact`: on numbers it is the order of exact values.
* `FileQuery.Value.sortCompare_totalPreorder`: values and rows are totally
  preordered.
-/

namespace FileQuery

/-! ### Total preorders -/

/-- What sorting asks of a comparison: it is antisymmetric in its arguments, reflexive and
transitive, and what compares as equal compares alike with everything. -/
structure IsTotalPreorder {α : Type} (cmp : α → α → Ordering) : Prop where
  swap : ∀ a b, cmp a b = (cmp b a).swap
  refl : ∀ a, cmp a a = .eq
  trans : ∀ a b c, cmp a b ≠ .gt → cmp b c ≠ .gt → cmp a c ≠ .gt
  congr : ∀ a b c, cmp a b = .eq → cmp a c = cmp b c

theorem IsTotalPreorder.of_transCmp {α : Type} (cmp : α → α → Ordering) [Std.TransCmp cmp] :
    IsTotalPreorder cmp where
  swap _ _ := Std.OrientedCmp.eq_swap
  refl _ := Std.ReflCmp.compare_self
  trans a b c hab hbc := by
    exact Ordering.isLE_iff_ne_gt.1 (Std.TransCmp.isLE_trans (Ordering.isLE_iff_ne_gt.2 hab)
      (Ordering.isLE_iff_ne_gt.2 hbc))
  congr _ _ _ h := Std.TransCmp.congr_left h

namespace Value

/-! ### Keys -/

/-- The truth value behind a boolean. -/
def truth : Value → Bool
  | .boolean b => b
  | _ => false

/-- The place of a number of either kind. -/
def place : Value → Int
  | .integer n => Binary64.positionOfInt n.toInt
  | .float x => x.position
  | _ => 0

/-- The text behind a string. -/
def textKey : Value → String
  | .string s => s
  | _ => ""

/-- The instant behind a time. -/
def instantKey : Value → Instant
  | .time t => t
  | _ => ⟨0, 0⟩

theorem compare_of_place {a b : Value} (ha : a.sortRank = 2) (hb : b.sortRank = 2) :
    compare a b = .ok (some (Ord.compare a.place b.place)) := by
  cases a <;> cases b <;> simp only [sortRank, reduceCtorEq, Nat.reduceEqDiff] at ha hb
  case integer.integer m n => rw [compare, place, place, Binary64.compare_int64_eq]
  case integer.float m y => rw [compare, place, place, Binary64.compareInt_eq]
  case float.integer x n =>
    rw [compare, place, place, Binary64.compareInt_eq, ← Std.OrientedOrd.eq_swap]
  case float.float x y => rw [compare, place, place, Binary64.compare_eq]

/-- Sorting compares keys one after the other. -/
theorem sortCompare_eq_compareLex :
    sortCompare = compareLex (compareOn sortRank) (compareLex (compareOn truth)
      (compareLex (compareOn place) (compareLex (compareOn textKey)
        (compareLex (compareOn fun v => v.instantKey.seconds)
          (compareOn fun v => v.instantKey.nanos))))) := by
  funext a b
  by_cases hrank : a.sortRank = b.sortRank
  · by_cases hnumber : b.sortRank = 2
    · rw [sortCompare, compare_of_place (hrank.trans hnumber) hnumber]
      cases a <;> cases b <;> simp_all [sortRank, truth, textKey, instantKey, compareLex, compareOn]
    · cases a <;> cases b <;> simp_all [sortRank, sortCompare, compare, truth, place, textKey,
        instantKey, compareLex, compareOn, Instant.compare]
  · have hne : Ord.compare a.sortRank b.sortRank ≠ .eq := fun h => hrank (Nat.compare_eq_eq.1 h)
    rw [sortCompare, compareLex, compareOn]
    cases h : Ord.compare a.sortRank b.sortRank
    · rfl
    · exact absurd h hne
    · rfl

instance : Std.TransCmp sortCompare := by
  rw [sortCompare_eq_compareLex]
  infer_instance

/-! ### Exact values -/

/-- A rational number among the infinities. -/
def exactly (r : ℚ) : WithBot (WithTop ℚ) := ((r : WithTop ℚ) : WithBot (WithTop ℚ))

theorem exactly_lt_exactly {r s : ℚ} : exactly r < exactly s ↔ r < s :=
  WithBot.coe_lt_coe.trans WithTop.coe_lt_coe

/-- The exact value of a number: a rational number or an infinity. Not-a-number has none. -/
def exactValue? : Value → Option (WithBot (WithTop ℚ))
  | .integer n => some (exactly n.toInt)
  | .float (.finite s u _) => some (exactly (Binary64.signedUnits s u / Binary64.unitsPerOne))
  | .float (.infinite false) => some (⊤ : WithTop ℚ)
  | .float (.infinite true) => some ⊥
  | _ => none

theorem exactValue?_integer (n : Int64) : (Value.integer n).exactValue? = some (exactly n.toInt) :=
  rfl

theorem exactValue?_finite (s : Bool) {u : Nat} (h : Binary64.Representable u) :
    (Value.float (.finite s u h)).exactValue? =
      some (exactly (Binary64.signedUnits s u / Binary64.unitsPerOne)) :=
  rfl

theorem sortRank_of_exact {a : Value} {x : WithBot (WithTop ℚ)} (h : a.exactValue? = some x) :
    a.sortRank = 2 := by
  cases a with
  | integer n => rfl
  | float y => rfl
  | _ => cases h

/-- Exact values and places: the infinities lie beyond the format, all else within it. -/
theorem place_of_exact {a : Value} {x : WithBot (WithTop ℚ)} (h : a.exactValue? = some x) :
    (a.place = -(2 * Binary64.overflow) ∧ x = ⊥) ∨
    (a.place = 2 * Binary64.overflow ∧ x = (⊤ : WithTop ℚ)) ∨
    (a.place.natAbs < Binary64.overflow ∧
      x = exactly (a.place / Binary64.unitsPerOne)) := by
  have hunits : (Binary64.unitsPerOne : ℚ) ≠ 0 := by
    exact_mod_cast Nat.pos_iff_ne_zero.1 Binary64.unitsPerOne_pos
  cases a with
  | integer n =>
    obtain rfl := Option.some.inj h
    refine Or.inr (Or.inr ⟨Binary64.natAbs_positionOfInt_lt n, ?_⟩)
    rw [place, Binary64.positionOfInt, Int.cast_mul, Int.cast_natCast,
      mul_div_cancel_right₀ _ hunits]
  | float y =>
    cases y with
    | nan => cases h
    | infinite s =>
      cases s
      · exact Or.inr (Or.inl ⟨rfl, (Option.some.inj h).symm⟩)
      · exact Or.inl ⟨rfl, (Option.some.inj h).symm⟩
    | finite s u hu =>
      obtain rfl := Option.some.inj h
      refine Or.inr (Or.inr ⟨?_, ?_⟩)
      · rw [place, Binary64.position_finite, Binary64.natAbs_signedUnits]
        exact hu.2
      · rw [place, Binary64.position_finite]
  | _ => cases h

theorem exact_lt_of_place_lt {a b : Value} {x y : WithBot (WithTop ℚ)} (ha : a.exactValue? = some x)
    (hb : b.exactValue? = some y) (h : a.place < b.place) : x < y := by
  have hunits : (0 : ℚ) < Binary64.unitsPerOne := by exact_mod_cast Binary64.unitsPerOne_pos
  rcases place_of_exact ha with ⟨hp, rfl⟩ | ⟨hp, rfl⟩ | ⟨hp, rfl⟩ <;>
    rcases place_of_exact hb with ⟨hq, rfl⟩ | ⟨hq, rfl⟩ | ⟨hq, rfl⟩
  · omega
  · exact WithBot.bot_lt_coe _
  · exact WithBot.bot_lt_coe _
  · omega
  · omega
  · omega
  · omega
  · exact WithBot.coe_lt_coe.2 (WithTop.coe_lt_top _)
  · exact exactly_lt_exactly.2 ((div_lt_div_iff_of_pos_right hunits).2 (Int.cast_lt.2 h))

theorem exact_eq_of_place_eq {a b : Value} {x y : WithBot (WithTop ℚ)} (ha : a.exactValue? = some x)
    (hb : b.exactValue? = some y) (h : a.place = b.place) : x = y := by
  have ho := Binary64.overflow_pos
  rcases place_of_exact ha with ⟨hp, rfl⟩ | ⟨hp, rfl⟩ | ⟨hp, rfl⟩ <;>
    rcases place_of_exact hb with ⟨hq, rfl⟩ | ⟨hq, rfl⟩ | ⟨hq, rfl⟩
  · rfl
  · omega
  · omega
  · omega
  · rfl
  · omega
  · omega
  · omega
  · rw [h]

/-- On numbers sorting follows the exact values. -/
theorem sortCompare_of_exact {a b : Value} {x y : WithBot (WithTop ℚ)} (ha : a.exactValue? = some x)
    (hb : b.exactValue? = some y) : a.sortCompare b = Ord.compare x y := by
  have hra := sortRank_of_exact ha
  have hrb := sortRank_of_exact hb
  have hplace : a.sortCompare b = Ord.compare a.place b.place := by
    rw [sortCompare, hra, hrb, compare_of_place hra hrb, Nat.compare_eq_eq.2 rfl, Ordering.eq_then]
  rw [hplace]
  rcases lt_trichotomy a.place b.place with h | h | h
  · rw [compare_lt_iff_lt.2 h, compare_lt_iff_lt.2 (exact_lt_of_place_lt ha hb h)]
  · rw [compare_eq_iff_eq.2 h, compare_eq_iff_eq.2 (exact_eq_of_place_eq ha hb h)]
  · rw [compare_gt_iff_gt.2 h, compare_gt_iff_gt.2 (exact_lt_of_place_lt hb ha h)]

/-- Not-a-number sorts above every number that has a value. -/
theorem sortCompare_nan {a : Value} {x : WithBot (WithTop ℚ)} (ha : a.exactValue? = some x) :
    a.sortCompare (.float .nan) = .lt := by
  have hra := sortRank_of_exact ha
  have hlt : a.place < (Value.float .nan).place := by
    have ho := Binary64.overflow_pos
    have hnan : (Value.float .nan).place = 4 * Binary64.overflow := rfl
    rcases place_of_exact ha with ⟨hp, -⟩ | ⟨hp, -⟩ | ⟨hp, -⟩ <;> omega
  rw [sortCompare, hra, compare_of_place hra rfl, sortRank, Nat.compare_eq_eq.2 rfl,
    Ordering.eq_then]
  exact compare_lt_iff_lt.2 hlt

end Value

/-! ### Rows -/

namespace OrderKey

/-- The rows of a table with `n` columns. -/
abbrev RowOf (n : Nat) := {row : List Value // row.length = n}

instance (k : OrderKey) : Std.TransCmp k.compare := by
  obtain ⟨column, _ | _⟩ := k
  · exact inferInstanceAs (Std.TransCmp Value.sortCompare)
  · have h : compare ⟨column, .descending⟩ = fun a b => Value.sortCompare b a := by
      funext a b
      exact Std.OrientedCmp.eq_swap.symm
    rw [h]
    infer_instance

/-- One key compares the rows of a table: by its column, or not at all if there is none. -/
theorem transCmp_column (k : OrderKey) (n : Nat) :
    Std.TransCmp fun a b : RowOf n => compareRows a.1 b.1 [k] := by
  by_cases hk : k.column - 1 < n
  · have h : (fun a b : RowOf n => compareRows a.1 b.1 [k]) = fun a b =>
        k.compare (a.1.getD (k.column - 1) .null) (b.1.getD (k.column - 1) .null) := by
      funext ⟨a, ha⟩ ⟨b, hb⟩
      have hka : k.column - 1 < a.length := ha ▸ hk
      have hkb : k.column - 1 < b.length := hb ▸ hk
      simp [compareRows, List.getD, hka, hkb]
    rw [h]
    exact { eq_swap := Std.OrientedCmp.eq_swap, isLE_trans := Std.TransCmp.isLE_trans }
  · have h : (fun a b : RowOf n => compareRows a.1 b.1 [k]) = fun _ _ => .eq := by
      funext ⟨a, ha⟩ ⟨b, hb⟩
      have hka : a[k.column - 1]? = none := List.getElem?_eq_none (by omega)
      simp [compareRows, hka]
    rw [h]
    exact { eq_swap := rfl, isLE_trans := fun _ _ => rfl }

/-- Any list of keys compares the rows of a table by a total preorder. -/
theorem transCmp_compareRows (keys : List OrderKey) (n : Nat) :
    Std.TransCmp fun a b : RowOf n => compareRows a.1 b.1 keys := by
  induction keys with
  | nil => exact { eq_swap := rfl, isLE_trans := fun _ _ => rfl }
  | cons k ks ih =>
    have hk := transCmp_column k n
    have h : (fun a b : RowOf n => compareRows a.1 b.1 (k :: ks)) =
        compareLex (fun a b => compareRows a.1 b.1 [k]) fun a b => compareRows a.1 b.1 ks := by
      funext a b
      simp [compareRows, compareLex]
    rw [h]
    infer_instance

end OrderKey

/-- Sorting compares values by a total preorder, which on numbers is the order of their exact
values with not-a-number on top, and it compares the rows of a table by one for any list of keys;
the rows that a query selects are those of a table. -/
theorem Value.sortCompare_totalPreorder [PatternEngine] :
    IsTotalPreorder Value.sortCompare ∧
    (∀ (a b : Value) (x y : WithBot (WithTop ℚ)), a.exactValue? = some x → b.exactValue? = some y →
      a.sortCompare b = Ord.compare x y) ∧
    (∀ (a : Value) (x : WithBot (WithTop ℚ)), a.exactValue? = some x →
      a.sortCompare (.float .nan) = .lt ∧ (Value.float .nan).sortCompare a = .gt) ∧
    (Value.float .nan).sortCompare (.float .nan) = .eq ∧
    (∀ (keys : List OrderKey) (n : Nat),
      IsTotalPreorder fun a b : OrderKey.RowOf n => OrderKey.compareRows a.1 b.1 keys) ∧
    ∀ (q : Query) (strict : Bool) (t : Tree) (e : Entry) (row : List Value),
      (q.select strict t e).outcome = .ok (some row) → row.length = q.projections.length := by
  refine ⟨.of_transCmp _, fun a b x y => sortCompare_of_exact, fun a x ha => ?_, ?_, ?_, ?_⟩
  · have hlt := sortCompare_nan ha
    exact ⟨hlt, Std.OrientedCmp.gt_of_lt hlt⟩
  · exact Std.ReflCmp.compare_self
  · intro keys n
    have := OrderKey.transCmp_compareRows keys n
    exact .of_transCmp _
  · intro q strict t e row h
    exact Query.length_of_select h

/-- `2 ^ 53` as a float: the integer above it is not one. -/
def Binary64.twoPow53 : Binary64 :=
  .finite false (2 ^ 53 * unitsPerOne) (representable_two_pow (by decide))

/-- The query `select 1 from .`. -/
def Query.selectOne : Query := ⟨[⟨.literal (.integer 1), none⟩], ".", none, [], none⟩

/-- The integer after `2 ^ 53` is above it, not-a-number is above both, and a query with one
projection selects a row of one value. -/
theorem Value.sortCompare_beyond_float :
    (Value.integer 9007199254740993).exactValue? = some (exactly 9007199254740993) ∧
    (Value.float .twoPow53).exactValue? = some (exactly 9007199254740992) ∧
    (Value.integer 9007199254740993).sortCompare (.float .twoPow53) = .gt ∧
    (Value.float .nan).sortCompare (.integer 9007199254740993) = .gt ∧
    (Query.selectOne.select false ⟨⟨[]⟩, []⟩ ⟨⟨[]⟩, 1, none⟩).outcome =
      .ok (some [.integer 1]) ∧
    [Value.integer 1].length = Query.selectOne.projections.length := by
  have hm : (Value.integer 9007199254740993).exactValue? =
      some (exactly 9007199254740993) := by
    have hn : (9007199254740993 : Int64).toInt = 9007199254740993 := by decide
    rw [exactValue?_integer, hn, Int.cast_ofNat]
  have hx : (Value.float .twoPow53).exactValue? = some (exactly 9007199254740992) := by
    have hunits : (Binary64.unitsPerOne : ℚ) ≠ 0 := by
      exact_mod_cast Nat.pos_iff_ne_zero.1 Binary64.unitsPerOne_pos
    have hsigned : Binary64.signedUnits false (2 ^ 53 * Binary64.unitsPerOne) =
      9007199254740992 * Binary64.unitsPerOne := Int.natCast_mul _ _
    have hu : (Binary64.signedUnits false (2 ^ 53 * Binary64.unitsPerOne) : ℚ) /
        Binary64.unitsPerOne = 9007199254740992 := by
      rw [div_eq_iff hunits, hsigned, Int.cast_mul, Int.cast_ofNat, Int.cast_natCast]
    rw [Binary64.twoPow53, exactValue?_finite, hu]
  have hrow : (Query.selectOne.select false ⟨⟨[]⟩, []⟩ ⟨⟨[]⟩, 1, none⟩).outcome =
      .ok (some [.integer 1]) := rfl
  have h := sortCompare_totalPreorder
  refine ⟨hm, hx, (h.2.1 _ _ _ _ hm hx).trans ?_, (h.2.2.1 _ _ hm).2, hrow,
    h.2.2.2.2.2 _ _ _ _ _ hrow⟩
  rw [compare_gt_iff_gt]
  exact exactly_lt_exactly.2 (by norm_num)

end FileQuery
