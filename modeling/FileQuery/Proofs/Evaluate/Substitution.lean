import FileQuery.Proofs.Query.Resolution
import FileQuery.Proofs.Run.Outcome

/-!
# Final values in place of aggregate calls

An expression whose outermost aggregate calls are handed their final values has the value that it
has with literals in place of these calls. The values are handed in by position: evaluation goes
through an expression in the order in which its calls are collected, and every part takes as many
of them as it has calls.

The value depends on the attributes that the expression reads and on no others.

## Main definitions

* `FileQuery.Expr.withTotals`: literals in place of the outermost aggregate calls.

## Main results

* `FileQuery.Expr.eval_congr`: rows that agree on the attributes read.
* `FileQuery.Expr.toOption_eval`: final values and literals.
* `FileQuery.Expr.eval_ne_aggregateInRow`: enough final values never run out.
-/

namespace FileQuery

namespace Expr

variable [PatternEngine] {row row' : Row} {e : Expr} {args : List Expr}

/-! ### Attributes that are read -/

theorem evalArgs_congr (h : ∀ e ∈ args, ∀ finals, e.eval row finals = e.eval row' finals)
    (finals : List Value) : evalArgs row finals args = evalArgs row' finals args := by
  induction args generalizing finals with
  | nil => rfl
  | cons e es ih =>
    obtain ⟨he, hes⟩ := List.forall_mem_cons.1 h
    rw [evalArgs, evalArgs, he, ih hes]

/-- Rows that agree on the attributes read give the same value. -/
theorem eval_congr (h : ∀ a ∈ e.columns, row a = row' a) (finals : List Value) :
    e.eval row finals = e.eval row' finals := by
  induction e using Expr.induct generalizing finals with
  | column a => exact congrArg Except.ok (h a List.mem_cons_self)
  | literal v => rfl
  | call f args ih =>
    cases f with
    | aggregate f => rfl
    | scalar f =>
      have hargs : ∀ e ∈ args, ∀ finals, e.eval row finals = e.eval row' finals :=
        fun e he => ih e he fun a ha => h a (mem_columnsList.2 ⟨e, he, ha⟩)
      rw [eval, eval, evalArgs_congr hargs]
  | binary op l r ihl ihr =>
    obtain ⟨hl, hr⟩ := List.forall_mem_append.1 h
    rw [eval, eval, ihl hl, ihr hr]
  | unary op e ih => rw [eval, eval, ih h]

/-! ### Literals in place of calls -/

mutual

/-- The expression with a literal in place of each outermost aggregate call. -/
def withTotals (total : AggregateCall → Value) : Expr → Expr
  | .column a => .column a
  | .literal v => .literal v
  | .call (.aggregate f) args => .literal (total ⟨f, args⟩)
  | .call (.scalar f) args => .call (.scalar f) (withTotalsList total args)
  | .binary op l r => .binary op (l.withTotals total) (r.withTotals total)
  | .unary op e => .unary op (e.withTotals total)

/-- The same of several expressions. -/
def withTotalsList (total : AggregateCall → Value) : List Expr → List Expr
  | [] => []
  | e :: es => e.withTotals total :: withTotalsList total es

end

variable (total : AggregateCall → Value)

theorem toOption_evalArgs
    (h : ∀ e ∈ args, ∀ rest, (e.eval row (e.aggregateCalls.map total ++ rest)).toOption =
      ((e.withTotals total).eval row []).toOption) (rest : List Value) :
    (evalArgs row ((aggregateCallsList args).map total ++ rest) args).toOption =
      (evalArgs row [] (withTotalsList total args)).toOption := by
  induction args with
  | nil => rfl
  | cons e es ih =>
    obtain ⟨he, hes⟩ := List.forall_mem_cons.1 h
    have hdrop : (e.aggregateCalls.map total ++ ((aggregateCallsList es).map total ++ rest)).drop
        e.callCount = (aggregateCallsList es).map total ++ rest :=
      List.drop_left' (List.length_map _)
    rw [aggregateCallsList, withTotalsList, evalArgs, evalArgs, List.map_append, List.append_assoc,
      hdrop, List.drop_nil]
    simp only [Except.toOption_bind, he, ih hes]

/-- Final values that are handed in by position count as literals in place of the calls. -/
theorem toOption_eval (row : Row) (e : Expr) (rest : List Value) :
    (e.eval row (e.aggregateCalls.map total ++ rest)).toOption =
      ((e.withTotals total).eval row []).toOption := by
  induction e using Expr.induct generalizing rest with
  | column a => rfl
  | literal v => rfl
  | call f args ih =>
    cases f with
    | aggregate f => rfl
    | scalar f =>
      rw [aggregateCalls, withTotals, eval, eval]
      simp only [Except.toOption_bind, Except.toOption_mapError, toOption_evalArgs total ih]
  | binary op l r ihl ihr =>
    have hdrop : (l.aggregateCalls.map total ++ (r.aggregateCalls.map total ++ rest)).drop
        l.callCount = r.aggregateCalls.map total ++ rest := List.drop_left' (List.length_map _)
    rw [aggregateCalls, withTotals, eval, eval, List.map_append, List.append_assoc, hdrop,
      List.drop_nil]
    simp only [Except.toOption_bind, Except.toOption_mapError, ihl, ihr]
  | unary op e ih =>
    rw [aggregateCalls, withTotals, eval, eval]
    simp only [Except.toOption_bind, Except.toOption_mapError, ih]

/-! ### Calls without a final value -/

variable {finals : List Value} {call : AggregateCall}

theorem evalArgs_ne_aggregateInRow
    (h : ∀ e ∈ args, ∀ finals, e.callCount ≤ finals.length →
      e.eval row finals ≠ .error (.aggregateInRow call))
    (hfinals : (aggregateCallsList args).length ≤ finals.length) :
    evalArgs row finals args ≠ .error (.aggregateInRow call) := by
  induction args generalizing finals with
  | nil => exact fun h => nomatch h
  | cons e es ih =>
    obtain ⟨he, hes⟩ := List.forall_mem_cons.1 h
    rw [aggregateCallsList, List.length_append] at hfinals
    rw [evalArgs]
    intro herror
    rcases Except.of_bind_eq_error herror with herror | ⟨v, -, herror⟩
    · exact he finals (Nat.le_of_add_right_le hfinals) herror
    · rcases Except.of_bind_eq_error herror with herror | ⟨vs, -, herror⟩
      · refine ih hes ?_ herror
        rw [List.length_drop, callCount]
        omega
      · cases herror

/-- With a final value for each outermost aggregate call none of them is left without one. -/
theorem eval_ne_aggregateInRow (hfinals : e.callCount ≤ finals.length) :
    e.eval row finals ≠ .error (.aggregateInRow call) := by
  induction e using Expr.induct generalizing finals with
  | column a => exact fun h => nomatch h
  | literal v => exact fun h => nomatch h
  | call f args ih =>
    cases f with
    | aggregate f =>
      cases finals with
      | nil => exact absurd hfinals (Nat.not_succ_le_zero 0)
      | cons v finals => exact fun h => nomatch h
    | scalar f =>
      rw [eval]
      intro herror
      rcases Except.of_bind_eq_error herror with herror | ⟨values, -, herror⟩
      · exact evalArgs_ne_aggregateInRow (fun e he finals => ih e he) hfinals herror
      · obtain ⟨cause, hcause⟩ := Except.of_mapError_eq_error herror
        cases hcause
  | binary op l r ihl ihr =>
    rw [callCount, aggregateCalls, List.length_append] at hfinals
    rw [eval]
    intro herror
    rcases Except.of_bind_eq_error herror with herror | ⟨x, -, herror⟩
    · exact ihl (Nat.le_of_add_right_le hfinals) herror
    · rcases Except.of_bind_eq_error herror with herror | ⟨y, -, herror⟩
      · refine ihr ?_ herror
        rw [List.length_drop, callCount, callCount]
        omega
      · obtain ⟨cause, hcause⟩ := Except.of_mapError_eq_error herror
        cases hcause
  | unary op e ih =>
    rw [eval]
    intro herror
    rcases Except.of_bind_eq_error herror with herror | ⟨x, -, herror⟩
    · exact ih hfinals herror
    · obtain ⟨cause, hcause⟩ := Except.of_mapError_eq_error herror
      cases hcause

/-- A predicate without aggregate calls is not left without a final value. -/
theorem holds_ne_aggregateInRow (h : e.callCount = 0) :
    e.holds row ≠ .error (.aggregateInRow call) := by
  rw [holds]
  intro herror
  rcases Except.of_bind_eq_error herror with herror | ⟨v, -, herror⟩
  · exact eval_ne_aggregateInRow (Nat.le_of_eq h) herror
  · cases v <;> cases herror

end Expr

end FileQuery
