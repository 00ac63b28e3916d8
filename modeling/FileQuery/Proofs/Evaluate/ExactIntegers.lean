import Mathlib.Algebra.Order.Field.Rat
import Mathlib.Data.Rat.Cast.Order
import Mathlib.Tactic.NormNum
import FileQuery.Proofs.Query.RoundTrip
import FileQuery.Proofs.Run.Outcome

/-!
# Integer arithmetic is exact

An expression made of integers, the four arithmetic operators and minus signs has an exact value, a
rational number, unless it divides by zero. Evaluating it goes over to floating point where a result
is no integer of 64 bits, and what is in floating point stays there. So an integer that comes out is
the exact value, and it comes out as soon as no result on the way has to leave the integers.

## Main definitions

* `FileQuery.Arithmetic.exactly?`, `FileQuery.Expr.exactValue?`: exact results and values.
* `FileQuery.Expr.IsIntegral`: expressions made of integers.
* `FileQuery.Expr.StaysIntegral`: every exact value inside an expression is an integer of 64 bits.

## Main results

* `FileQuery.Arithmetic.apply_integers`, `FileQuery.Arithmetic.apply_integers_beyond`: operators on
  integers.
* `FileQuery.Expr.IsIntegral.eval_cases`: what evaluating can lead to.
* `FileQuery.Expr.eval_integral`: integers come out exactly where all exact values are integers.
-/

namespace FileQuery

/-! ### Operators -/

theorem Int64.ofInt?_toInt (n : Int64) : Int64.ofInt? n.toInt = some n := by
  rw [ofInt?, if_pos ⟨n.le_toInt, n.toInt_lt⟩, Int64.ofInt_toInt]

theorem Int64.ofInt?_eq_some {z : Int} {n : Int64} : ofInt? z = some n ↔ n.toInt = z := by
  constructor
  · exact toInt_of_ofInt?
  · rintro rfl
    exact ofInt?_toInt n

/-- An integer has 64 bits if it is that of such a number. -/
theorem Int64.ofInt?_eq_none {z : Int} : ofInt? z = none ↔ ∀ n : Int64, n.toInt ≠ z := by
  rw [Option.eq_none_iff_forall_ne_some]
  exact forall_congr' fun n => not_congr ofInt?_eq_some

namespace Value

/-- Integers and floats are numbers. -/
inductive IsNumber : Value → Prop
  | integer (n : Int64) : IsNumber (.integer n)
  | float (x : Binary64) : IsNumber (.float x)

/-- A number is zero in floating point. -/
def IsZero (v : Value) : Prop := ∃ x, v.toFloat? = some x ∧ x.isZero = true

theorem isZero_zero : (Value.integer 0).IsZero := by
  refine ⟨_, rfl, ?_⟩
  have h : Binary64.ofInt 0 = .zero false := by
    rw [Binary64.ofInt, Binary64.ofRatio, Int.natAbs_zero, Nat.zero_mul]
    exact Binary64.round_representable false Binary64.representable_zero
  exact congrArg Binary64.isZero h

end Value

namespace Arithmetic

variable {a : Arithmetic} {m k n : Int64}

/-- The exact result on rational numbers; there is none of a division by zero. -/
def exactly? : Arithmetic → ℚ → ℚ → Option ℚ
  | .add, x, y => some (x + y)
  | .subtract, x, y => some (x - y)
  | .multiply, x, y => some (x * y)
  | .divide, x, y => if y = 0 then none else some (x / y)

theorem exactly?_eq_none {x y : ℚ} : a.exactly? x y = none ↔ a = .divide ∧ y = 0 := by
  cases a <;> simp [exactly?]

/-- An exact result on integers that is one. -/
theorem onInts?_eq_some {x y z : Int} (h : ¬(a = .divide ∧ y = 0)) :
    a.onInts? x y = some z ↔ a.exactly? x y = some (z : ℚ) := by
  cases a with
  | add =>
    rw [onInts?, exactly?, Option.some_inj, Option.some_inj, ← Int.cast_add, Int.cast_inj]
  | subtract =>
    rw [onInts?, exactly?, Option.some_inj, Option.some_inj, ← Int.cast_sub, Int.cast_inj]
  | multiply =>
    rw [onInts?, exactly?, Option.some_inj, Option.some_inj, ← Int.cast_mul, Int.cast_inj]
  | divide =>
    have hy : y ≠ 0 := fun hy => h ⟨rfl, hy⟩
    have hy' : (y : ℚ) ≠ 0 := Int.cast_ne_zero.2 hy
    rw [onInts?, exactly?, if_neg hy', Option.some_inj, div_eq_iff hy', ← Int.cast_mul,
      Int.cast_inj]
    by_cases hdvd : y ∣ x
    · rw [if_pos hdvd, Option.some_inj, Int.ediv_eq_iff_eq_mul_left hy hdvd]
    · rw [if_neg hdvd]
      exact ⟨fun h => (by cases h), fun hx => absurd ⟨z, hx.trans (Int.mul_comm z y)⟩ hdvd⟩

theorem apply_integers_eq (a : Arithmetic) (m k : Int64) :
    a.apply (.integer m) (.integer k) =
      if a = .divide ∧ k = 0 then .error .divisionByZero else .ok (a.onIntegers m k) := rfl

theorem toInt_eq_zero : k.toInt = 0 ↔ k = 0 := Int64.toInt_inj (y := 0)

/-- An operator gives an integer of 64 bits exactly where that is the exact result. -/
theorem apply_integers : a.apply (.integer m) (.integer k) = .ok (.integer n) ↔
    a.exactly? m.toInt k.toInt = some (n.toInt : ℚ) := by
  by_cases hzero : a = .divide ∧ k = 0
  · have hnone : a.exactly? m.toInt k.toInt = none :=
      exactly?_eq_none.2 ⟨hzero.1, Int.cast_eq_zero.2 (toInt_eq_zero.2 hzero.2)⟩
    rw [apply_integers_eq, if_pos hzero, hnone]
    exact ⟨fun h => (by cases h), fun h => (by cases h)⟩
  · have hints : ¬(a = .divide ∧ k.toInt = 0) := by rwa [toInt_eq_zero]
    rw [apply_integers_eq, if_neg hzero, ← onInts?_eq_some hints, onIntegers]
    cases hresult : a.onInts? m.toInt k.toInt with
    | none => exact ⟨fun h => (by cases h), fun h => (by cases h)⟩
    | some z =>
      rw [Option.bind_some, Option.some_inj, eq_comm (a := z), ← Int64.ofInt?_eq_some]
      cases Int64.ofInt? z with
      | none => exact ⟨fun h => (by cases h), fun h => (by cases h)⟩
      | some j => rw [Except.ok.injEq, Value.integer.injEq, Option.some_inj]

/-- An exact result that is no integer of 64 bits is given up for floating point. -/
theorem apply_integers_beyond {x : ℚ} (h : a.exactly? m.toInt k.toInt = some x)
    (hx : ∀ n : Int64, (n.toInt : ℚ) ≠ x) : a.apply (.integer m) (.integer k) =
      .ok (.float (a.onFloats (.ofInt m.toInt) (.ofInt k.toInt))) := by
  have hzero : ¬(a = .divide ∧ k = 0) := fun ⟨ha, hk⟩ => by
    have hnone := exactly?_eq_none (x := m.toInt).2
      ⟨ha, Int.cast_eq_zero.2 (toInt_eq_zero.2 hk)⟩
    exact absurd (h.symm.trans hnone) (fun h => by cases h)
  have hints : ¬(a = .divide ∧ k.toInt = 0) := by rwa [toInt_eq_zero]
  have hnone : (a.onInts? m.toInt k.toInt).bind Int64.ofInt? = none := by
    cases hresult : a.onInts? m.toInt k.toInt with
    | none => rfl
    | some z =>
      refine Int64.ofInt?_eq_none.2 fun n hn => hx n ?_
      rw [hn]
      exact Option.some_inj.1 (((onInts?_eq_some hints).1 hresult).symm.trans h)
  rw [apply_integers_eq, if_neg hzero, onIntegers, hnone]

/-- The result on numbers that are not both integers. -/
def applyFloats (a : Arithmetic) (x y : Binary64) : Except OperatorError Value :=
  if a = .divide ∧ y.isZero = true then .error .divisionByZero else .ok (.float (a.onFloats x y))

theorem apply_float_left (a : Arithmetic) (x : Binary64) {w : Value} {y : Binary64}
    (hw : w.toFloat? = some y) : a.apply (.float x) w = a.applyFloats x y := by
  cases w with
  | integer k =>
    obtain rfl := Option.some.inj hw
    rfl
  | float y =>
    obtain rfl := Option.some.inj hw
    rfl
  | _ => cases hw

theorem apply_integer_float (a : Arithmetic) (m : Int64) (y : Binary64) :
    a.apply (.integer m) (.float y) = a.applyFloats (.ofInt m.toInt) y := rfl

/-- What is in floating point does not come back to the integers. -/
theorem applyFloats_cases (a : Arithmetic) (x y : Binary64) :
    (a = .divide ∧ y.isZero = true ∧ a.applyFloats x y = .error .divisionByZero) ∨
      ∃ z, a.applyFloats x y = .ok (.float z) := by
  rw [applyFloats]
  by_cases h : a = .divide ∧ y.isZero = true
  · rw [if_pos h]
    exact Or.inl ⟨h.1, h.2, rfl⟩
  · rw [if_neg h]
    exact Or.inr ⟨_, rfl⟩

/-- An operator on two numbers gives a number, or it divides by zero. -/
theorem apply_numbers {v w : Value} (hv : v.IsNumber) (hw : w.IsNumber) :
    (∃ u, u.IsNumber ∧ a.apply v w = .ok u) ∨
      (a = .divide ∧ w.IsZero ∧ a.apply v w = .error .divisionByZero) := by
  have hfloats {x y : Binary64} (hy : w.toFloat? = some y) (h : a.apply v w = a.applyFloats x y) :
      (∃ u, u.IsNumber ∧ a.apply v w = .ok u) ∨
        (a = .divide ∧ w.IsZero ∧ a.apply v w = .error .divisionByZero) := by
    rw [h]
    rcases applyFloats_cases a x y with ⟨ha, hzero, h⟩ | ⟨z, h⟩
    · exact Or.inr ⟨ha, ⟨y, hy, hzero⟩, h⟩
    · exact Or.inl ⟨_, .float z, h⟩
  cases hv with
  | float x =>
    cases hw with
    | integer k => exact hfloats rfl (apply_float_left a x rfl)
    | float y => exact hfloats rfl (apply_float_left a x rfl)
  | integer m =>
    cases hw with
    | float y => exact hfloats rfl (apply_integer_float a m y)
    | integer k =>
      rw [apply_integers_eq]
      by_cases hzero : a = .divide ∧ k = 0
      · rw [if_pos hzero, hzero.2]
        exact Or.inr ⟨hzero.1, Value.isZero_zero, rfl⟩
      · rw [if_neg hzero]
        refine Or.inl ⟨_, ?_, rfl⟩
        rw [onIntegers]
        cases (a.onInts? m.toInt k.toInt).bind Int64.ofInt? with
        | none => exact .float _
        | some n => exact .integer n

/-- An integer comes from integers. -/
theorem integers_of_apply {v w : Value} (hv : v.IsNumber) (hw : w.IsNumber)
    (h : a.apply v w = .ok (.integer n)) : ∃ m k, v = .integer m ∧ w = .integer k := by
  have hfloats (x y : Binary64) : a.applyFloats x y ≠ .ok (.integer n) := fun h => by
    rcases applyFloats_cases a x y with ⟨-, -, h'⟩ | ⟨z, h'⟩
    · cases h.symm.trans h'
    · cases h.symm.trans h'
  cases hv with
  | float x =>
    cases hw with
    | integer k => exact absurd ((apply_float_left a x rfl).symm.trans h) (hfloats _ _)
    | float y => exact absurd ((apply_float_left a x rfl).symm.trans h) (hfloats _ _)
  | integer m =>
    cases hw with
    | integer k => exact ⟨m, k, rfl, rfl⟩
    | float y => exact absurd ((apply_integer_float a m y).symm.trans h) (hfloats _ _)

end Arithmetic

namespace UnaryOp

theorem apply_negate_integer {m n : Int64} :
    UnaryOp.apply .negate (.integer m) = .ok (.integer n) ↔ n.toInt = -m.toInt := by
  rw [apply, ← Int64.ofInt?_eq_some]
  cases Int64.ofInt? (-m.toInt) with
  | none => exact ⟨fun h => (by cases h), fun h => (by cases h)⟩
  | some j => rw [Except.ok.injEq, Value.integer.injEq, Option.some_inj]

/-- A negative that is no integer of 64 bits is given up for floating point. -/
theorem apply_negate_beyond {m : Int64} (h : ∀ n : Int64, n.toInt ≠ -m.toInt) :
    UnaryOp.apply .negate (.integer m) = .ok (.float (Binary64.ofInt m.toInt).neg) := by
  rw [apply, Int64.ofInt?_eq_none.2 h]

theorem integer_of_apply_negate {v : Value} {n : Int64} (hv : v.IsNumber)
    (h : UnaryOp.apply .negate v = .ok (.integer n)) : ∃ m, v = .integer m := by
  cases hv with
  | integer m => exact ⟨m, rfl⟩
  | float x => cases h

/-- The negative of a number is one. -/
theorem apply_negate_number {v : Value} (hv : v.IsNumber) :
    ∃ u, u.IsNumber ∧ UnaryOp.apply .negate v = .ok u := by
  cases hv with
  | float x => exact ⟨_, .float x.neg, rfl⟩
  | integer m =>
    rw [apply]
    cases Int64.ofInt? (-m.toInt) with
    | none => exact ⟨_, .float _, rfl⟩
    | some k => exact ⟨_, .integer k, rfl⟩

end UnaryOp

/-! ### Expressions -/

namespace Expr

variable {row : Row} {finals : List Value} {e l r : Expr} {a : Arithmetic}

/-- An expression is made of integers when it has integer literals, columns with an integer on the
row, arithmetic operators and minus signs only. -/
inductive IsIntegral (row : Row) : Expr → Prop
  | literal (n : Int64) : IsIntegral row (.literal (.integer n))
  | column {a : Attribute} {n : Int64} (h : row a = .integer n) : IsIntegral row (.column a)
  | arithmetic (a : Arithmetic) {l r : Expr} (hl : IsIntegral row l) (hr : IsIntegral row r) :
    IsIntegral row (.binary (.arithmetic a) l r)
  | negate {e : Expr} (h : IsIntegral row e) : IsIntegral row (.unary .negate e)

/-- The exact value of an expression made of integers, if it does not divide by zero. -/
def exactValue? (row : Row) : Expr → Option ℚ
  | .literal (.integer n) => some n.toInt
  | .column a =>
    match row a with
    | .integer n => some n.toInt
    | _ => none
  | .binary (.arithmetic a) l r =>
    (l.exactValue? row).bind fun x => (r.exactValue? row).bind fun y => a.exactly? x y
  | .unary .negate e => (e.exactValue? row).map fun x => -x
  | _ => none

/-- The expression and all expressions inside it have exact values that are integers of 64 bits. -/
def StaysIntegral (row : Row) (e : Expr) : Prop :=
  ∀ x ∈ e.nodes, ∃ n : Int64, x.exactValue? row = some (n.toInt : ℚ)

theorem toInt_cast_inj {m n : Int64} : some (m.toInt : ℚ) = some (n.toInt : ℚ) ↔ m = n := by
  rw [Option.some_inj, Int.cast_inj, Int64.toInt_inj]

theorem staysIntegral_leaf {n : Int64} (hnodes : e.nodes = [e])
    (h : e.exactValue? row = some (n.toInt : ℚ)) : e.StaysIntegral row := by
  rw [StaysIntegral, hnodes]
  exact List.forall_mem_singleton.2 ⟨n, h⟩

theorem staysIntegral_binary {op : BinaryOp} : (Expr.binary op l r).StaysIntegral row ↔
    (∃ n : Int64, (Expr.binary op l r).exactValue? row = some (n.toInt : ℚ)) ∧
      l.StaysIntegral row ∧ r.StaysIntegral row := by
  rw [StaysIntegral, nodes, List.forall_mem_cons, List.forall_mem_append]
  rfl

theorem staysIntegral_unary {op : UnaryOp} : (Expr.unary op e).StaysIntegral row ↔
    (∃ n : Int64, (Expr.unary op e).exactValue? row = some (n.toInt : ℚ)) ∧
      e.StaysIntegral row := by
  rw [StaysIntegral, nodes, List.forall_mem_cons]
  rfl

/-- An expression made of integers takes none of the final values of aggregate calls. -/
theorem IsIntegral.callCount_eq_zero (h : e.IsIntegral row) : e.callCount = 0 := by
  induction h with
  | literal n => rfl
  | column h => rfl
  | arithmetic a hl hr ihl ihr =>
    rw [callCount, aggregateCalls, List.length_append]
    exact congrArg₂ (· + ·) ihl ihr
  | negate h ih => exact ih

theorem StaysIntegral.exists_exactValue (h : e.StaysIntegral row) :
    ∃ n : Int64, e.exactValue? row = some (n.toInt : ℚ) := h e (self_mem_nodes e)

/-- What is inside an expression made of integers is made of integers. -/
theorem IsIntegral.of_mem_nodes (h : e.IsIntegral row) {x : Expr} (hx : x ∈ e.nodes) :
    x.IsIntegral row := by
  induction h with
  | literal n =>
    obtain rfl := List.mem_singleton.1 hx
    exact .literal n
  | column h =>
    obtain rfl := List.mem_singleton.1 hx
    exact .column h
  | arithmetic a hl hr ihl ihr =>
    rcases List.mem_cons.1 hx with rfl | hx
    · exact .arithmetic a hl hr
    · exact (List.mem_append.1 hx).elim ihl ihr
  | negate h ih =>
    rcases List.mem_cons.1 hx with rfl | hx
    · exact .negate h
    · exact ih hx

section

variable [PatternEngine]

theorem IsIntegral.eval_arithmetic (hl : l.IsIntegral row) :
    (Expr.binary (.arithmetic a) l r).eval row finals = (do
      let x ← l.eval row finals
      let y ← r.eval row finals
      (a.apply x y).mapError (.operator (.binary (.arithmetic a) l r))) := by
  rw [eval, hl.callCount_eq_zero, List.drop_zero]
  rfl

theorem IsIntegral.eval_negate (_h : e.IsIntegral row) :
    (Expr.unary .negate e).eval row finals = (do
      let x ← e.eval row finals
      (UnaryOp.apply .negate x).mapError (.operator (.unary .negate e))) := rfl

/-- Evaluation fails at a division inside whose divisor has the value zero. -/
def DividesByZero (row : Row) (finals : List Value) (e : Expr) : Prop :=
  ∃ l r v, .binary (.arithmetic .divide) l r ∈ e.nodes ∧ r.eval row finals = .ok v ∧ v.IsZero ∧
    e.eval row finals = .error (.operator (.binary (.arithmetic .divide) l r) .divisionByZero)

/-- An expression made of integers has a number as its value or divides by zero. -/
theorem IsIntegral.eval_cases (h : e.IsIntegral row) (finals : List Value) :
    (∃ v, v.IsNumber ∧ e.eval row finals = .ok v) ∨ e.DividesByZero row finals := by
  induction h with
  | literal n => exact Or.inl ⟨_, .integer n, rfl⟩
  | @column a n h => exact Or.inl ⟨_, .integer n, congrArg Except.ok h⟩
  | @arithmetic a l r hl hr ihl ihr =>
    rw [DividesByZero, hl.eval_arithmetic]
    rcases ihl with ⟨v, hv, hl'⟩ | ⟨l', r', v, hmem, hr', hzero, hl'⟩
    · rw [hl']
      rcases ihr with ⟨w, hw, hr'⟩ | ⟨l', r', w, hmem, hr'', hzero, hr'⟩
      · rw [hr']
        rcases Arithmetic.apply_numbers (a := a) hv hw with ⟨u, hu, h⟩ | ⟨rfl, hzero, h⟩
        · exact Or.inl ⟨u, hu, congrArg (Except.mapError _) h⟩
        · exact Or.inr ⟨l, r, w, self_mem_nodes _, hr', hzero, congrArg (Except.mapError _) h⟩
      · rw [hr']
        exact Or.inr ⟨l', r', w, List.mem_cons_of_mem _ (List.mem_append_right _ hmem), hr'',
          hzero, rfl⟩
    · rw [hl']
      exact Or.inr ⟨l', r', v, List.mem_cons_of_mem _ (List.mem_append_left _ hmem), hr', hzero,
        rfl⟩
  | @negate e h ih =>
    rw [DividesByZero, h.eval_negate]
    rcases ih with ⟨v, hv, he⟩ | ⟨l, r, v, hmem, hr, hzero, he⟩
    · obtain ⟨u, hu, h⟩ := UnaryOp.apply_negate_number hv
      rw [he]
      exact Or.inl ⟨u, hu, congrArg (Except.mapError _) h⟩
    · rw [he]
      exact Or.inr ⟨l, r, v, List.mem_cons_of_mem _ hmem, hr, hzero, rfl⟩

theorem IsIntegral.isNumber (h : e.IsIntegral row) {v : Value} (hv : e.eval row finals = .ok v) :
    v.IsNumber := by
  rcases h.eval_cases finals with ⟨u, hu, heval⟩ | ⟨_, _, _, _, _, _, heval⟩
  · obtain rfl := Except.ok.inj (hv.symm.trans heval)
    exact hu
  · cases hv.symm.trans heval

/-- An integer comes out exactly where all exact values inside are integers of 64 bits, and it is
the exact value. -/
theorem IsIntegral.eval_eq_integer (h : e.IsIntegral row) (finals : List Value) (n : Int64) :
    e.eval row finals = .ok (.integer n) ↔
      e.StaysIntegral row ∧ e.exactValue? row = some (n.toInt : ℚ) := by
  induction h generalizing n with
  | literal m =>
    rw [eval, Except.ok.injEq, Value.integer.injEq, exactValue?, toInt_cast_inj]
    exact ⟨fun h => ⟨staysIntegral_leaf rfl rfl, h⟩, And.right⟩
  | @column a m h =>
    have hexact : (Expr.column a).exactValue? row = some (m.toInt : ℚ) := by rw [exactValue?, h]
    rw [eval, h, Except.ok.injEq, Value.integer.injEq, hexact, toInt_cast_inj]
    exact ⟨fun h => ⟨staysIntegral_leaf rfl hexact, h⟩, And.right⟩
  | @arithmetic a l r hl hr ihl ihr =>
    rw [hl.eval_arithmetic, staysIntegral_binary, exactValue?]
    constructor
    · intro heval
      obtain ⟨v, hv, heval⟩ := Except.bind_eq_ok.1 heval
      obtain ⟨w, hw, heval⟩ := Except.bind_eq_ok.1 heval
      rw [Except.mapError_eq_ok] at heval
      obtain ⟨m, k, rfl, rfl⟩ :=
        Arithmetic.integers_of_apply (hl.isNumber hv) (hr.isNumber hw) heval
      obtain ⟨hstaysl, hexactl⟩ := (ihl m).1 hv
      obtain ⟨hstaysr, hexactr⟩ := (ihr k).1 hw
      have hexact := Arithmetic.apply_integers.1 heval
      rw [hexactl, hexactr]
      exact ⟨⟨⟨n, hexact⟩, hstaysl, hstaysr⟩, hexact⟩
    · rintro ⟨⟨-, hstaysl, hstaysr⟩, hexact⟩
      obtain ⟨m, hexactl⟩ := hstaysl.exists_exactValue
      obtain ⟨k, hexactr⟩ := hstaysr.exists_exactValue
      rw [hexactl, hexactr] at hexact
      rw [(ihl m).2 ⟨hstaysl, hexactl⟩, (ihr k).2 ⟨hstaysr, hexactr⟩]
      exact Except.mapError_eq_ok.2 (Arithmetic.apply_integers.2 hexact)
  | @negate e h ih =>
    rw [h.eval_negate, staysIntegral_unary, exactValue?]
    constructor
    · intro heval
      obtain ⟨v, hv, heval⟩ := Except.bind_eq_ok.1 heval
      rw [Except.mapError_eq_ok] at heval
      obtain ⟨m, rfl⟩ := UnaryOp.integer_of_apply_negate (h.isNumber hv) heval
      obtain ⟨hstays, hexact⟩ := (ih m).1 hv
      have hneg : (-(m.toInt : ℚ)) = n.toInt := by
        rw [UnaryOp.apply_negate_integer.1 heval, Int.cast_neg]
      rw [hexact, Option.map_some, hneg]
      exact ⟨⟨⟨n, rfl⟩, hstays⟩, rfl⟩
    · rintro ⟨⟨-, hstays⟩, hexact⟩
      obtain ⟨m, hexactm⟩ := hstays.exists_exactValue
      rw [hexactm, Option.map_some, Option.some_inj, ← Int.cast_neg, Int.cast_inj] at hexact
      rw [(ih m).2 ⟨hstays, hexactm⟩]
      exact Except.mapError_eq_ok.2 (UnaryOp.apply_negate_integer.2 hexact.symm)

/-- An operator on integers whose exact result is no integer of 64 bits gives a float. -/
theorem eval_arithmetic_beyond (hl : l.IsIntegral row) {m k : Int64} {x : ℚ}
    (hm : l.eval row finals = .ok (.integer m)) (hk : r.eval row finals = .ok (.integer k))
    (hexact : a.exactly? m.toInt k.toInt = some x) (hx : ∀ n : Int64, (n.toInt : ℚ) ≠ x) :
    (Expr.binary (.arithmetic a) l r).eval row finals =
      .ok (.float (a.onFloats (.ofInt m.toInt) (.ofInt k.toInt))) := by
  rw [hl.eval_arithmetic, hm, hk]
  exact Except.mapError_eq_ok.2 (Arithmetic.apply_integers_beyond hexact hx)

/-- A minus sign before an integer whose negative does not have 64 bits gives a float. -/
theorem eval_negate_beyond (h : e.IsIntegral row) {m : Int64}
    (hm : e.eval row finals = .ok (.integer m)) (hbeyond : ∀ n : Int64, n.toInt ≠ -m.toInt) :
    (Expr.unary .negate e).eval row finals = .ok (.float (Binary64.ofInt m.toInt).neg) := by
  rw [h.eval_negate, hm]
  exact Except.mapError_eq_ok.2 (UnaryOp.apply_negate_beyond hbeyond)

/-- On a row where its columns hold integers, an expression made of integers gives an integer
exactly where it and all that is inside it have exact values that are integers of 64 bits, and then
this is the exact value. Otherwise a float comes out or it fails at a division by zero; an operator
or minus sign at any depth that is given integers and whose exact result is no such integer gives
the float of the same operation. -/
theorem eval_integral (h : e.IsIntegral row) (finals : List Value) :
    (∀ n : Int64, e.eval row finals = .ok (.integer n) ↔
      e.StaysIntegral row ∧ e.exactValue? row = some (n.toInt : ℚ)) ∧
    ((∃ n, e.eval row finals = .ok (.integer n)) ∨ (∃ x, e.eval row finals = .ok (.float x)) ∨
      e.DividesByZero row finals) ∧
    (∀ a l r m k x, .binary (.arithmetic a) l r ∈ e.nodes →
      l.eval row finals = .ok (.integer m) → r.eval row finals = .ok (.integer k) →
      a.exactly? m.toInt k.toInt = some x → (∀ n : Int64, (n.toInt : ℚ) ≠ x) →
      (Expr.binary (.arithmetic a) l r).eval row finals =
        .ok (.float (a.onFloats (.ofInt m.toInt) (.ofInt k.toInt)))) ∧
    ∀ x m, .unary .negate x ∈ e.nodes → x.eval row finals = .ok (.integer m) →
      (∀ n : Int64, n.toInt ≠ -m.toInt) →
      (Expr.unary .negate x).eval row finals = .ok (.float (Binary64.ofInt m.toInt).neg) := by
  refine ⟨h.eval_eq_integer finals, ?_, ?_, ?_⟩
  · rcases h.eval_cases finals with ⟨v, hv, heval⟩ | hzero
    · cases hv with
      | integer n => exact Or.inl ⟨n, heval⟩
      | float x => exact Or.inr (Or.inl ⟨x, heval⟩)
    · exact Or.inr (Or.inr hzero)
  · intro a l r m k x hmem hm hk hexact hx
    have hinside := h.of_mem_nodes hmem
    cases hinside with
    | arithmetic a hl hr => exact eval_arithmetic_beyond hl hm hk hexact hx
  · intro x m hmem hm hbeyond
    have hinside := h.of_mem_nodes hmem
    cases hinside with
    | negate h => exact eval_negate_beyond h hm hbeyond

end

/-- The expression `-9223372036854775807 - 1`, whose value is the least integer of 64 bits. -/
def leastInteger : Expr :=
  .binary (.arithmetic .subtract) (.literal (.integer (-9223372036854775807)))
    (.literal (.integer 1))

/-- The least integer comes out exactly; divided by minus one it becomes a float. -/
theorem eval_integral_leastInteger :
    (Expr.binary (.arithmetic .divide) leastInteger (.literal (.integer (-1)))).IsIntegral
      .unknown ∧
    leastInteger.IsIntegral .unknown ∧
    leastInteger.eval .unknown [] = .ok (.integer Int64.minValue) ∧
    (Expr.binary (.arithmetic .divide) leastInteger (.literal (.integer (-1)))).eval .unknown [] =
      .ok (.float (Arithmetic.divide.onFloats (.ofInt Int64.minValue.toInt)
        (.ofInt (-1 : Int64).toInt))) := by
  have hleast : leastInteger.IsIntegral .unknown := .arithmetic _ (.literal _) (.literal _)
  have hdivided := IsIntegral.arithmetic .divide hleast (.literal (-1))
  have hmin : (Int64.minValue.toInt : ℚ) = -9223372036854775808 := by
    have h : Int64.minValue.toInt = -9223372036854775808 := rfl
    rw [h]
    norm_num
  have hexact : leastInteger.exactValue? .unknown = some (Int64.minValue.toInt : ℚ) := by
    have hm : (-9223372036854775807 : Int64).toInt = -9223372036854775807 := rfl
    have hk : (1 : Int64).toInt = 1 := rfl
    simp only [leastInteger, exactValue?, Option.bind_some, Arithmetic.exactly?, hm, hk, hmin]
    norm_num
  have hstays : leastInteger.StaysIntegral .unknown :=
    staysIntegral_binary.2 ⟨⟨_, hexact⟩, staysIntegral_leaf rfl rfl, staysIntegral_leaf rfl rfl⟩
  have heval := ((eval_integral hleast []).1 Int64.minValue).2 ⟨hstays, hexact⟩
  refine ⟨hdivided, hleast, heval, ?_⟩
  refine (eval_integral hdivided []).2.2.1 .divide _ _ Int64.minValue (-1) (2 ^ 63)
    (self_mem_nodes _) heval rfl ?_ fun n hn => ?_
  · have hk : (-1 : Int64).toInt = -1 := rfl
    rw [Arithmetic.exactly?, hmin, hk]
    norm_num
  · have hlt : (n.toInt : ℚ) < 2 ^ 63 := by exact_mod_cast n.toInt_lt
    exact absurd hn hlt.ne

end Expr

end FileQuery
