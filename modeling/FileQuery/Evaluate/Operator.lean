import FileQuery.Query.Operator
import FileQuery.Value.Order

/-!
# Applying operators to values

Integer arithmetic is exact while its result has 64 bits and goes over to floating point
otherwise, division also when it leaves a remainder. Logic has three values: null decides nothing.

## Main definitions

* `FileQuery.OperatorError`.
* `FileQuery.Arithmetic.apply`, `FileQuery.Relation.apply`, `FileQuery.BinaryOp.apply`,
  `FileQuery.UnaryOp.apply`.
-/

namespace FileQuery

/-- Why an operator cannot be applied to values. -/
inductive OperatorError where
  | divisionByZero
  | comparison (cause : CompareError)
  | arithmetic (a : Arithmetic) (left right : Value)
  | logical (v : Value)
  | not (v : Value)
  | negate (v : Value)
  /-- A predicate has a value that is neither a truth value nor null. -/
  | predicate (v : Value)
  deriving DecidableEq

def OperatorError.message : OperatorError → String
  | .divisionByZero => "division by zero"
  | .comparison e => e.message
  | .arithmetic a l r => s!"cannot apply '{a.symbol}' to {l.typeName} and {r.typeName}"
  | .logical v => s!"logical operands must be boolean, got {v.typeName}"
  | .not v => s!"'not' requires a boolean, got {v.typeName}"
  | .negate v => s!"cannot negate {v.typeName}"
  | .predicate v => s!"predicate must be boolean, got {v.typeName}"

namespace Arithmetic

/-- An operator on floating-point numbers. -/
def onFloats : Arithmetic → Binary64 → Binary64 → Binary64
  | .add => .add
  | .subtract => .sub
  | .multiply => .mul
  | .divide => .div

/-- The exact result on integers, if it is an integer. -/
def onInts? : Arithmetic → Int → Int → Option Int
  | .add, m, n => some (m + n)
  | .subtract, m, n => some (m - n)
  | .multiply, m, n => some (m * n)
  | .divide, m, n => if n ∣ m then some (m / n) else none

/-- An operator on integers of 64 bits: exact if the result is one, else in floating point. -/
def onIntegers (a : Arithmetic) (m n : Int64) : Value :=
  match (a.onInts? m.toInt n.toInt).bind Int64.ofInt? with
  | some k => .integer k
  | none => .float (a.onFloats (.ofInt m.toInt) (.ofInt n.toInt))

/-- An operator on values: numbers, and sums of texts. -/
def apply (a : Arithmetic) (left right : Value) : Except OperatorError Value :=
  match left, right with
  | .null, _ => .ok .null
  | _, .null => .ok .null
  | .integer m, .integer n =>
    if a = .divide ∧ n = 0 then .error .divisionByZero else .ok (a.onIntegers m n)
  | .string s, .string t =>
    if a = .add then .ok (.string (s ++ t)) else .error (.arithmetic a left right)
  | l, r =>
    match l.toFloat?, r.toFloat? with
    | some x, some y =>
      if a = .divide ∧ y.isZero = true then .error .divisionByZero
      else .ok (.float (a.onFloats x y))
    | _, _ => .error (.arithmetic a l r)

end Arithmetic

namespace Relation

/-- Whether an ordering satisfies a relation. -/
def holds : Relation → Ordering → Bool
  | .equal, o => o == .eq
  | .notEqual, o => o != .eq
  | .less, o => o == .lt
  | .greater, o => o == .gt
  | .lessEqual, o => o != .gt
  | .greaterEqual, o => o != .lt

/-- A comparison of values. Equality also answers about null; the others are null then. -/
def apply (r : Relation) (left right : Value) : Except OperatorError Value :=
  match r with
  | .equal => ((left.equals right).mapError .comparison).map .boolean
  | .notEqual => ((left.equals right).mapError .comparison).map fun b => .boolean !b
  | r => ((left.compare right).mapError .comparison).map fun o =>
      (o.map fun o => Value.boolean (r.holds o)).getD .null

end Relation

namespace BinaryOp

/-- A truth value, or nothing for null. -/
def truth? : Value → Except OperatorError (Option Bool)
  | .boolean b => .ok (some b)
  | .null => .ok none
  | v => .error (.logical v)

/-- The conjunction of three-valued logic: false if either is false. -/
def conjunction : Option Bool → Option Bool → Option Bool
  | some false, _ => some false
  | _, some false => some false
  | some true, some true => some true
  | _, _ => none

/-- The disjunction of three-valued logic: true if either is true. -/
def disjunction : Option Bool → Option Bool → Option Bool
  | some true, _ => some true
  | _, some true => some true
  | some false, some false => some false
  | _, _ => none

/-- A logical operator on values. -/
def logic (f : Option Bool → Option Bool → Option Bool) (left right : Value) :
    Except OperatorError Value := do
  let a ← truth? left
  let b ← truth? right
  return ((f a b).map Value.boolean).getD .null

def apply : BinaryOp → Value → Value → Except OperatorError Value
  | .or => logic disjunction
  | .and => logic conjunction
  | .relation r => r.apply
  | .arithmetic a => a.apply

end BinaryOp

/-- A unary operator on a value; null stays null. The least integer has no negative of 64 bits. -/
def UnaryOp.apply : UnaryOp → Value → Except OperatorError Value
  | _, .null => .ok .null
  | .not, .boolean b => .ok (.boolean !b)
  | .negate, .integer n =>
    match Int64.ofInt? (-n.toInt) with
    | some k => .ok (.integer k)
    | none => .ok (.float (Binary64.ofInt n.toInt).neg)
  | .negate, .float x => .ok (.float x.neg)
  | .not, v => .error (.not v)
  | .negate, v => .error (.negate v)

end FileQuery
