import FileQuery.Evaluate.Operator
import FileQuery.Function.Scalar
import FileQuery.Pattern.Cache
import FileQuery.Query.Expr
import FileQuery.Row

/-!
# Evaluating expressions

An expression is evaluated on a row, the values of all attributes of an entry. Aggregate calls have
no value on a row; after all rows are folded their final values are handed in, in the order in
which the outermost calls stand in the expression.

## Main definitions

* `FileQuery.EvalError`.
* `FileQuery.Expr.eval`, `FileQuery.Expr.holds`: values and predicates.
* `FileQuery.Expr.traced`, `FileQuery.Expr.requests`: an evaluation with the patterns that it asks
  for, in order.

## Main results

* `FileQuery.Expr.traced_fst`: tracing does not change the value.
-/

namespace FileQuery

/-- Why an expression has no value. -/
inductive EvalError where
  /-- The operator of an expression cannot be applied. -/
  | operator (e : Expr) (cause : OperatorError)
  /-- An aggregate call without a final value. -/
  | aggregateInRow (call : AggregateCall)
  | function (f : ScalarFunction) (cause : CallError)

def EvalError.message : EvalError → String
  | .operator e .divisionByZero => s!"division by zero in '{e.toText}'"
  | .operator e cause => s!"type mismatch in '{e.toText}': {cause.message}"
  | .aggregateInRow c =>
    let text := (Expr.call (.aggregate c.function) c.args).toText
    s!"unsupported operation: aggregate '{text}' cannot be evaluated per row"
  | .function f cause => s!"{f.canonicalName}: {cause.message}"

namespace Expr

variable [PatternEngine]

/-- The number of outermost aggregate calls, each of which takes one of the final values. -/
def callCount (e : Expr) : Nat := e.aggregateCalls.length

mutual

/-- The value of an expression on a row, with the final values of its aggregate calls. -/
def eval (row : Row) (finals : List Value) : Expr → Except EvalError Value
  | .column a => .ok (row a)
  | .literal v => .ok v
  | .call (.aggregate f) args =>
    match finals with
    | v :: _ => .ok v
    | [] => .error (.aggregateInRow ⟨f, args⟩)
  | .call (.scalar f) args => do
    let values ← evalArgs row finals args
    (f.apply values).mapError (.function f)
  | .binary op l r => do
    let x ← l.eval row finals
    let y ← r.eval row (finals.drop l.callCount)
    (op.apply x y).mapError (.operator (.binary op l r))
  | .unary op e => do
    let x ← e.eval row finals
    (op.apply x).mapError (.operator (.unary op e))

/-- The values of arguments, the first that has none deciding. -/
def evalArgs (row : Row) (finals : List Value) : List Expr → Except EvalError (List Value)
  | [] => .ok []
  | e :: es => do
    let v ← e.eval row finals
    let vs ← evalArgs row (finals.drop e.callCount) es
    return v :: vs

end

/-- Whether a predicate holds on a row; null counts as no. -/
def holds (row : Row) (e : Expr) : Except EvalError Bool := do
  match ← e.eval row [] with
  | .boolean b => return b
  | .null => return false
  | v => throw (.operator e (.predicate v))

mutual

/-- The value of an expression together with the patterns that evaluating it asks for, in order. -/
def traced (row : Row) (finals : List Value) : Expr → Except EvalError Value × List String
  | .column a => (.ok (row a), [])
  | .literal v => (.ok v, [])
  | .call (.aggregate f) args => (eval row finals (.call (.aggregate f) args), [])
  | .call (.scalar f) args =>
    match tracedArgs row finals args with
    | (.error e, ps) => (.error e, ps)
    | (.ok values, ps) => ((f.apply values).mapError (.function f), ps ++ f.requests values)
  | .binary op l r =>
    match traced row finals l with
    | (.error e, ps) => (.error e, ps)
    | (.ok x, ps) =>
      match traced row (finals.drop l.callCount) r with
      | (.error e, qs) => (.error e, ps ++ qs)
      | (.ok y, qs) => ((op.apply x y).mapError (.operator (.binary op l r)), ps ++ qs)
  | .unary op e =>
    match traced row finals e with
    | (.error e, ps) => (.error e, ps)
    | (.ok x, ps) => ((op.apply x).mapError (.operator (.unary op e)), ps)

/-- The same of arguments, up to the first that has no value. -/
def tracedArgs (row : Row) (finals : List Value) :
    List Expr → Except EvalError (List Value) × List String
  | [] => (.ok [], [])
  | e :: es =>
    match traced row finals e with
    | (.error e, ps) => (.error e, ps)
    | (.ok v, ps) =>
      match tracedArgs row (finals.drop e.callCount) es with
      | (.error e, qs) => (.error e, ps ++ qs)
      | (.ok vs, qs) => (.ok (v :: vs), ps ++ qs)

end

mutual

theorem traced_fst (row : Row) (finals : List Value) (e : Expr) :
    (traced row finals e).1 = eval row finals e := by
  match e with
  | .column a => rfl
  | .literal v => rfl
  | .call (.aggregate f) args => rfl
  | .call (.scalar f) args =>
    rw [traced, eval, ← tracedArgs_fst row finals args]
    rcases tracedArgs row finals args with ⟨_ | _, _⟩ <;> rfl
  | .binary op l r =>
    rw [traced, eval, ← traced_fst row finals l, ← traced_fst row (finals.drop l.callCount) r]
    rcases traced row finals l with ⟨_ | _, _⟩
    · rfl
    · rcases traced row (finals.drop l.callCount) r with ⟨_ | _, _⟩ <;> rfl
  | .unary op e =>
    rw [traced, eval, ← traced_fst row finals e]
    rcases traced row finals e with ⟨_ | _, _⟩ <;> rfl

theorem tracedArgs_fst (row : Row) (finals : List Value) (es : List Expr) :
    (tracedArgs row finals es).1 = evalArgs row finals es := by
  match es with
  | [] => rfl
  | e :: es =>
    rw [tracedArgs, evalArgs, ← traced_fst row finals e,
      ← tracedArgs_fst row (finals.drop e.callCount) es]
    rcases traced row finals e with ⟨_ | _, _⟩
    · rfl
    · rcases tracedArgs row (finals.drop e.callCount) es with ⟨_ | _, _⟩ <;> rfl

end

/-- The patterns that evaluating an expression asks for, in order. -/
def requests (row : Row) (finals : List Value) (e : Expr) : List String :=
  (traced row finals e).2

end Expr

end FileQuery
