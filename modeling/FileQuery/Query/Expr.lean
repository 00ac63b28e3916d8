import FileQuery.Catalog.Name
import FileQuery.Query.Operator
import FileQuery.Value.Basic

/-!
# Expressions

An expression reads attributes, holds literal values, calls functions and applies operators. Names
are resolved while a query is parsed, so an expression holds attributes and functions themselves.

## Main definitions

* `FileQuery.Expr`, `FileQuery.AggregateCall`.
* `FileQuery.Expr.aggregateCalls`: the outermost aggregate calls, left to right.
* `FileQuery.Expr.columns`: the attributes that are read, in order and with repetitions.
* `FileQuery.Expr.toText`: the expression as a query would write it.

## Main results

* `FileQuery.Expr.induct`: induction on expressions.
-/

namespace FileQuery

inductive Expr where
  | column (a : Attribute)
  | literal (v : Value)
  | call (f : Function) (args : List Expr)
  | binary (op : BinaryOp) (left right : Expr)
  | unary (op : UnaryOp) (operand : Expr)

instance : Inhabited Expr := ⟨.literal .null⟩

/-- A call of an aggregate function. -/
structure AggregateCall where
  function : AggregateFunction
  args : List Expr

namespace Expr

/-- Induction on expressions: what holds of all arguments holds of the call. -/
@[elab_as_elim]
theorem induct {motive : Expr → Prop} (column : ∀ a, motive (.column a))
    (literal : ∀ v, motive (.literal v))
    (call : ∀ f args, (∀ e ∈ args, motive e) → motive (.call f args))
    (binary : ∀ op l r, motive l → motive r → motive (.binary op l r))
    (unary : ∀ op e, motive e → motive (.unary op e)) (e : Expr) : motive e :=
  @Expr.rec motive (fun es => ∀ e ∈ es, motive e) column literal call binary unary
    (fun _ h => nomatch h) (fun _ _ he hes => List.forall_mem_cons.2 ⟨he, hes⟩) e

mutual

/-- The number of nodes. -/
def size : Expr → Nat
  | .column _ => 1
  | .literal _ => 1
  | .call _ args => 1 + sizeList args
  | .binary _ l r => 1 + l.size + r.size
  | .unary _ e => 1 + e.size

/-- The number of nodes of several expressions. -/
def sizeList : List Expr → Nat
  | [] => 0
  | e :: es => e.size + sizeList es

end

mutual

/-- Whether an aggregate function is called at any depth. -/
def hasAggregate : Expr → Bool
  | .column _ => false
  | .literal _ => false
  | .call f args => f.isAggregate || anyHasAggregate args
  | .binary _ l r => l.hasAggregate || r.hasAggregate
  | .unary _ e => e.hasAggregate

/-- Whether one of several expressions calls an aggregate function. -/
def anyHasAggregate : List Expr → Bool
  | [] => false
  | e :: es => e.hasAggregate || anyHasAggregate es

end

mutual

/-- The outermost aggregate calls, left to right. -/
def aggregateCalls : Expr → List AggregateCall
  | .column _ => []
  | .literal _ => []
  | .call (.aggregate f) args => [⟨f, args⟩]
  | .call (.scalar _) args => aggregateCallsList args
  | .binary _ l r => l.aggregateCalls ++ r.aggregateCalls
  | .unary _ e => e.aggregateCalls

/-- The outermost aggregate calls of several expressions, left to right. -/
def aggregateCallsList : List Expr → List AggregateCall
  | [] => []
  | e :: es => e.aggregateCalls ++ aggregateCallsList es

end

mutual

/-- The attributes that are read, in the order of the text, with repetitions. -/
def columns : Expr → List Attribute
  | .column a => [a]
  | .literal _ => []
  | .call _ args => columnsList args
  | .binary _ l r => l.columns ++ r.columns
  | .unary _ e => e.columns

/-- The attributes that several expressions read. -/
def columnsList : List Expr → List Attribute
  | [] => []
  | e :: es => e.columns ++ columnsList es

end

/-! ### Text -/

/-- How tightly the outermost operator binds; all else binds tighter than any operator. -/
def strength : Expr → Nat
  | .binary op _ _ => op.strength
  | .unary op _ => op.strength
  | _ => 255

/-- The quote for a string: a single one unless the string holds one. -/
def quoteFor (s : String) : Char :=
  if s.toList.contains '\x27' then '\x22' else '\x27'

/-- A literal as a query writes it. -/
def literalText : Value → String
  | .null => "null"
  | .string s => String.ofList (quoteFor s :: s.toList ++ [quoteFor s])
  | .float x => FloatLayout.literal.write x
  | .time t => s!"'{t.display}'"
  | v => v.toText

/-- A text in parentheses where they are needed. -/
def parenthesize (needed : Bool) (text : String) : String :=
  if needed then s!"({text})" else text

/-- What stands before the operand of a unary operator. -/
def operatorText : UnaryOp → String
  | .not => "not "
  | .negate => "-"

mutual

/-- The expression as a query writes it, with no more parentheses than the operators' strengths
ask for. -/
def toText : Expr → String
  | .column a => a.canonicalName
  | .literal v => literalText v
  | .call f args => s!"{f.canonicalName}({argsText args})"
  | .binary op l r =>
    parenthesize (decide (l.strength < op.strength)) l.toText ++ s!" {op.symbol} " ++
      parenthesize (decide (r.strength ≤ op.strength)) r.toText
  | .unary op e =>
    operatorText op ++ parenthesize (decide (e.strength < op.strength)) e.toText

/-- Arguments with commas between them. -/
def argsText : List Expr → String
  | [] => ""
  | [e] => e.toText
  | e :: es => e.toText ++ ", " ++ argsText es

end

end Expr

end FileQuery
