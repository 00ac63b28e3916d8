/-!
# Operators

The operators of expressions with their spelling and binding strength.

## Main definitions

* `FileQuery.Relation`, `FileQuery.Arithmetic`, `FileQuery.BinaryOp`, `FileQuery.UnaryOp`.
* `FileQuery.BinaryOp.strength`, `FileQuery.UnaryOp.strength`: higher binds tighter.
-/

namespace FileQuery

/-- The comparison operators. -/
inductive Relation where
  | equal
  | notEqual
  | less
  | greater
  | lessEqual
  | greaterEqual
  deriving DecidableEq, Repr

/-- The arithmetic operators. -/
inductive Arithmetic where
  | add
  | subtract
  | multiply
  | divide
  deriving DecidableEq, Repr

inductive BinaryOp where
  | or
  | and
  | relation (r : Relation)
  | arithmetic (a : Arithmetic)
  deriving DecidableEq, Repr

inductive UnaryOp where
  | not
  | negate
  deriving DecidableEq, Repr

def Relation.symbol : Relation → String
  | .equal => "="
  | .notEqual => "!="
  | .less => "<"
  | .greater => ">"
  | .lessEqual => "<="
  | .greaterEqual => ">="

def Arithmetic.symbol : Arithmetic → String
  | .add => "+"
  | .subtract => "-"
  | .multiply => "*"
  | .divide => "/"

def BinaryOp.symbol : BinaryOp → String
  | .or => "or"
  | .and => "and"
  | .relation r => r.symbol
  | .arithmetic a => a.symbol

/-- Products bind tighter than sums, sums tighter than comparisons. -/
def Arithmetic.strength : Arithmetic → Nat
  | .add => 5
  | .subtract => 5
  | .multiply => 6
  | .divide => 6

/-- Comparisons bind tighter than `and`, which binds tighter than `or`. -/
def BinaryOp.strength : BinaryOp → Nat
  | .or => 1
  | .and => 2
  | .relation _ => 4
  | .arithmetic a => a.strength

/-- `not` stands between `and` and the comparisons; a minus sign binds tightest. -/
def UnaryOp.strength : UnaryOp → Nat
  | .not => 3
  | .negate => 7

end FileQuery
