import FileQuery.Value.Basic
import FileQuery.Time.Literal

/-!
# Comparing values

The ordering operators compare numbers by exact value, whether integers or floats, and a time with
the instant that a text stands for; other kinds do not mix. Sorting orders all values: first by
rank of their kind, then within it.

## Main definitions

* `FileQuery.Value.compare`, `FileQuery.Value.equals`: for the operators.
* `FileQuery.Value.sortCompare`: for sorting.

## Main results

* `FileQuery.Value.compare_null_left`, `FileQuery.Value.compare_null_right`: null is not compared.
-/

namespace FileQuery

/-- Why two values cannot be compared. -/
inductive CompareError where
  | notATime (text : String)
  | kinds (left right : Value)
  deriving DecidableEq

def CompareError.message : CompareError → String
  | .notATime s => s!"'{s}' is not a valid date or time"
  | .kinds a b => s!"cannot compare {a.typeName} with {b.typeName}"

namespace Value

/-- The instant that a text stands for in a comparison with a time. -/
def instantOf (s : String) : Except CompareError Instant :=
  match Instant.ofLiteral? s with
  | some t => .ok t
  | none => .error (.notATime s)

/-- The comparison behind the ordering operators: nothing is known about null, and most kinds
compare only with themselves. -/
def compare (a b : Value) : Except CompareError (Option Ordering) :=
  match a, b with
  | .null, _ => .ok none
  | _, .null => .ok none
  | .integer m, .integer n => .ok (some (Ord.compare m n))
  | .integer m, .float y => .ok (some (y.compareInt m))
  | .float x, .integer n => .ok (some (x.compareInt n).swap)
  | .float x, .float y => .ok (some (x.compare y))
  | .string s, .string t => .ok (some (Ord.compare s t))
  | .boolean x, .boolean y => .ok (some (Ord.compare x y))
  | .time s, .time t => .ok (some (s.compare t))
  | .time t, .string s => (instantOf s).map fun u => some (t.compare u)
  | .string s, .time t => (instantOf s).map fun u => some (u.compare t)
  | a, b => .error (.kinds a b)

@[simp] theorem compare_null_left (b : Value) : compare .null b = .ok none := rfl

@[simp] theorem compare_null_right (a : Value) : compare a .null = .ok none := by
  cases a <;> rfl

/-- Equality of the operators `=` and `!=`: null equals null only. -/
def equals (a b : Value) : Except CompareError Bool :=
  match a, b with
  | .null, .null => .ok true
  | .null, _ => .ok false
  | _, .null => .ok false
  | a, b => (compare a b).map (· == some .eq)

/-- The rank of a value's kind in sorting; integers and floats share one. -/
def sortRank : Value → Nat
  | .null => 0
  | .boolean _ => 1
  | .integer _ => 2
  | .float _ => 2
  | .string _ => 3
  | .time _ => 4

/-- The order of sorting: by rank, and within a rank by comparison. -/
def sortCompare (a b : Value) : Ordering :=
  (Ord.compare a.sortRank b.sortRank).then
    (match compare a b with
      | .ok (some o) => o
      | _ => .eq)

/-- Sorting keeps the order of values that compare as equal. -/
def sort (values : List Value) : List Value :=
  values.mergeSort fun a b => sortCompare a b != .gt

end Value

end FileQuery
