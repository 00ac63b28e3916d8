import FileQuery.Catalog.Name
import FileQuery.Value.Order

/-!
# Accumulators

An accumulator folds the argument values of an aggregate call, one row after the other. Two
accumulators of the same function that have folded neighbouring parts of the rows can be merged.
Sums are kept as decimals, so that integers are summed exactly.

## Main definitions

* `FileQuery.Accumulator`, `FileQuery.Accumulator.start`.
* `FileQuery.Accumulator.update`, `FileQuery.Accumulator.merge`, `FileQuery.Accumulator.final`.
-/

namespace FileQuery

/-- The state of an aggregate call between rows. -/
inductive Accumulator where
  /-- The number of rows, or of values other than null. -/
  | count (allRows : Bool) (n : Nat)
  /-- The sum, and whether a floating-point number is part of it. -/
  | sum (total : Decimal) (float : Bool)
  | min (best : Option Value)
  | max (best : Option Value)
  | average (total : Decimal) (n : Nat)
  deriving DecidableEq

/-- Why values cannot be folded. -/
inductive FoldError where
  | notNumeric (f : AggregateFunction) (got : Value)
  /-- A floating-point number that is no decimal. -/
  | unrepresentable (f : AggregateFunction) (x : Binary64)
  | overflow
  | comparison (cause : CompareError)
  | merge (a b : Accumulator)
  deriving DecidableEq

namespace Accumulator

/-- The value kept by a minimum or maximum in reports. -/
def describeBest : Option Value → String
  | none => "None"
  | some v => s!"Some({v.describe})"

/-- The form in reports about accumulators. -/
def describe : Accumulator → String
  | .count allRows n => s!"Count \x7b rows: {Value.booleanText allRows}, n: {n} \x7d"
  | .sum total float =>
    s!"Sum \x7b total: {total.toText}, float: {Value.booleanText float} \x7d"
  | .min best => s!"Min({describeBest best})"
  | .max best => s!"Max({describeBest best})"
  | .average total n => s!"Avg \x7b total: {total.toText}, n: {n} \x7d"

/-- The accumulator of a function before the first row. A count without arguments counts rows. -/
def start (f : AggregateFunction) (args : Nat) : Accumulator :=
  match f with
  | .count => .count (args == 0) 0
  | .sum => .sum .zero false
  | .min => .min none
  | .max => .max none
  | .average => .average .zero 0

end Accumulator

def FoldError.message : FoldError → String
  | .notNumeric f v => s!"{f.canonicalName} expects numeric values, got {v.typeName}"
  | .unrepresentable f x =>
    s!"{f.canonicalName} cannot represent {FloatLayout.plain.write x}"
  | .overflow => "numeric overflow"
  | .comparison e => e.message
  | .merge a b => s!"cannot merge {a.describe} with {b.describe}"

namespace Accumulator

/-- A number as a decimal, and whether it is a floating-point number; nothing for null. -/
def term? (f : AggregateFunction) : Value → Except FoldError (Option (Decimal × Bool))
  | .null => .ok none
  | .integer n => .ok (some (.ofInt64 n, false))
  | .float x =>
    match Decimal.ofBinary? x with
    | some d => .ok (some (d, true))
    | none => .error (.unrepresentable f x)
  | v => .error (.notNumeric f v)

def addTotals (a b : Decimal) : Except FoldError Decimal :=
  match a.add? b with
  | some d => .ok d
  | none => .error .overflow

/-- The better of the value kept so far and a new one; of two that tie the first is kept. Null is
no candidate. -/
def better (wanted : Ordering) (best : Option Value) (candidate : Value) :
    Except FoldError (Option Value) :=
  match candidate, best with
  | .null, best => .ok best
  | v, none => .ok (some v)
  | v, some old => ((v.compare old).mapError .comparison).map fun o =>
      if o = some wanted then some v else some old

/-- The accumulator after one more row, given the values of the arguments. -/
def update (a : Accumulator) (args : List Value) : Except FoldError Accumulator :=
  let v := args.head?.getD .null
  match a with
  | .count allRows n => .ok (.count allRows (if allRows || !v.isNull then n + 1 else n))
  | .sum total float => do
    match ← term? .sum v with
    | none => return .sum total float
    | some (d, isFloat) => return .sum (← addTotals total d) (float || isFloat)
  | .average total n => do
    match ← term? .average v with
    | none => return .average total n
    | some (d, _) => return .average (← addTotals total d) (n + 1)
  | .min best => (better .lt best v).map .min
  | .max best => (better .gt best v).map .max

/-- The better of two values kept so far. -/
def betterOf (wanted : Ordering) (best : Option Value) :
    Option Value → Except FoldError (Option Value)
  | none => .ok best
  | some v => better wanted best v

/-- The accumulator of two parts of the rows, the second one behind the first. -/
def merge (a b : Accumulator) : Except FoldError Accumulator :=
  match a, b with
  | .count allRows m, .count _ n => .ok (.count allRows (m + n))
  | .sum s f, .sum t g => (addTotals s t).map fun u => .sum u (f || g)
  | .average s m, .average t n => (addTotals s t).map fun u => .average u (m + n)
  | .min x, .min y => (betterOf .lt x y).map .min
  | .max x, .max y => (betterOf .gt x y).map .max
  | a, b => .error (.merge a b)

/-- The value after the last row. A sum is an integer if all its terms are and it fits. Without
values the average, the minimum and the maximum are null. -/
def final : Accumulator → Value
  | .count _ n => .integer (.ofNat n)
  | .sum total float =>
    match if float then none else total.toInt64? with
    | some n => .integer n
    | none => .float total.toBinary
  | .average total n => ((total.divNat? n).map fun d => Value.float d.toBinary).getD .null
  | .min best => best.getD .null
  | .max best => best.getD .null

end Accumulator

end FileQuery
