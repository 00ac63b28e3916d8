import FileQuery.Run.Report

/-!
# Summaries of rows

A summary is what is known of the rows that an aggregate query has seen: an accumulator for each of
its aggregate calls, and the last row. Summaries of neighbouring parts of the rows can be merged.

## Main definitions

* `FileQuery.Summary`, `FileQuery.Summary.start`.
* `FileQuery.Summary.add`: one more row; `FileQuery.Summary.merge`: the rows of another summary.
* `FileQuery.valueOf`: the value of an expression, null where errors are let pass.
-/

namespace FileQuery

variable [PatternEngine]

/-- The value of an expression on a row. An error ends a strict run and counts as null otherwise;
it is reported with the path of the entry, if the row is the row of one. -/
def valueOf (strict : Bool) (row : Row) (finals : List Value) (p : Option Path) (e : Expr) :
    Report Value :=
  match e.eval row finals with
  | .ok v => pure v
  | .error cause =>
    if strict then .fail (.evaluation cause)
    else do
      Report.note (.noValue p cause)
      return .null

/-- The state of an aggregate query between rows. -/
structure Summary where
  /-- One for each aggregate call, in the order of the calls. -/
  accumulators : List Accumulator
  last : Option Row

namespace Summary

/-- The summary of no rows. -/
def start (calls : List AggregateCall) : Summary :=
  ⟨calls.map fun c => .start c.function c.args.length, none⟩

/-- Accumulators after one more row, each of them fed the arguments of its call. -/
def update (strict : Bool) (row : Row) (p : Path) :
    List AggregateCall → List Accumulator → Report (List Accumulator)
  | c :: cs, a :: as => do
    let values ← c.args.mapM (valueOf strict row [] (some p))
    let a ← Report.ofExcept ((a.update values).mapError (.aggregate c.function))
    let as ← update strict row p cs as
    return a :: as
  | _, _ => pure []

/-- The summary with the row of one more entry. -/
def add (strict : Bool) (calls : List AggregateCall) (s : Summary) (row : Row) (p : Path) :
    Report Summary := do
  let accumulators ← update strict row p calls s.accumulators
  return ⟨accumulators, some row⟩

/-- The accumulators of two parts of the rows, merged call by call. -/
def mergeAll : List AggregateCall → List Accumulator → List Accumulator →
    Except QueryError (List Accumulator)
  | c :: cs, a :: as, b :: bs => do
    let m ← (a.merge b).mapError (.aggregate c.function)
    let ms ← mergeAll cs as bs
    return m :: ms
  | _, _, _ => .ok []

/-- The summary of two parts of the rows, the second one behind the first. -/
def merge (calls : List AggregateCall) (s t : Summary) : Except QueryError Summary :=
  (mergeAll calls s.accumulators t.accumulators).map fun ms => ⟨ms, t.last.or s.last⟩

/-- The final values of the aggregate calls. -/
def finals (s : Summary) : List Value := s.accumulators.map Accumulator.final

end Summary

end FileQuery
