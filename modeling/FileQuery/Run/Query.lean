import FileQuery.Run.Summary
import FileQuery.Catalog.Basic
import FileQuery.Query.Basic
import FileQuery.Result.Table
import FileQuery.Row

/-!
# Running queries

A query is run on a tree. The entries below its source are visited; each gives a row, and the rows
for which the predicate holds are projected to the rows of the result, then ordered and cut to the
limit. Without an order the walk ends as soon as the limit is reached. An aggregate query folds its
rows into one instead.

## Main definitions

* `FileQuery.Environment`, `FileQuery.RunOptions`.
* `FileQuery.Query.keeps`, `FileQuery.Query.select`: what becomes of one entry.
* `FileQuery.OrderKey.compareRows`, `FileQuery.Query.order`.
* `FileQuery.Query.selectRows`, `FileQuery.Query.summarize`, `FileQuery.Query.finalRow`.
* `FileQuery.Query.run`, `FileQuery.runText`.
-/

namespace FileQuery

/-- Where a query is run. -/
structure Environment where
  tree : Tree
  home : Option Path

structure RunOptions where
  /-- Whether directories below the source are entered. -/
  recursive : Bool
  /-- A directory to query in place of the source. -/
  source : Option Path
  /-- Whether an expression without a value on some row ends the run. -/
  strict : Bool
  skipHidden : Bool
  /-- Whether an aggregate query folds its rows in segments that are merged afterwards. -/
  parallel : Bool
  deriving DecidableEq

def RunOptions.walk (o : RunOptions) : WalkOptions := ⟨o.recursive, o.skipHidden⟩

/-- The events of a visit by itself. -/
def Visit.events (v : Visit) : List Event :=
  match v.descent with
  | .unreadable cause => [.unreadable v.entry.path cause]
  | .unlistable cause => [.unlistable v.entry.path cause]
  | .enters => [.entering v.entry.path]
  | .stays => []

/-! ### Order -/

namespace OrderKey

/-- The order of two values under a key. -/
def compare (k : OrderKey) (a b : Value) : Ordering :=
  match k.direction with
  | .ascending => a.sortCompare b
  | .descending => (a.sortCompare b).swap

/-- The order of two rows: the first key that tells them apart decides. -/
def compareRows (a b : List Value) : List OrderKey → Ordering
  | [] => .eq
  | k :: ks =>
    let first := match a[k.column - 1]?, b[k.column - 1]? with
      | some x, some y => k.compare x y
      | _, _ => .eq
    first.then (compareRows a b ks)

end OrderKey

namespace Query

variable [PatternEngine]

/-- The row of an entry, with the attributes that the query reads. -/
def rowOf (q : Query) (t : Tree) (e : Entry) : Row :=
  (Row.ofEntry t.location e).restrict q.referencedAttributes

/-- Whether the predicate keeps the row of an entry. Where it has no value, a strict run ends and
any other leaves the row out. -/
def keeps (q : Query) (strict : Bool) (row : Row) (p : Path) : Report Bool :=
  match q.predicate with
  | none => pure true
  | some e =>
    match e.holds row with
    | .ok b => pure b
    | .error cause =>
      if strict then .fail (.evaluation cause)
      else do
        Report.note (.skipping p cause)
        return false

/-- The values that the projections have on the row of an entry; nothing if it is not kept. -/
def select (q : Query) (strict : Bool) (t : Tree) (e : Entry) : Report (Option (List Value)) := do
  let row := q.rowOf t e
  if ← q.keeps strict row e.path then
    let values ← q.projections.mapM fun c => valueOf strict row [] (some e.path) c.expr
    return some values
  else return none

/-- Rows in the order of the query; rows that tie stay as they are. -/
def order (q : Query) (rows : List (List Value)) : List (List Value) :=
  rows.mergeSort fun a b => OrderKey.compareRows a b q.orderBy != .gt

/-- The rows of the first entries that are kept, at most `room` and one more, with the number of
entries visited on the way. -/
def selectFirst (q : Query) (strict : Bool) (t : Tree) (limit : Nat) (room : Nat) :
    List Visit → Report (List (List Value) × Nat)
  | [] => pure ([], 0)
  | v :: vs => do
    Report.noteAll v.events
    match ← q.select strict t v.entry with
    | none =>
      let (rows, visited) ← selectFirst q strict t limit room vs
      return (rows, visited + 1)
    | some row =>
      match room with
      | 0 =>
        Report.note (.limitReached limit)
        return ([row], 1)
      | room + 1 =>
        let (rows, visited) ← selectFirst q strict t limit room vs
        return (row :: rows, visited + 1)

/-- The rows of a query without aggregates, with the number of entries visited. -/
def selectRows (q : Query) (strict : Bool) (t : Tree) (visits : List Visit) :
    Report (List (List Value) × Nat) :=
  match q.limit, q.orderBy with
  | some 0, [] => pure ([], 0)
  | some (room + 1), [] => q.selectFirst strict t (room + 1) room visits
  | _, _ => do
    Report.noteAll (visits.flatMap Visit.events)
    let selected ← visits.mapM fun v => q.select strict t v.entry
    let rows := q.order (selected.filterMap id)
    return (q.limit.elim rows rows.take, visits.length)

/-! ### Aggregates -/

/-- The aggregate calls of the projections, in the order of the text. -/
def aggregateCalls (q : Query) : List AggregateCall :=
  q.projections.flatMap fun p => p.expr.aggregateCalls

/-- A summary after the row of one more entry, if that is kept. -/
def fold (q : Query) (strict : Bool) (t : Tree) (s : Summary) (e : Entry) : Report Summary := do
  let row := q.rowOf t e
  if ← q.keeps strict row e.path then s.add strict q.aggregateCalls row e.path else return s

/-- The summary of entries in one go. -/
def summarize (q : Query) (strict : Bool) (t : Tree) (visits : List Visit) : Report Summary :=
  visits.foldlM (fun s v => do Report.noteAll v.events; q.fold strict t s v.entry)
    (.start q.aggregateCalls)

/-- A list cut into segments of `n + 1` items. -/
def segments {α : Type} (n : Nat) (xs : List α) : List (List α) :=
  match xs with
  | [] => []
  | x :: xs => (x :: xs.take n) :: segments n (xs.drop n)
termination_by xs.length
decreasing_by
  rw [List.length_drop, List.length_cons]
  omega

/-- The number of entries in a segment, less one. -/
def segmentLength : Nat := 255

/-- The summary of entries in segments that are merged. -/
def summarizeSegments (q : Query) (strict : Bool) (t : Tree) (visits : List Visit) :
    Report Summary := do
  Report.noteAll (visits.flatMap Visit.events)
  let entries := visits.map Visit.entry
  let parts ← (segments segmentLength entries).mapM fun es =>
    es.foldlM (q.fold strict t) (.start q.aggregateCalls)
  Report.ofExcept (parts.foldlM (Summary.merge q.aggregateCalls) (.start q.aggregateCalls))

/-- The values of the projections after the last row, each of them with the final values of its
aggregate calls. -/
def finalRow (strict : Bool) (row : Row) : List Value → List Projection → Report (List Value)
  | _, [] => pure []
  | finals, p :: ps => do
    let v ← valueOf strict row finals none p.expr
    let vs ← finalRow strict row (finals.drop p.expr.callCount) ps
    return v :: vs

/-- The row of an aggregate query, unless the limit is zero. -/
def aggregateRows (q : Query) (o : RunOptions) (t : Tree) (visits : List Visit) :
    Report (List (List Value) × Nat) := do
  let s ← if o.parallel then q.summarizeSegments o.strict t visits
    else q.summarize o.strict t visits
  let row ← finalRow o.strict (s.last.getD .unknown) s.finals q.projections
  return (if q.limit = some 0 then [] else [row], visits.length)

/-! ### Runs -/

/-- The kind of a column: of its first value other than null, or else of the attribute that it
shows. -/
def kindOf? (c : Catalog) (p : Projection) (i : Nat) (rows : List (List Value)) : Option Kind :=
  match rows.findSome? fun row => row[i]?.bind Value.kind?, p.expr with
  | some k, _ => some k
  | none, .column a => (c.entryOf? a).map AttributeEntry.kind
  | none, _ => none

/-- The columns of a result with the given rows. -/
def columns (c : Catalog) (q : Query) (rows : List (List Value)) : List Column :=
  q.projections.mapIdx fun i p => ⟨p.header, kindOf? c p i rows⟩

/-- The directory that a query is about. -/
def sourcePath (q : Query) (env : Environment) (o : RunOptions) : Path :=
  o.source.getD (Path.ofSource env.home q.source)

/-- Runs a query. -/
def run (c : Catalog) (env : Environment) (o : RunOptions) (q : Query) : Report ResultTable := do
  let source := q.sourcePath env o
  let directory ← Report.ofExcept ((env.tree.open? source).mapError (.source source))
  let visits := (Walk.start o.walk source directory).toList
  let (rows, visited) ← if q.isAggregate then q.aggregateRows o env.tree visits
    else q.selectRows o.strict env.tree visits
  Report.note (.finished source visited rows.length)
  return ⟨q.columns c rows, rows⟩

end Query

/-- Reads a query and runs it. -/
def runText [PatternEngine] (c : Catalog) (env : Environment) (o : RunOptions) (text : String) :
    Report ResultTable := do
  let q ← Report.ofExcept ((Query.parse c text).mapError .malformed)
  q.run c env o

end FileQuery
