import FileQuery.Proofs.Run.Grouping
import FileQuery.Proofs.Run.Selection

/-!
# Aggregate runs in a grouping

How entries are cut into segments and in which order the segments are merged is left to the run. The
table of an aggregate run is therefore stated for any grouping: the summary of the grouping, and one
row of final values after its last row. The sequential run is the case of one segment, the parallel
run that of short segments which are merged from left to right.

## Main definitions

* `FileQuery.RunOptions.grouping`: the grouping of a sequential or a parallel run.
* `FileQuery.Query.groupedTable`: the table of a run in any grouping.

## Main results

* `FileQuery.RunOptions.items_grouping`: no entry is lost or moved.
* `FileQuery.Query.toOption_run`: a run has the table of its grouping, or both fail.
-/

namespace FileQuery

/-- The grouping in which a run folds entries. -/
def RunOptions.grouping (o : RunOptions) (es : List Entry) : Grouping Entry :=
  if o.parallel then Query.mergedFrom (.segment []) (Query.segments Query.segmentLength es)
  else .segment es

theorem RunOptions.items_grouping (o : RunOptions) (es : List Entry) :
    (o.grouping es).items = es := by
  rw [grouping]
  split
  · rw [Query.items_mergedFrom, Query.flatten_segments, Grouping.items, List.nil_append]
  · rfl

namespace Query

variable [PatternEngine] {q : Query} {c : Catalog} {env : Environment} {o : RunOptions} {t : Tree}

/-- The rows of an aggregate query after a summary: one, unless the limit is zero. -/
def summaryRows (q : Query) (strict : Bool) (s : Summary) : Report (List (List Value)) := do
  let row ← finalRow strict (s.last.getD .unknown) s.finals q.projections
  return if q.limit = some 0 then [] else [row]

/-- The table of an aggregate run that folds its entries in a grouping. -/
def groupedTable (q : Query) (c : Catalog) (strict : Bool) (t : Tree) (g : Grouping Entry) :
    Except QueryError ResultTable :=
  (q.summarizeGroups strict t g >>= fun s => (q.summaryRows strict s).outcome).map (q.tableOf c)

/-- Events aside, a run summarizes its grouping. -/
theorem toOption_summary (visits : List Visit) :
    (if o.parallel then q.summarizeSegments o.strict t visits
      else q.summarize o.strict t visits).outcome.toOption =
      (q.summarizeGroups o.strict t (o.grouping (visits.map Visit.entry))).toOption := by
  rw [RunOptions.grouping]
  cases o.parallel with
  | true => exact toOption_summarizeSegments visits
  | false => exact toOption_summarize visits

/-- Events aside, the rows of an aggregate run come from the summary of its grouping. -/
theorem toOption_aggregateRows (visits : List Visit) :
    (q.aggregateRows o t visits).outcome.toOption.map Prod.fst =
      (q.summarizeGroups o.strict t (o.grouping (visits.map Visit.entry))).toOption.bind
        fun s => (q.summaryRows o.strict s).outcome.toOption := by
  rw [← toOption_summary, aggregateRows]
  cases o.parallel <;>
    · simp only [Bool.false_eq_true, if_false, if_true, Report.outcome_bind, Except.toOption_bind,
        Option.map_bind, Function.comp_def, summaryRows]
      rfl

/-- The table of an aggregate run is that of its grouping, or both fail. -/
theorem toOption_run (h : q.isAggregate = true) {visits : List Visit}
    (hvisits : q.visited env o = .ok visits) :
    (q.run c env o).outcome.toOption = (q.groupedTable c o.strict env.tree
      (o.grouping (visits.map Visit.entry))).toOption := by
  have hrows : q.rowsOf o env.tree visits = q.aggregateRows o env.tree visits := by
    rw [rowsOf, h]
    rfl
  calc (q.run c env o).outcome.toOption
      = ((q.aggregateRows o env.tree visits).outcome.toOption.map Prod.fst).map (q.tableOf c) := by
        rw [outcome_run_of_visited hvisits, hrows, Except.toOption_map, Option.map_map]
        rfl
    _ = _ := by
        rw [toOption_aggregateRows, groupedTable, Except.toOption_map, Except.toOption_bind]

end Query

end FileQuery
