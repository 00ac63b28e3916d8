import FileQuery.Proofs.Aggregate.Extremes
import FileQuery.Proofs.Run.Filters
import FileQuery.Proofs.Run.GroupedRun

/-!
# Aggregates of the values that a query shows

A query that shows the values of an expression and a query that folds them see the same entries and
the same values, null where the expression has none. So the aggregates can be read off the shown
values: a count is their number, with or without those that are null, and if the others have one
rank the minimum and the maximum are first values in an order.

Such calls can be folded in parts. The number of parts and the order in which they are merged then
do not matter, nor does the number of entries.

## Main definitions

* `FileQuery.AggregateCall.Splits`: calls that can be folded in parts.
* `FileQuery.Query.single`: a query with one projection.
* `FileQuery.Query.ShowsTotal`: a result that is a single value.

## Main results

* `FileQuery.Query.toOption_summarizeGroups_lenient`: groupings where calls can be folded in parts.
* `FileQuery.Query.showsTotal_single`: aggregates and the values that they are about.
-/

namespace FileQuery

/-! ### Calls folded in parts -/

namespace AggregateCall

variable [PatternEngine] {S : Set Row} {f : AggregateFunction} {args : List Expr} {x : Expr}
  {rows : List Row}

/-- Rows of a set may be folded in two parts: the merged accumulator is that of all rows, or both
ways fail. -/
def Splits (c : AggregateCall) (S : Set Row) : Prop :=
  ∀ rs ss, (∀ r ∈ rs, r ∈ S) → (∀ r ∈ ss, r ∈ S) →
    ((c.folded rs).toOption.bind fun a =>
      (c.folded ss).toOption.bind fun b => (a.merge b).toOption) = (c.folded (rs ++ ss)).toOption

/-- Whether a count with given arguments takes notice of a row. -/
def counts (args : List Expr) (row : Row) : Bool :=
  args.length == 0 || !((args.map (Expr.valueOrNull row [])).head?.getD .null).isNull

/-- A count never fails. -/
theorem folded_count (args : List Expr) (rows : List Row) :
    (AggregateCall.mk .count args).folded rows =
      .ok (.count (args.length == 0) (rows.countP (counts args))) := by
  induction rows using List.reverseRecOn with
  | nil => rfl
  | append_singleton rows row ih =>
    rw [folded_concat, ih, List.countP_append, List.countP_singleton]
    change Except.ok (Accumulator.count _ (if counts args row then _ else _)) = _
    split <;> rfl

theorem splits_count (args : List Expr) (S : Set Row) :
    (AggregateCall.mk .count args).Splits S := by
  intro rs ss _ _
  rw [folded_count, folded_count, folded_count, List.countP_append]
  rfl

/-- A call with one argument folds its values. -/
theorem folded_singleton (f : AggregateFunction) (x : Expr) (rows : List Row) :
    (AggregateCall.mk f [x]).folded rows =
      Accumulator.ofValues f (rows.map fun row => x.valueOrNull row []) := by
  rw [Accumulator.ofValues, Accumulator.foldAll, List.foldlM_map]
  rfl

/-- Minima and maxima of values of one rank can be folded in parts. -/
theorem splits_best (hf : f = .min ∨ f = .max)
    (h : Accumulator.OneRank (rows.map fun row => x.valueOrNull row [])) :
    (AggregateCall.mk f [x]).Splits {row | row ∈ rows} := by
  intro rs ss hrs hss
  have hmem : ∀ {part : List Row}, (∀ r ∈ part, r ∈ rows) →
      ∀ v ∈ part.map fun row => x.valueOrNull row [],
        v ∈ rows.map fun row => x.valueOrNull row [] := by
    intro part hpart v hv
    obtain ⟨row, hrow, rfl⟩ := List.mem_map.1 hv
    exact List.mem_map_of_mem (hpart row hrow)
  have hparts := Accumulator.toOption_ofParts_best hf (rs.map fun row => x.valueOrNull row [])
    (ss.map fun row => x.valueOrNull row [])
  rw [Accumulator.bestOf_append (Accumulator.wantedOf_ne_eq f) h.comparesBy (hmem hrs) (hmem hss),
    ← Except.toOption_map, ← Accumulator.ofValues_best hf, ← List.map_append, ← folded_singleton,
    Accumulator.ofParts] at hparts
  simpa only [Except.toOption_bind, folded_singleton] using hparts

end AggregateCall

theorem Summary.toOption_mergeAll {calls : List AggregateCall}
    (F G : AggregateCall → Option Accumulator) :
    ((calls.mapM F).bind fun as => (calls.mapM G).bind fun bs => (mergeAll calls as bs).toOption) =
      calls.mapM fun c => (F c).bind fun a => (G c).bind fun b => (a.merge b).toOption := by
  induction calls with
  | nil => rfl
  | cons c cs ih =>
    rw [List.mapM_cons, List.mapM_cons, List.mapM_cons, ← ih]
    cases F c <;> cases cs.mapM F <;> cases G c <;> cases cs.mapM G <;>
      simp [mergeAll_cons, consBoth]

namespace Query

variable {q : Query} {t : Tree} {x : Expr} {source : String} {p : Option Expr} {c : Catalog}
  {env : Environment} {o : RunOptions}

section

variable [PatternEngine]

/-- Where errors are let pass and all calls can be folded in parts, a grouping has the summary of
its items. -/
theorem toOption_summarizeGroups_lenient {S : Set Row}
    (hsplits : ∀ c ∈ q.aggregateCalls, c.Splits S) {g : Grouping Entry}
    (hS : ∀ row ∈ q.keptRows t g.items, row ∈ S) :
    (q.summarizeGroups false t g).toOption = q.summaryOf? false t g.items := by
  induction g with
  | segment es => rfl
  | merge l r ihl ihr =>
    have hentries : q.keptEntries t (l.items ++ r.items) =
      q.keptEntries t l.items ++ q.keptEntries t r.items := List.filter_append _ _
    have hrows : q.keptRows t (l.items ++ r.items) =
        q.keptRows t l.items ++ q.keptRows t r.items := by
      rw [keptRows, hentries, List.map_append]
      rfl
    rw [Grouping.items, hrows] at hS
    obtain ⟨hl, hr⟩ := List.forall_mem_append.1 hS
    have hmerged : (q.aggregateCalls.mapM fun c : AggregateCall =>
        (c.folded (q.keptRows t (l.items ++ r.items))).toOption) =
        q.aggregateCalls.mapM fun c => (c.folded (q.keptRows t l.items)).toOption.bind fun a =>
          (c.folded (q.keptRows t r.items)).toOption.bind fun b => (a.merge b).toOption := by
      refine mapM_congr fun c hc => ?_
      rw [hrows, hsplits c hc _ _ hl hr]
    rw [toOption_summarizeGroups_merge, ihl hl, ihr hr, Grouping.items, summaryOf?_lenient,
      summaryOf?_lenient, summaryOf?_lenient, hmerged, ← Summary.toOption_mergeAll, hentries,
      List.getLast?_append]
    simp only [Option.bind_map, Option.map_bind, Function.comp_def, toOption_merge, Option.map_or]

/-! ### Queries with one projection -/

/-- The query `select x from source where p`. -/
def single (x : Expr) (source : String) (p : Option Expr) : Query :=
  ⟨[⟨x, none⟩], source, p, [], none⟩

/-- The query `select f(args) from source where p`. -/
def totalling (f : AggregateFunction) (args : List Expr) (source : String) (p : Option Expr) :
    Query :=
  single (.call (.aggregate f) args) source p

/-- The result of an aggregate query is a single value, however its entries are grouped. -/
def ShowsTotal (q : Query) (c : Catalog) (env : Environment) (o : RunOptions) (v : Value) : Prop :=
  q.resultRows c env o = .ok [[v]] ∧
  ∀ visits, q.visited env o = .ok visits → ∀ g : Grouping Entry, g.items = visits.map Visit.entry →
    (q.groupedTable c o.strict env.tree g).map ResultTable.rows = .ok [[v]]

/-- One call that can be folded in parts has the total of all rows in any grouping. -/
theorem toOption_groupedTable_totalling {f : AggregateFunction} {args : List Expr}
    {g : Grouping Entry} {v : Value}
    (hsplits : (AggregateCall.mk f args).Splits
      {row | row ∈ (totalling f args source p).keptRows t g.items})
    (htotal : (((AggregateCall.mk f args).folded
      ((totalling f args source p).keptRows t g.items)).map Accumulator.final).toOption = some v) :
    (((totalling f args source p).groupedTable c false t g).map ResultTable.rows).toOption =
      some [[v]] := by
  rw [Except.toOption_map, Option.map_eq_some_iff] at htotal
  obtain ⟨a, ha, rfl⟩ := htotal
  have htotals : (totalling f args source p).aggregateCalls.mapM (fun c : AggregateCall =>
      (c.folded ((totalling f args source p).keptRows t g.items)).toOption) = some [a] := by
    change List.mapM _ [AggregateCall.mk f args] = _
    rw [List.mapM_cons, List.mapM_nil, ha]
    rfl
  have hsummary := toOption_summarizeGroups_lenient (q := totalling f args source p)
    (List.forall_mem_singleton.2 hsplits) fun _ hrow => hrow
  have hlast (row : Row) : (finalRow false row [a.final]
      (totalling f args source p).projections).outcome = .ok [a.final] :=
    outcome_finalRow (fun _ => a.final) row (totalling f args source p).projections
  rw [summaryOf?_lenient, htotals] at hsummary
  rw [groupedTable, Except.toOption_map, Except.toOption_map, Except.toOption_bind, hsummary]
  simp only [Option.map_some, Option.bind_some, summaryRows, Summary.finals, Report.outcome_bind,
    List.map_singleton, hlast]
  rfl

/-- What holds in every grouping is what a run shows. -/
theorem showsTotal_of_groupedTable (h : q.isAggregate = true) {visits : List Visit} {v : Value}
    (hvisits : q.visited env o = .ok visits)
    (hgroups : ∀ g : Grouping Entry, g.items = visits.map Visit.entry →
      ((q.groupedTable c o.strict env.tree g).map ResultTable.rows).toOption = some [[v]]) :
    q.ShowsTotal c env o v := by
  have hok {r : Except QueryError (List (List Value))} (hr : r.toOption = some [[v]]) :
      r = .ok [[v]] := by
    cases r with
    | error cause => cases hr
    | ok rows => exact congrArg Except.ok (Option.some.inj hr)
  refine ⟨hok ?_, fun visits' hvisits' g hg => ?_⟩
  · rw [resultRows, Except.toOption_map, toOption_run h hvisits, ← Except.toOption_map]
    exact hgroups _ (o.items_grouping _)
  · obtain rfl := Except.ok.inj (hvisits.symm.trans hvisits')
    exact hok (hgroups g hg)

/-! ### Values that a query shows -/

/-- The values of an expression on the entries that are kept, in the order of the walk. -/
def shown (x : Expr) (source : String) (p : Option Expr) (t : Tree) (visits : List Visit) :
    List Value :=
  ((single x source p).keptRows t (visits.map Visit.entry)).map fun row => x.valueOrNull row []

theorem walkedRows_single (visits : List Visit) :
    (single x source p).walkedRows t visits = (shown x source p t visits).map ([·]) := by
  have hkept : (single x source p).kept t visits =
      (single x source p).keptEntries t (visits.map Visit.entry) :=
    List.filter_congr fun _ _ => keepsEntry_eq_accepts
  rw [walkedRows_eq, hkept, shown, keptRows, List.map_map, List.map_map]
  rfl

omit [PatternEngine] in
/-- Rows of one value are sorted as their values are. -/
theorem sortBy_singletons (d : Direction) (vs : List Value) :
    sortBy (OrderKey.compareCells [⟨1, d⟩]) (vs.map ([·])) =
      (sortBy (OrderKey.mk 1 d).compare vs).map ([·]) := by
  refine (List.map_mergeSort fun v _ w _ => ?_).symm
  exact congrArg Ordering.isLE (Ordering.then_eq).symm

/-- A call that can be folded in parts has the total of the rows that a scalar query keeps. -/
theorem showsTotal_totalling {f : AggregateFunction} {args : List Expr} {visits : List Visit}
    {rows : List Row} {v : Value} (hstrict : o.strict = false)
    (hvisits : (single x source p).visited env o = .ok visits)
    (hrows : (single x source p).keptRows env.tree (visits.map Visit.entry) = rows)
    (hsplits : (AggregateCall.mk f args).Splits {row | row ∈ rows})
    (htotal : (((AggregateCall.mk f args).folded rows).map Accumulator.final).toOption = some v) :
    (totalling f args source p).ShowsTotal c env o v := by
  subst hrows
  refine showsTotal_of_groupedTable rfl hvisits fun g hg => ?_
  rw [hstrict]
  refine toOption_groupedTable_totalling ?_ ?_
  · rw [hg]
    exact hsplits
  · rw [hg]
    exact htotal

theorem showsTotal_count (args : List Expr) {visits : List Visit} (hstrict : o.strict = false)
    (hvisits : (single x source p).visited env o = .ok visits) :
    (totalling .count args source p).ShowsTotal c env o (.integer (.ofNat
      (((single x source p).keptRows env.tree (visits.map Visit.entry)).countP
        (AggregateCall.counts args)))) := by
  refine showsTotal_totalling hstrict hvisits rfl (AggregateCall.splits_count args _) ?_
  rw [AggregateCall.folded_count]
  rfl

theorem showsTotal_best {f : AggregateFunction} (hf : f = .min ∨ f = .max) {visits : List Visit}
    (hstrict : o.strict = false) (hvisits : (single x source p).visited env o = .ok visits)
    (h : Accumulator.OneRank (shown x source p env.tree visits)) :
    (totalling f [x] source p).ShowsTotal c env o
      (((sortBy (Accumulator.keyOf f).compare (shown x source p env.tree visits)).find?
        fun v => !v.isNull).getD .null) := by
  refine showsTotal_totalling hstrict hvisits rfl (AggregateCall.splits_best hf h) ?_
  rw [AggregateCall.folded_singleton]
  exact Accumulator.final_ofValues_best hf h

/-- Aggregates and the values that they are about, where errors are let pass. For an expression, a
source and a predicate, the query of the expression shows one value for each entry that is kept. The
count of rows is the number of these values and the count of the expression the number of those that
are not null. If these have one rank, the minimum is the first of them in the result that is ordered
upwards, and the maximum is the first value of the result that is ordered downwards. Both are null
if no value is shown but null. -/
theorem showsTotal_shown (x : Expr) (source : String) (p : Option Expr) (c : Catalog)
    (env : Environment) (o : RunOptions) (directory : Directory) (hx : x.hasAggregate = false)
    (hstrict : o.strict = false)
    (hopen : env.tree.open? ((single x source p).sourcePath env o) = .ok directory) :
    ∃ values ascending descending : List Value,
      (single x source p).resultRows c env o = .ok (values.map ([·])) ∧
      { single x source p with orderBy := [⟨1, .ascending⟩] }.resultRows c env o =
        .ok (ascending.map ([·])) ∧
      { single x source p with orderBy := [⟨1, .descending⟩] }.resultRows c env o =
        .ok (descending.map ([·])) ∧
      (totalling .count [] source p).ShowsTotal c env o (.integer (.ofNat values.length)) ∧
      (totalling .count [x] source p).ShowsTotal c env o
        (.integer (.ofNat (values.filter fun v => !v.isNull).length)) ∧
      (Accumulator.OneRank values →
        (totalling .min [x] source p).ShowsTotal c env o
          ((ascending.find? fun v => !v.isNull).getD .null) ∧
        (totalling .max [x] source p).ShowsTotal c env o (descending.head?.getD .null)) ∧
      ((∀ v ∈ values, v = .null) →
        (totalling .min [x] source p).ShowsTotal c env o .null ∧
        (totalling .max [x] source p).ShowsTotal c env o .null) := by
  have hvisits := visited_of_open hopen
  generalize (Walk.start o.walk ((single x source p).sourcePath env o) directory).toList = visits
    at hvisits
  have hscalar : (single x source p).isAggregate = false := by
    rw [isAggregate, single, List.any_cons, List.any_nil, hx]
    rfl
  have hordered (keys : List OrderKey) : { single x source p with orderBy := keys }.resultRows c env
      o = .ok (sortBy (OrderKey.compareCells keys)
        ((shown x source p env.tree visits).map ([·]))) := by
    rw [resultRows_sorted hscalar rfl hstrict hvisits, walkedRows_single]
  have hunordered : (single x source p).resultRows c env o =
      .ok ((shown x source p env.tree visits).map ([·])) := by
    rw [resultRows_of_visited hscalar rfl hstrict hvisits, order_of_nil rfl, walkedRows_single]
  have hmin (h : Accumulator.OneRank (shown x source p env.tree visits)) :=
    showsTotal_best (c := c) (Or.inl rfl) hstrict hvisits h
  have hmax (h : Accumulator.OneRank (shown x source p env.tree visits)) :=
    showsTotal_best (c := c) (Or.inr rfl) hstrict hvisits h
  refine ⟨shown x source p env.tree visits, _, _, hunordered,
    (hordered _).trans (congrArg Except.ok (sortBy_singletons .ascending _)),
    (hordered _).trans (congrArg Except.ok (sortBy_singletons .descending _)), ?_, ?_,
    fun h => ⟨hmin h, ?_⟩, fun h => ⟨?_, ?_⟩⟩
  · have hcount := showsTotal_count (c := c) [] hstrict hvisits
    have hall : AggregateCall.counts [] = fun _ => true := rfl
    rw [hall, List.countP_true] at hcount
    rwa [shown, List.length_map]
  · have hcount := showsTotal_count (c := c) [x] hstrict hvisits
    rwa [← List.countP_eq_length_filter, shown, List.countP_map]
  · have hfirst := Accumulator.head?_eq_find? (pairwise_sortBy (shown x source p env.tree visits))
    exact (congrArg _ hfirst).mpr (hmax h)
  · have hbest := hmin (.of_null h)
    rwa [Accumulator.find?_sortBy_of_null h] at hbest
  · have hbest := hmax (.of_null h)
    rwa [Accumulator.find?_sortBy_of_null h] at hbest

end

/-- The expression `6 / (size - 3)`, without a value on the files of size 3. -/
def sixOverExcess : Expr :=
  .binary (.arithmetic .divide) (.literal (.integer 6))
    (.binary (.arithmetic .subtract) (.column .size) (.literal (.integer 3)))

/-- Two of four entries have no value and are shown as null, which the count of rows includes. -/
theorem showsTotal_shown_smallTree :
    (totalling .count [] "." none).ShowsTotal .empty ⟨smallTree, none⟩ .everywhere (.integer 4) ∧
    (totalling .count [sixOverExcess] "." none).ShowsTotal .empty ⟨smallTree, none⟩ .everywhere
      (.integer 2) ∧
    (totalling .min [sixOverExcess] "." none).ShowsTotal .empty ⟨smallTree, none⟩ .everywhere
      (.integer (-2)) ∧
    (totalling .max [sixOverExcess] "." none).ShowsTotal .empty ⟨smallTree, none⟩ .everywhere
      (.integer 3) := by
  have hsingle (keys : List OrderKey) := resultRows_smallTree (c := .empty)
    (q := single sixOverExcess "." none) rfl rfl rfl keys
  have hrows : (single sixOverExcess "." none).resultRows .empty ⟨smallTree, none⟩ .everywhere =
      .ok ([.integer 3, .null, .integer (-2), .null].map ([·])) :=
    (hsingle []).trans (congrArg Except.ok (by decide +kernel))
  have hup : { single sixOverExcess "." none with orderBy := [⟨1, .ascending⟩] }.resultRows .empty
      ⟨smallTree, none⟩ .everywhere =
        .ok ([.null, .null, .integer (-2), .integer 3].map ([·])) :=
    (hsingle _).trans (congrArg Except.ok (by decide +kernel))
  have hdown : { single sixOverExcess "." none with orderBy := [⟨1, .descending⟩] }.resultRows
      .empty ⟨smallTree, none⟩ .everywhere =
        .ok ([.integer 3, .integer (-2), .null, .null].map ([·])) :=
    (hsingle _).trans (congrArg Except.ok (by decide +kernel))
  obtain ⟨values, ascending, descending, hvalues, hascending, hdescending, hall, hknown, hbest,
    -⟩ := showsTotal_shown sixOverExcess "." none .empty ⟨smallTree, none⟩ .everywhere
      smallTree.root rfl rfl (open?_current rfl smallTree)
  have hsingletons {vs ws : List Value} (h : (.ok (vs.map ([·])) : Except QueryError _) =
      .ok (ws.map ([·]))) : vs = ws :=
    List.map_injective_iff.2 (fun _ _ h => List.head_eq_of_cons_eq h) (Except.ok.inj h)
  obtain rfl := hsingletons (hvalues.symm.trans hrows)
  obtain rfl := hsingletons (hascending.symm.trans hup)
  obtain rfl := hsingletons (hdescending.symm.trans hdown)
  obtain ⟨hmin, hmax⟩ := hbest (by decide)
  exact ⟨hall, hknown, hmin, hmax⟩

end Query

end FileQuery
