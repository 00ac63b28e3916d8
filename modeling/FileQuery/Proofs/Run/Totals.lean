import FileQuery.Proofs.Catalog.Standard
import FileQuery.Proofs.Evaluate.Substitution
import FileQuery.Proofs.Run.Events
import FileQuery.Proofs.Run.Grouping
import FileQuery.Proofs.Run.Selection

/-!
# The row of an aggregate query

An aggregate query has one row. Each of its values is that of a projection on the last row kept, in
which every outermost aggregate call counts as a literal: the total of this call over the rows kept,
folded by itself and in the order of the walk. So the accumulators of a query do not get in each
other's way, also where calls read alike, and the final values reach the calls they belong to.

The program folds all calls in one pass, reads only the attributes that the query names, and hands
final values in by position. None of this shows in the row.

## Main definitions

* `FileQuery.Query.keptEntries`: the entries on which the predicate holds.
* `FileQuery.AggregateCall.folded`: the total of one call by itself.

## Main results

* `FileQuery.Query.summaryOf?_lenient`: one pass is as good as one fold for each call.
* `FileQuery.Query.outcome_finalRow`: the last pass puts totals in place of calls.
* `FileQuery.Query.exists_aggregateRows_iff`: when a sequential run has a row.
* `FileQuery.Query.aggregateRows_totals`: the row of an aggregate query.
-/

namespace FileQuery

/-! ### Loops -/

/-- A loop depends on what its step does with the items only. -/
theorem mapM_congr {α β : Type} {m : Type → Type} [Monad m] [LawfulMonad m] {f g : α → m β}
    {xs : List α} (h : ∀ x ∈ xs, f x = g x) : xs.mapM f = xs.mapM g := by
  induction xs with
  | nil => rfl
  | cons x xs ih =>
    obtain ⟨hx, hxs⟩ := List.forall_mem_cons.1 h
    rw [List.mapM_cons, List.mapM_cons, hx, ih hxs]

/-- A loop that succeeds has a result for each item. -/
theorem exists_of_mapM {α β : Type} {f : α → Option β} {xs : List α} {ys : List β}
    (h : xs.mapM f = some ys) : ∀ x ∈ xs, ∃ y, f x = some y := by
  induction xs generalizing ys with
  | nil => exact fun _ h => nomatch h
  | cons x xs ih =>
    rw [List.mapM_cons] at h
    obtain ⟨y, hy, h⟩ := Option.bind_eq_some_iff.1 h
    obtain ⟨zs, hzs, -⟩ := Option.bind_eq_some_iff.1 h
    exact List.forall_mem_cons.2 ⟨⟨y, hy⟩, ih hzs⟩

/-! ### Calls in an expression -/

namespace Expr

variable {c : AggregateCall} {e : Expr} {es : List Expr}

theorem mem_aggregateCallsList :
    c ∈ aggregateCallsList es ↔ ∃ e ∈ es, c ∈ e.aggregateCalls := by
  induction es with
  | nil => simp [aggregateCallsList]
  | cons e es ih => simp [aggregateCallsList, ih]

/-- Outermost aggregate calls are calls. -/
theorem mem_calls_of_mem_aggregateCalls (h : c ∈ e.aggregateCalls) :
    (.aggregate c.function, c.args) ∈ e.calls := by
  induction e using Expr.induct with
  | column a => cases h
  | literal v => cases h
  | call f args ih =>
    cases f with
    | aggregate f =>
      obtain rfl := List.mem_singleton.1 h
      exact List.mem_cons_self
    | scalar f =>
      obtain ⟨e, he, hc⟩ := mem_aggregateCallsList.1 h
      exact List.mem_cons_of_mem _ (mem_callsList.2 ⟨e, he, ih e he hc⟩)
  | binary op l r ihl ihr =>
    rcases List.mem_append.1 h with h | h
    · exact List.mem_append_left _ (ihl h)
    · exact List.mem_append_right _ (ihr h)
  | unary op e ih => exact ih h

/-- What the arguments of a call read is read. -/
theorem mem_columns_of_mem_calls {k : Function × List Expr} (hk : k ∈ e.calls) {x : Expr}
    (hx : x ∈ k.2) {a : Attribute} (ha : a ∈ x.columns) : a ∈ e.columns := by
  induction e using Expr.induct with
  | column a => cases hk
  | literal v => cases hk
  | call f args ih =>
    rcases List.mem_cons.1 hk with rfl | hk
    · exact mem_columnsList.2 ⟨x, hx, ha⟩
    · obtain ⟨e, he, hk⟩ := mem_callsList.1 hk
      exact mem_columnsList.2 ⟨e, he, ih e he hk⟩
  | binary op l r ihl ihr =>
    rcases List.mem_append.1 hk with hk | hk
    · exact List.mem_append_left _ (ihl hk)
    · exact List.mem_append_right _ (ihr hk)
  | unary op e ih => exact ih hk

/-- An expression without aggregates asks for no final values. -/
theorem callCount_eq_zero (h : e.hasAggregate = false) : e.callCount = 0 := by
  refine List.length_eq_zero_iff.2 (List.eq_nil_iff_forall_not_mem.2 fun c hc => ?_)
  cases hasAggregate_eq_false.1 h _ (mem_calls_of_mem_aggregateCalls hc)

variable [PatternEngine]

theorem valueOrNull_congr {row row' : Row} (h : ∀ a ∈ e.columns, row a = row' a)
    (finals : List Value) : e.valueOrNull row finals = e.valueOrNull row' finals := by
  rw [valueOrNull, valueOrNull, eval_congr h]

/-- Final values that are handed in by position count as literals in place of the calls. -/
theorem valueOrNull_totals (total : AggregateCall → Value) (row : Row) (e : Expr)
    (rest : List Value) : e.valueOrNull row (e.aggregateCalls.map total ++ rest) =
      (e.withTotals total).valueOrNull row [] := by
  rw [valueOrNull, valueOrNull, toOption_eval]

end Expr

/-! ### Totals of one call -/

/-- The accumulator of a call after some rows, null standing for an argument without a value. -/
def AggregateCall.folded [PatternEngine] (c : AggregateCall) (rows : List Row) :
    Except FoldError Accumulator :=
  rows.foldlM (fun a row => a.update (c.args.map (Expr.valueOrNull row [])))
    (.start c.function c.args.length)

theorem AggregateCall.folded_concat [PatternEngine] (c : AggregateCall) (rows : List Row)
    (row : Row) :
    c.folded (rows ++ [row]) =
      c.folded rows >>= fun a => a.update (c.args.map (Expr.valueOrNull row [])) := by
  rw [folded, folded, List.foldlM_append]
  simp only [List.foldlM_cons, List.foldlM_nil, bind_pure]

namespace Summary

variable {row : Row} {p : Path} {calls : List AggregateCall}

theorem feed?_lenient [PatternEngine] (c : AggregateCall) : feed? false row p c =
    some ((c.args.map (Expr.valueOrNull row [])).head?.getD .null) := by
  simp only [feed?, Report.outcome_mapM, outcome_valueOf, Except.mapM_ok]
  rfl

/-- One row updates every accumulator as its call alone would. -/
theorem toOption_update [PatternEngine] (F : AggregateCall → Option Accumulator) :
    ((calls.mapM F).bind fun as => (update false row p calls as).outcome.toOption) =
      calls.mapM fun c => (F c).bind fun a =>
        (a.update (c.args.map (Expr.valueOrNull row []))).toOption := by
  induction calls with
  | nil => rfl
  | cons c cs ih =>
    rw [List.mapM_cons, List.mapM_cons, ← ih]
    change (consBoth (F c) (cs.mapM F)).bind _ = consBoth _ _
    rw [consBoth_bind (update_cons c cs), feed?_lenient]
    rfl

end Summary

namespace Query

variable {q : Query} {t : Tree} {e : Entry}

/-! ### Attributes that a query reads -/

theorem mem_referencedAttributes {a : Attribute} :
    a ∈ q.referencedAttributes ↔ ∃ e ∈ q.expressions, a ∈ e.columns := by
  rw [referencedAttributes, List.mem_eraseDups, expressions]
  cases q.predicate <;> simp [or_and_right, exists_or]

/-- Expressions that read what the query reads do not see that other attributes are left out. -/
theorem rowOf_eq {x : Expr} (h : ∀ a ∈ x.columns, a ∈ q.referencedAttributes) :
    ∀ a ∈ x.columns, q.rowOf t e a = Row.ofEntry t.location e a :=
  fun a ha => Row.restrict_of_mem _ (h a ha)

theorem columns_subset {x : Expr} (hx : x ∈ q.expressions) :
    ∀ a ∈ x.columns, a ∈ q.referencedAttributes :=
  fun _ ha => mem_referencedAttributes.2 ⟨x, hx, ha⟩

theorem mem_expressions_of_projection {p : Projection} (hp : p ∈ q.projections) :
    p.expr ∈ q.expressions :=
  List.mem_append_left _ (List.mem_map_of_mem hp)

section

variable [PatternEngine]

theorem accepts_rowOf : q.accepts (q.rowOf t e) = q.accepts (Row.ofEntry t.location e) := by
  rw [accepts, accepts]
  cases hpredicate : q.predicate with
  | none => rfl
  | some x =>
    have hx : x ∈ q.expressions := List.mem_append_right _ (by simp [hpredicate])
    rw [Option.all_some, Option.all_some, Expr.holds, Expr.holds,
      Expr.eval_congr (rowOf_eq (columns_subset hx))]

theorem valueOrNull_args {c : AggregateCall} (hc : c ∈ q.aggregateCalls) :
    c.args.map (Expr.valueOrNull (q.rowOf t e) []) =
      c.args.map (Expr.valueOrNull (Row.ofEntry t.location e) []) := by
  obtain ⟨p, hp, hc⟩ := List.mem_flatMap.1 hc
  refine List.map_congr_left fun x hx => Expr.valueOrNull_congr (rowOf_eq fun a ha => ?_) []
  exact columns_subset (mem_expressions_of_projection hp) a
    (Expr.mem_columns_of_mem_calls (Expr.mem_calls_of_mem_aggregateCalls hc) hx ha)

/-! ### The pass over the entries -/

/-- The entries on which the predicate holds; one on which it has no value is left out. -/
def keptEntries (q : Query) (t : Tree) (es : List Entry) : List Entry :=
  es.filter fun e => q.accepts (Row.ofEntry t.location e)

/-- The rows of the entries on which the predicate holds. -/
def keptRows (q : Query) (t : Tree) (es : List Entry) : List Row :=
  (q.keptEntries t es).map (Row.ofEntry t.location)

theorem keptEntries_of_accepted (h : q.accepts (Row.ofEntry t.location e) = true)
    (es : List Entry) : q.keptEntries t (es ++ [e]) = q.keptEntries t es ++ [e] := by
  rw [keptEntries, List.filter_append, List.filter_singleton, h]
  rfl

theorem keptEntries_of_rejected (h : q.accepts (Row.ofEntry t.location e) = false)
    (es : List Entry) : q.keptEntries t (es ++ [e]) = q.keptEntries t es := by
  rw [keptEntries, List.filter_append, List.filter_singleton, h]
  exact List.append_nil _

/-- Where errors are let pass, one pass folds each call by itself. -/
theorem summaryOf?_lenient (es : List Entry) :
    q.summaryOf? false t es =
      (q.aggregateCalls.mapM fun c : AggregateCall =>
        (c.folded (q.keptRows t es)).toOption).map fun as =>
          ⟨as, (q.keptEntries t es).getLast?.map (q.rowOf t)⟩ := by
  induction es using List.reverseRecOn with
  | nil =>
    have hstart : (q.aggregateCalls.mapM fun c : AggregateCall =>
        (c.folded (q.keptRows t [])).toOption) = some (Summary.start q.aggregateCalls).accumulators :=
      List.mapM_pure
    rw [hstart]
    rfl
  | append_singleton es e ih =>
    have hkeeps := q.outcome_keeps (q.rowOf t e) e.path
    rw [accepts_rowOf] at hkeeps
    rw [summaryOf?_concat, ih]
    cases haccepts : q.accepts (Row.ofEntry t.location e) with
    | false =>
      rw [haccepts] at hkeeps
      simp only [toOption_fold_of_dropped hkeeps, Option.bind_fun_some, keptRows,
        keptEntries_of_rejected haccepts]
    | true =>
      rw [haccepts] at hkeeps
      have hrows : q.keptRows t (es ++ [e]) = q.keptRows t es ++ [Row.ofEntry t.location e] := by
        rw [keptRows, keptEntries_of_accepted haccepts, List.map_append]
        rfl
      have hstep : (q.aggregateCalls.mapM fun c : AggregateCall =>
          (c.folded (q.keptRows t (es ++ [e]))).toOption) =
          q.aggregateCalls.mapM fun c => ((c.folded (q.keptRows t es)).toOption).bind fun a =>
            (a.update (c.args.map (Expr.valueOrNull (q.rowOf t e) []))).toOption := by
        refine mapM_congr fun c hc => ?_
        rw [hrows, AggregateCall.folded_concat, Except.toOption_bind, valueOrNull_args hc]
      rw [hstep, ← Summary.toOption_update (p := e.path), keptEntries_of_accepted haccepts,
        List.getLast?_concat]
      simp only [toOption_fold_of_kept hkeeps, Option.bind_map, Option.map_bind]
      rfl

/-- If no update fails, the pass has the total of every call and the last row that is kept. -/
theorem outcome_summarize {visits : List Visit} {total : AggregateCall → Accumulator}
    (h : ∀ c ∈ q.aggregateCalls, c.folded (q.keptRows t (visits.map Visit.entry)) = .ok (total c)) :
    (q.summarize false t visits).outcome = .ok ⟨q.aggregateCalls.map total,
      (q.keptEntries t (visits.map Visit.entry)).getLast?.map (q.rowOf t)⟩ := by
  have htotals : (q.aggregateCalls.mapM fun c : AggregateCall =>
      (c.folded (q.keptRows t (visits.map Visit.entry))).toOption) =
      some (q.aggregateCalls.map total) := by
    refine (mapM_congr (g := fun c => some (total c)) fun c hc => ?_).trans List.mapM_pure
    rw [h c hc]
    rfl
  have hoption : (q.summarize false t visits).outcome.toOption =
    q.summaryOf? false t (visits.map Visit.entry) := toOption_summarize visits
  rw [summaryOf?_lenient, htotals] at hoption
  cases hsummarize : (q.summarize false t visits).outcome with
  | error cause => rw [hsummarize] at hoption; cases hoption
  | ok s =>
    rw [hsummarize] at hoption
    exact congrArg Except.ok (Option.some.inj hoption)

/-! ### The last pass -/

/-- The last pass puts the total of each call in its place. -/
theorem outcome_finalRow (total : AggregateCall → Value) (row : Row) (ps : List Projection) :
    (finalRow false row ((ps.flatMap fun p => p.expr.aggregateCalls).map total) ps).outcome =
      .ok (ps.map fun p => (p.expr.withTotals total).valueOrNull row []) := by
  induction ps with
  | nil => rfl
  | cons p ps ih =>
    rw [List.flatMap_cons, List.map_append, finalRow, Report.outcome_bind, outcome_valueOf,
      Expr.valueOrNull_totals, Expr.callCount, List.drop_left' (List.length_map _)]
    change (Report.outcome (_ >>= _)) = _
    rw [Report.outcome_bind, ih]
    rfl

/-- Projections have the same values on the row with all attributes. -/
theorem map_valueOrNull_rowOf (total : AggregateCall → Value) (last : Option Entry) :
    (q.projections.map fun p =>
      (p.expr.withTotals total).valueOrNull ((last.map (q.rowOf t)).getD .unknown) []) =
    q.projections.map fun p =>
      (p.expr.withTotals total).valueOrNull
        ((last.map (Row.ofEntry t.location)).getD .unknown) [] := by
  cases last with
  | none => rfl
  | some e =>
    refine List.map_congr_left fun p hp => ?_
    have hp := columns_subset (mem_expressions_of_projection hp)
    change (p.expr.withTotals total).valueOrNull (q.rowOf t e) [] =
      (p.expr.withTotals total).valueOrNull (Row.ofEntry t.location e) []
    rw [← Expr.valueOrNull_totals total _ p.expr [], ← Expr.valueOrNull_totals total _ p.expr [],
      Expr.valueOrNull_congr (rowOf_eq hp)]

/-! ### Both passes -/

theorem aggregateRows_eq {o : RunOptions} (hlenient : o.strict = false)
    (hsequential : o.parallel = false) (visits : List Visit) :
    q.aggregateRows o t visits = q.summarize false t visits >>= fun s =>
      finalRow false (s.last.getD .unknown) s.finals q.projections >>= fun row =>
        pure (if q.limit = some 0 then [] else [row], visits.length) := by
  rw [aggregateRows, hlenient, hsequential]
  rfl

/-- If no update fails, there is one row. -/
theorem outcome_aggregateRows {o : RunOptions} (hlenient : o.strict = false)
    (hsequential : o.parallel = false) {visits : List Visit} {total : AggregateCall → Accumulator}
    (h : ∀ c ∈ q.aggregateCalls, c.folded (q.keptRows t (visits.map Visit.entry)) = .ok (total c)) :
    (q.aggregateRows o t visits).outcome =
      .ok (if q.limit = some 0 then [] else [q.projections.map fun p =>
        (p.expr.withTotals fun c => (total c).final).valueOrNull
          ((q.keptRows t (visits.map Visit.entry)).getLast?.getD .unknown) []],
        visits.length) := by
  have hfinals : (q.aggregateCalls.map total).map Accumulator.final =
      q.aggregateCalls.map fun c => (total c).final := by
    rw [List.map_map]
    rfl
  rw [aggregateRows_eq hlenient hsequential, Report.outcome_bind, outcome_summarize h]
  change (Report.outcome (_ >>= _)) = _
  rw [Report.outcome_bind, Summary.finals, hfinals, aggregateCalls, outcome_finalRow,
    map_valueOrNull_rowOf, keptRows, List.getLast?_map]
  rfl

/-- A sequential run fails exactly if the fold of some call does. -/
theorem exists_aggregateRows_iff {o : RunOptions} (hlenient : o.strict = false)
    (hsequential : o.parallel = false) {visits : List Visit} :
    (∃ rows, (q.aggregateRows o t visits).outcome = .ok rows) ↔
      ∀ c ∈ q.aggregateCalls, ∃ a, c.folded (q.keptRows t (visits.map Visit.entry)) = .ok a := by
  constructor
  · rintro ⟨rows, hrows⟩ c hc
    rw [aggregateRows_eq hlenient hsequential, Report.outcome_bind, Except.bind_eq_ok] at hrows
    obtain ⟨s, hs, -⟩ := hrows
    have hoption : q.summaryOf? false t (visits.map Visit.entry) =
      (q.summarize false t visits).outcome.toOption := (toOption_summarize visits).symm
    rw [hs, summaryOf?_lenient] at hoption
    obtain ⟨as, has, -⟩ := Option.map_eq_some_iff.1 hoption
    obtain ⟨a, ha⟩ := exists_of_mapM has c hc
    cases hfolded : c.folded (q.keptRows t (visits.map Visit.entry)) with
    | error cause => rw [hfolded] at ha; cases ha
    | ok a => exact ⟨a, rfl⟩
  · intro h
    have htotal : ∀ c ∈ q.aggregateCalls, c.folded (q.keptRows t (visits.map Visit.entry)) =
        .ok ((c.folded (q.keptRows t (visits.map Visit.entry))).toOption.getD (.min none)) := by
      intro c hc
      obtain ⟨a, ha⟩ := h c hc
      rw [ha]
      rfl
    exact ⟨_, outcome_aggregateRows hlenient hsequential htotal⟩

omit [PatternEngine] in
/-- Predicates of the standard catalog call no aggregates. -/
theorem hasAggregate_predicate {ts : List Lexeme} (h : Query.ofLexemes .standard ts = .ok q) :
    ∀ e ∈ q.predicate, e.hasAggregate = false := by
  obtain ⟨us, -, -, hlegal⟩ := derives_of_ofLexemes h
  refine fun e he => Expr.hasAggregate_eq_false.2 fun k hk => ?_
  obtain ⟨f, hf, hfunction, hpredicates⟩ := (hlegal.predicate e he).2 k hk
  rw [← hfunction]
  exact Catalog.not_isAggregate_of_inPredicates hf hpredicates

omit [PatternEngine] in
/-- The arguments of aggregate calls call no aggregates. -/
theorem hasAggregate_args {c : Catalog} {ts : List Lexeme} (h : Query.ofLexemes c ts = .ok q) :
    ∀ call ∈ q.aggregateCalls, ∀ a ∈ call.args, a.hasAggregate = false := by
  obtain ⟨us, -, -, hlegal⟩ := derives_of_ofLexemes h
  intro call hcall a ha
  obtain ⟨p, hp, hcall⟩ := List.mem_flatMap.1 hcall
  exact (hlegal.projections p hp).nesting _ (Expr.mem_calls_of_mem_aggregateCalls hcall) rfl a ha

/-- The row of an aggregate query, where errors are let pass and no update of an accumulator fails.
Each projection has the value that it has on the last row kept with every outermost aggregate call
replaced by its own total over the rows kept, and there is an accumulator for each call, also for
those that read alike. No event says that an aggregate cannot be evaluated. -/
theorem aggregateRows_totals {ts : List Lexeme} (hparse : Query.ofLexemes .standard ts = .ok q)
    (o : RunOptions) (t : Tree) (visits : List Visit) (total : AggregateCall → Accumulator)
    (hlenient : o.strict = false) (hsequential : o.parallel = false)
    (htotal : ∀ c ∈ q.aggregateCalls,
      c.folded (q.keptRows t (visits.map Visit.entry)) = .ok (total c)) :
    (q.aggregateRows o t visits).outcome =
      .ok (if q.limit = some 0 then [] else [q.projections.map fun p =>
        (p.expr.withTotals fun c => (total c).final).valueOrNull
          ((q.keptRows t (visits.map Visit.entry)).getLast?.getD .unknown) []], visits.length) ∧
    (∃ s, (q.summarize o.strict t visits).outcome = .ok s ∧
      s.accumulators = q.aggregateCalls.map total) ∧
    ∀ ev ∈ (q.aggregateRows o t visits).events, ∀ call,
      ev.cause? ≠ some (.aggregateInRow call) := by
  have hsummary := outcome_summarize htotal
  refine ⟨outcome_aggregateRows hlenient hsequential htotal, ⟨_, hlenient ▸ hsummary, rfl⟩, ?_⟩
  · have hreports : (q.aggregateRows o t visits).OnlyReports
        fun cause => ∀ call, cause ≠ .aggregateInRow call := by
      rw [aggregateRows_eq hlenient hsequential]
      refine (onlyReports_summarize ?_ ?_ visits).bind fun s hs => ?_
      · intro e he row cause hholds call hcause
        have hcount := Expr.callCount_eq_zero (hasAggregate_predicate hparse e he)
        exact Expr.holds_ne_aggregateInRow hcount (hcause ▸ hholds)
      · intro c hc a ha row cause heval call hcause
        have hcount := Expr.callCount_eq_zero (hasAggregate_args hparse c hc a ha)
        exact Expr.eval_ne_aggregateInRow (Nat.le_of_eq hcount) (hcause ▸ heval)
      · obtain rfl := Except.ok.inj (hsummary.symm.trans hs)
        refine (onlyReports_finalRow ?_ ?_).bind fun row _ => .of_no_events rfl
        · rw [Summary.finals, List.length_map, List.length_map]
          exact Nat.le_refl _
        · intro p hp finals hfinals cause heval call hcause
          exact Expr.eval_ne_aggregateInRow hfinals (hcause ▸ heval)
    exact fun ev hev call hcause => hreports ev hev _ hcause call rfl

end

/-- The tokens of `select sum(size) - max(size), -sum(size) from .`. -/
def sizeTotalsLexemes : List Lexeme :=
  ([.word .selectWord, .identifier "sum", .leftParen, .identifier "size", .rightParen, .minus,
    .identifier "max", .leftParen, .identifier "size", .rightParen, .comma, .minus,
    .identifier "sum", .leftParen, .identifier "size", .rightParen, .word .fromWord,
    .path "."] : List Token).map fun t => ⟨t, "", .start⟩

/-- How much all files but the largest take, and the total size again, with a minus sign. -/
def sizeTotals : Query :=
  ⟨[⟨.binary (.arithmetic .subtract) (.call (.aggregate .sum) [.column .size])
      (.call (.aggregate .max) [.column .size]), none⟩,
    ⟨.unary .negate (.call (.aggregate .sum) [.column .size]), none⟩], ".", none, [], none⟩

open Grammar in
theorem ofLexemes_sizeTotals : Query.ofLexemes .standard sizeTotalsLexemes = .ok sizeTotals := by
  have hend : ∀ l ∈ sizeTotalsLexemes, l.token ≠ .endOfText := by decide
  obtain ⟨a, ha, hsubject⟩ := Catalog.findAttribute?_canonicalName .size
  have hsize : Derives .standard (.chain .disjunction) [.identifier "size"] (.column .size) := by
    have hcolumn : Derives .standard .primary [.identifier "size"] (.column a.subject) := .column ha
    rw [hsubject] at hcolumn
    exact .operand (.operand (.comparison (.sum (.operand (.operand (.primary hcolumn))))))
  have hcall (f : AggregateFunction) : Derives .standard .signed
      [.identifier (Function.aggregate f).canonicalName, .leftParen, .identifier "size",
        .rightParen]
      (.call (.aggregate f) [.column .size]) := by
    obtain ⟨e, he, hfunction⟩ := Catalog.findFunction?_canonicalName (.aggregate f)
    have hderives := Derives.call he [([.identifier "size"], .column .size)]
      (List.forall_mem_singleton.2 hsize)
    rw [hfunction] at hderives
    exact .primary (by simpa [commaSeparated_singleton] using hderives)
  have hdifference := Item.plain (.operand (.operand (.comparison (.sum
    (.chain (.operand (.operand (hcall .sum))) .subtract (.operand (hcall .max)))))))
  have hnegative := Item.plain (.operand (.operand (.comparison (.sum (.operand (.operand
    (.minus (hcall .sum))))))))
  have hderives : DerivesQuery .standard (sizeTotalsLexemes.map Lexeme.token) sizeTotals :=
    .query [(_, _), (_, _)] (by simp)
      (List.forall_mem_cons.2 ⟨hdifference, List.forall_mem_singleton.2 hnegative⟩) (Or.inl rfl)
      .absent .absent .absent
  have harity : ∀ f ∈ [AggregateFunction.sum, .max], ∃ e ∈ Catalog.standard.functions,
      e.function = .aggregate f ∧ e.arity.accepts 1 = true := by
    rw [Catalog.standard_eq]
    decide +kernel
  have hlegal (f : AggregateFunction) (hf : f ∈ [AggregateFunction.sum, .max]) :
      (Expr.call (.aggregate f) [.column .size]).Legal .standard :=
    ⟨List.forall_mem_singleton.2 (harity f hf), List.forall_mem_singleton.2 fun _ =>
      List.forall_mem_singleton.2 rfl⟩
  have hlegal : sizeTotals.Legal .standard := by
    refine ⟨List.forall_mem_cons.2 ⟨?_, List.forall_mem_singleton.2 ?_⟩, by decide,
      fun _ h => (nomatch h), fun _ h => (nomatch h)⟩
    · exact ⟨List.forall_mem_append.2 ⟨(hlegal .sum (by decide)).arity,
        (hlegal .max (by decide)).arity⟩, List.forall_mem_append.2
        ⟨(hlegal .sum (by decide)).nesting, (hlegal .max (by decide)).nesting⟩⟩
    · exact ⟨(hlegal .sum (by decide)).arity, (hlegal .sum (by decide)).nesting⟩
  exact (ofLexemes_eq_ok hend).2 ⟨hderives, hlegal⟩

/-- The difference of two files is the smaller one; their total is kept by two accumulators. -/
theorem aggregateRows_totals_two_files :
    Query.ofLexemes .standard sizeTotalsLexemes = .ok sizeTotals ∧
    (sizeTotals.aggregateRows .everywhere ⟨⟨[]⟩, []⟩
      [⟨fileOfSize 3, .stays⟩, ⟨fileOfSize 4, .stays⟩]).outcome =
        .ok ([[.integer 3, .integer (-7)]], 2) ∧
    ∃ s, (sizeTotals.summarize false ⟨⟨[]⟩, []⟩
      [⟨fileOfSize 3, .stays⟩, ⟨fileOfSize 4, .stays⟩]).outcome = .ok s ∧
        s.accumulators.map Accumulator.final = [.integer 7, .integer 4, .integer 7] := by
  let total (c : AggregateCall) : Accumulator :=
    (c.folded [Row.ofEntry ⟨[]⟩ (fileOfSize 3), Row.ofEntry ⟨[]⟩ (fileOfSize 4)]).toOption.getD
      (.min none)
  have htotal : ∀ c ∈ sizeTotals.aggregateCalls, c.folded (sizeTotals.keptRows ⟨⟨[]⟩, []⟩
      ([⟨fileOfSize 3, .stays⟩, ⟨fileOfSize 4, .stays⟩].map Visit.entry)) = .ok (total c) := by
    have hcalls : sizeTotals.aggregateCalls =
      [⟨.sum, [.column .size]⟩, ⟨.max, [.column .size]⟩, ⟨.sum, [.column .size]⟩] := rfl
    rw [hcalls, List.forall_mem_cons, List.forall_mem_cons, List.forall_mem_singleton]
    exact ⟨rfl, rfl, rfl⟩
  obtain ⟨hrow, ⟨s, hs, haccumulators⟩, -⟩ := aggregateRows_totals ofLexemes_sizeTotals .everywhere
    ⟨⟨[]⟩, []⟩ [⟨fileOfSize 3, .stays⟩, ⟨fileOfSize 4, .stays⟩] total rfl rfl htotal
  refine ⟨ofLexemes_sizeTotals, hrow.trans rfl, s, hs, ?_⟩
  rw [haccumulators]
  rfl

end Query

end FileQuery
