import FileQuery.Proofs.Result.Lines
import FileQuery.Proofs.Run.Selection

/-!
# The shape of result tables

The table of a run has a column for each projection, and each of its rows has a value for each of
them, whether rows are selected or one row is made of aggregates, and whether or not errors end the
run. So each row has one line in the text of the table, with a cell for each column. The line of the
headers has the same shape only if no header has a tab or a line feed.

## Main results

* `FileQuery.Query.length_of_mem_selectRows`, `FileQuery.Query.length_of_mem_aggregateRows`: rows
  have a value for each projection.
* `FileQuery.Query.showsShape_run`: the text of a result.
-/

namespace FileQuery

namespace Query

variable [PatternEngine] {q : Query} {c : Catalog} {env : Environment} {o : RunOptions}
  {strict : Bool} {t : Tree} {visits : List Visit} {row : List Value}

/-! ### Rows -/

/-- The rows of a walk that may end early have a value for each projection. -/
theorem length_of_mem_selectFirst {limit room : Nat} {found : List (List Value) × Nat}
    (h : (q.selectFirst strict t limit room visits).outcome = .ok found) (hrow : row ∈ found.1) :
    row.length = q.projections.length := by
  induction visits generalizing room found with
  | nil =>
    obtain rfl := Except.ok.inj h
    cases hrow
  | cons v vs ih =>
    rw [selectFirst, Report.outcome_bind, Report.outcome_bind] at h
    obtain ⟨-, -, h⟩ := Except.bind_eq_ok.1 h
    obtain ⟨row?, hselect, h⟩ := Except.bind_eq_ok.1 h
    cases row? with
    | none =>
      rw [Report.outcome_bind] at h
      obtain ⟨rest, hrest, h⟩ := Except.bind_eq_ok.1 h
      obtain rfl := Except.ok.inj h
      exact ih hrest hrow
    | some first =>
      have hfirst := length_of_select hselect
      cases room with
      | zero =>
        obtain rfl := Except.ok.inj h
        obtain rfl := List.mem_singleton.1 hrow
        exact hfirst
      | succ room =>
        rw [Report.outcome_bind] at h
        obtain ⟨rest, hrest, h⟩ := Except.bind_eq_ok.1 h
        obtain rfl := Except.ok.inj h
        rcases List.mem_cons.1 hrow with rfl | hrow
        · exact hfirst
        · exact ih hrest hrow

/-- The rows of a selection have a value for each projection. -/
theorem length_of_mem_selection {rows : List (List Value)}
    (h : q.selection strict t visits = .ok rows) (hrow : row ∈ rows) :
    row.length = q.projections.length := by
  induction visits generalizing rows with
  | nil =>
    obtain rfl := Except.ok.inj h
    cases hrow
  | cons v vs ih =>
    rw [selection_cons, Except.bind_eq_ok] at h
    obtain ⟨row?, hselect, h⟩ := h
    cases hvs : q.selection strict t vs with
    | error cause => rw [hvs] at h; cases h
    | ok rest =>
      rw [hvs] at h
      obtain rfl := Except.ok.inj h
      rcases List.mem_append.1 hrow with hrow | hrow
      · rw [Option.mem_toList] at hrow
        obtain rfl : row? = some row := hrow
        exact length_of_select hselect
      · exact ih hvs hrow

/-- The rows of a query without aggregates have a value for each projection. -/
theorem length_of_mem_selectRows {found : List (List Value) × Nat}
    (h : (q.selectRows strict t visits).outcome = .ok found) (hrow : row ∈ found.1) :
    row.length = q.projections.length := by
  have hordered (cut : List (List Value) → List (List Value))
      (hcut : ∀ rows, ∀ r ∈ cut rows, r ∈ rows)
      (h : (Report.noteAll (visits.flatMap Visit.events) >>= fun _ =>
        (visits.mapM fun v => q.select strict t v.entry) >>= fun selected =>
          pure (cut (q.order (selected.filterMap id)), visits.length) : Report _).outcome =
            .ok found) : row.length = q.projections.length := by
    rw [Report.outcome_bind] at h
    obtain ⟨-, -, h⟩ := Except.bind_eq_ok.1 h
    rw [Report.outcome_bind] at h
    obtain ⟨selected, hselected, h⟩ := Except.bind_eq_ok.1 h
    obtain rfl := Except.ok.inj h
    have hselection : q.selection strict t visits = .ok (selected.filterMap id) := by
      rw [selection, ← Report.outcome_mapM, hselected]
      rfl
    exact length_of_mem_selection hselection (List.mem_mergeSort.1 (hcut _ row hrow))
  rw [selectRows] at h
  split at h
  · obtain rfl := Except.ok.inj h
    cases hrow
  · exact length_of_mem_selectFirst h hrow
  · cases hlimit : q.limit with
    | none =>
      rw [hlimit] at h
      exact hordered id (fun _ _ hr => hr) h
    | some n =>
      rw [hlimit] at h
      exact hordered (List.take n) (fun _ _ hr => List.mem_of_mem_take hr) h

/-- The row of final values has one for each projection. -/
theorem length_finalRow {r : Row} {finals values : List Value} {ps : List Projection}
    (h : (finalRow strict r finals ps).outcome = .ok values) : values.length = ps.length := by
  induction ps generalizing finals values with
  | nil =>
    obtain rfl := Except.ok.inj h
    rfl
  | cons p ps ih =>
    rw [finalRow, Report.outcome_bind] at h
    obtain ⟨v, -, h⟩ := Except.bind_eq_ok.1 h
    rw [Report.outcome_bind] at h
    obtain ⟨vs, hvs, h⟩ := Except.bind_eq_ok.1 h
    obtain rfl := Except.ok.inj h
    rw [List.length_cons, List.length_cons, ih hvs]

/-- The row of an aggregate query has a value for each projection. -/
theorem length_of_mem_aggregateRows {found : List (List Value) × Nat}
    (h : (q.aggregateRows o t visits).outcome = .ok found) (hrow : row ∈ found.1) :
    row.length = q.projections.length := by
  have hsummary : ∃ (s : Summary) (values : List Value),
      (finalRow o.strict (s.last.getD .unknown) s.finals q.projections).outcome = .ok values ∧
        found = (if q.limit = some 0 then [] else [values], visits.length) := by
    rw [aggregateRows] at h
    split at h <;>
    · rw [Report.outcome_bind] at h
      obtain ⟨s, -, h⟩ := Except.bind_eq_ok.1 h
      rw [Report.outcome_bind] at h
      obtain ⟨values, hvalues, h⟩ := Except.bind_eq_ok.1 h
      exact ⟨s, values, hvalues, (Except.ok.inj h).symm⟩
  obtain ⟨s, values, hvalues, rfl⟩ := hsummary
  dsimp only at hrow
  split at hrow
  · cases hrow
  · obtain rfl := List.mem_singleton.1 hrow
    exact length_finalRow hvalues

omit [PatternEngine] in
/-- The headers of a table are those of the projections, whatever its rows are. -/
theorem headers_tableOf (rows : List (List Value)) : (q.tableOf c rows).headers = q.headers :=
  List.ext_getElem (by simp [tableOf, ResultTable.headers, columns, headers])
    (by simp [tableOf, ResultTable.headers, columns, headers])

/-- A result has a column for each projection, and its rows have a value for each of them. -/
theorem shape_of_run {table : ResultTable} (h : (q.run c env o).outcome = .ok table) :
    table.headers = q.headers ∧ ∀ row ∈ table.rows, row.length = q.projections.length := by
  rw [outcome_run] at h
  obtain ⟨visits, -, h⟩ := Except.bind_eq_ok.1 h
  cases hrows : (q.rowsOf o env.tree visits).outcome with
  | error cause => rw [hrows] at h; cases h
  | ok found =>
    rw [hrows] at h
    obtain rfl := Except.ok.inj h
    refine ⟨headers_tableOf found.1, fun row hrow => ?_⟩
    rw [rowsOf] at hrows
    split at hrows
    · exact length_of_mem_aggregateRows hrows hrow
    · exact length_of_mem_selectRows hrows hrow

end Query

/-! ### Texts -/

open ResultTable

/-- The text of a result has a line for each row, in their order, with the escaped values as its
cells. It shows the shape of the table, the line of the headers included, just if no header has a
tab or a line feed. -/
theorem Query.showsShape_run [PatternEngine] {q : Query} {c : Catalog} {env : Environment}
    {o : RunOptions} {table : ResultTable} (h : (q.run c env o).outcome = .ok table)
    (hq : q.projections ≠ []) :
    (table.textLines = (tabbed table.headerCells).splitOn '\n' ++
        (table.rows.map fun row => tabbed (shownCells row)) ++ [[]] ∧
      ∀ row ∈ table.rows, (tabbed (shownCells row)).splitOn '\t' = shownCells row ∧
        (shownCells row).length = table.columns.length) ∧
    (table.ShowsShape ↔ ∀ p ∈ q.projections, '\t' ∉ p.header.toList ∧ '\n' ∉ p.header.toList) := by
  obtain ⟨hheaders, hrows⟩ := shape_of_run h
  have hlength : table.columns.length = q.projections.length := by
    simpa [ResultTable.headers, Query.headers] using congrArg List.length hheaders
  have hcolumns : table.columns ≠ [] := fun hnil => by
    rw [hnil] at hlength
    exact hq (List.length_eq_zero_iff.1 hlength.symm)
  have hfull : ∀ row ∈ table.rows, row.length = table.columns.length :=
    fun row hrow => (hrows row hrow).trans hlength.symm
  refine ⟨⟨textLines_eq table, fun row hrow => ⟨splitOn_tabbed_shownCells ?_, ?_⟩⟩, ?_⟩
  · rintro rfl
    exact hcolumns (List.length_eq_zero_iff.1 (hfull _ hrow).symm)
  · rw [shownCells, List.length_map, hfull row hrow]
  · rw [showsShape_iff hcolumns hfull, hheaders, Query.headers, List.forall_mem_map]

/-- The query `select name from .` with a name for its column. -/
def Query.namesAs (label : String) : Query :=
  ⟨[⟨.column .name, some label⟩], ".", none, [], none⟩

theorem Query.resultRows_namesAs (label : String) (c : Catalog) :
    (namesAs label).resultRows c ⟨smallTree, none⟩ .everywhere =
      .ok [[.string "a"], [.string "b"], [.string "d"], [.string "c"]] := by
  rw [resultRows_of_visited rfl rfl rfl (visited_smallTree rfl), order_of_nil rfl]
  exact congrArg Except.ok (by decide +kernel :
    (namesAs "").walkedRows smallTree smallVisits = [[.string "a"], [.string "b"], [.string "d"],
      [.string "c"]])

/-- The names in a small directory below a header with a blank. -/
theorem Query.showsShape_run_blank : ∃ table,
    ((namesAs "file name").run .empty ⟨smallTree, none⟩ .everywhere).outcome = .ok table ∧
      (namesAs "file name").projections ≠ [] ∧ table.ShowsShape := by
  have hrun : ((namesAs "file name").run .empty ⟨smallTree, none⟩ .everywhere).outcome =
      .ok ⟨[⟨"file name", some .string⟩],
        [[.string "a"], [.string "b"], [.string "d"], [.string "c"]]⟩ :=
    outcome_run_of_resultRows (resultRows_namesAs "file name" .empty)
  have hq : (namesAs "file name").projections ≠ [] := List.cons_ne_nil _ _
  refine ⟨_, hrun, hq, (showsShape_run hrun hq).2.2 ?_⟩
  exact List.forall_mem_singleton.2 (by decide)

/-- A tab in a header is written as it is and makes two cells of the header. -/
theorem Query.not_showsShape_tab : ∃ table,
    ((namesAs "a\tb").run .empty ⟨smallTree, none⟩ .everywhere).outcome = .ok table ∧
      table.toText = "a\tb\na\nb\nd\nc\n" ∧ ¬table.ShowsShape := by
  have hrun : ((namesAs "a\tb").run .empty ⟨smallTree, none⟩ .everywhere).outcome =
      .ok ⟨[⟨"a\tb", some .string⟩],
        [[.string "a"], [.string "b"], [.string "d"], [.string "c"]]⟩ :=
    outcome_run_of_resultRows (resultRows_namesAs "a\tb" .empty)
  refine ⟨_, hrun, by decide, fun hshape => ?_⟩
  have hheader := (showsShape_iff (List.cons_ne_nil _ _) (by decide)).1 hshape "a\tb"
    (List.mem_singleton_self _)
  exact hheader.1 (by decide)

end FileQuery
