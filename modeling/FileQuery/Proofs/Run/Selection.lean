import FileQuery.Proofs.Run.Outcome
import FileQuery.Proofs.Tree.Preorder

/-!
# Rows of queries without aggregates

The rows of a query without aggregates come from one list, the rows of the entries that are kept, in
the order of the walk. Ordering and cutting act on this list and not on how it is made: neither the
order keys nor the limit of a query change which values an entry is given. Where errors are let
pass, every entry has an outcome, so that a run fails only if its source cannot be listed.

## Main definitions

* `FileQuery.Query.resultRows`: the rows of a run.
* `FileQuery.Query.visited`: the entries of a run.
* `FileQuery.Query.selection`: the rows of the kept entries in the order of the walk.
* `FileQuery.Query.walkedRows`: the same where errors are let pass.
* `FileQuery.smallTree`, `FileQuery.smallVisits`: a directory and what is visited in it.

## Main results

* `FileQuery.Query.outcome_run`: a run makes a table of its rows.
* `FileQuery.Query.resultRows_of_scalar`: a run without aggregates.
* `FileQuery.Query.resultRows_unlimited`: without a limit its rows are the ordered selection.
* `FileQuery.Query.resultRows_of_visited`: it has rows unless errors end the run.
-/

namespace FileQuery

namespace Query

variable {q : Query} {c : Catalog} {env : Environment} {o : RunOptions} {strict : Bool} {t : Tree}
  {e : Entry}

/-- The entries that a run visits, if its source can be listed. -/
def visited (q : Query) (env : Environment) (o : RunOptions) : Except QueryError (List Visit) :=
  ((env.tree.open? (q.sourcePath env o)).mapError (.source (q.sourcePath env o))).map
    fun directory => (Walk.start o.walk (q.sourcePath env o) directory).toList

theorem visited_of_open {directory : Directory}
    (h : env.tree.open? (q.sourcePath env o) = .ok directory) :
    q.visited env o = .ok (Walk.start o.walk (q.sourcePath env o) directory).toList := by
  rw [visited, h]
  rfl

variable [PatternEngine]

/-- The rows of a run. -/
def resultRows (q : Query) (c : Catalog) (env : Environment) (o : RunOptions) :
    Except QueryError (List (List Value)) :=
  (q.run c env o).outcome.map ResultTable.rows

/-- The rows of the entries that are kept, in the order of the walk. -/
def selection (q : Query) (strict : Bool) (t : Tree) (visits : List Visit) :
    Except QueryError (List (List Value)) :=
  (visits.mapM fun v => (q.select strict t v.entry).outcome).map (List.filterMap id)

/-- The rows of the result that entries give where errors are let pass. -/
def walkedRows (q : Query) (t : Tree) (visits : List Visit) : List (List Value) :=
  visits.filterMap fun v => q.resultRow? t v.entry

/-- The table that a run makes of its rows. -/
def tableOf (q : Query) (c : Catalog) (rows : List (List Value)) : ResultTable :=
  ⟨q.columns c rows, rows⟩

/-- The rows of a run, with the number of entries visited. -/
def rowsOf (q : Query) (o : RunOptions) (t : Tree) (visits : List Visit) :
    Report (List (List Value) × Nat) :=
  if q.isAggregate then q.aggregateRows o t visits else q.selectRows o.strict t visits

/-- Events aside, a run that can list its source makes a table of its rows. -/
theorem outcome_run (q : Query) (c : Catalog) (env : Environment) (o : RunOptions) :
    (q.run c env o).outcome = q.visited env o >>= fun visits =>
      (q.rowsOf o env.tree visits).outcome.map fun r => q.tableOf c r.1 := by
  have hrun : q.run c env o = Report.ofExcept ((env.tree.open? (q.sourcePath env o)).mapError
      (.source (q.sourcePath env o))) >>= fun directory =>
        q.rowsOf o env.tree (Walk.start o.walk (q.sourcePath env o) directory).toList >>= fun r =>
          Report.note (.finished (q.sourcePath env o) r.2 r.1.length) >>= fun _ =>
            pure (q.tableOf c r.1) := by
    simp only [run, rowsOf]
    cases q.isAggregate <;> rfl
  rw [hrun, visited]
  simp only [Report.outcome_bind, Report.outcome_ofExcept, Report.outcome_note]
  cases env.tree.open? (q.sourcePath env o) with
  | error cause => rfl
  | ok directory =>
    dsimp only [Except.mapError, Except.map, bind, Except.bind]
    cases (q.rowsOf o env.tree _).outcome <;> rfl

theorem outcome_run_of_visited {visits : List Visit} (h : q.visited env o = .ok visits) :
    (q.run c env o).outcome =
      (q.rowsOf o env.tree visits).outcome.map fun r => q.tableOf c r.1 := by
  rw [outcome_run, h]
  rfl

/-- A run without aggregates selects rows from the entries that it visits. -/
theorem resultRows_of_scalar (h : q.isAggregate = false) :
    q.resultRows c env o = q.visited env o >>= fun visits =>
      (q.selectRows o.strict env.tree visits).outcome.map Prod.fst := by
  rw [resultRows, outcome_run, Except.map_bind]
  refine congrArg _ (funext fun visits => ?_)
  have hrows : q.rowsOf o env.tree visits = q.selectRows o.strict env.tree visits := by
    rw [rowsOf, h]
    rfl
  rw [hrows]
  cases (q.selectRows o.strict env.tree visits).outcome <;> rfl

/-! ### Selections -/

theorem selection_cons (v : Visit) (vs : List Visit) :
    q.selection strict t (v :: vs) = (q.select strict t v.entry).outcome >>= fun row? =>
      (q.selection strict t vs).map fun rows => row?.toList ++ rows := by
  rw [selection, List.mapM_cons, Except.map_bind, selection]
  congr 1
  funext row?
  cases vs.mapM fun v => (q.select strict t v.entry).outcome with
  | error cause => rfl
  | ok selected => cases row? <;> rfl

/-- Where errors are let pass, every entry is kept or left out. -/
theorem selection_lenient (q : Query) (t : Tree) (visits : List Visit) :
    q.selection false t visits = .ok (q.walkedRows t visits) := by
  rw [selection]
  simp only [outcome_select, Except.mapM_ok, Except.map, List.filterMap_map,
    Function.comp_def]
  rfl

/-- The rows of the result have one value for each projection. -/
theorem length_of_mem_walkedRows {visits : List Visit} {row : List Value}
    (h : row ∈ q.walkedRows t visits) : row.length = q.projections.length := by
  obtain ⟨v, -, hrow⟩ := List.mem_filterMap.1 h
  rw [resultRow?] at hrow
  split at hrow
  · rw [← Option.some.inj hrow, List.length_map]
  · cases hrow

/-! ### Runs without a limit -/

omit [PatternEngine] in
/-- Without order keys all rows tie and stay where they are. -/
theorem order_of_nil (h : q.orderBy = []) (rows : List (List Value)) : q.order rows = rows := by
  rw [order, h]
  exact List.mergeSort_of_pairwise (List.pairwise_of_forall fun _ _ => rfl)

/-- Without a limit all selected rows are ordered. -/
theorem selectRows_unlimited (h : q.limit = none) (visits : List Visit) :
    (q.selectRows strict t visits).outcome.map Prod.fst =
      (q.selection strict t visits).map q.order := by
  rw [selectRows, h, selection, ← Report.outcome_mapM]
  simp only [Report.outcome_bind, Report.outcome_noteAll, Report.outcome_pure]
  cases (visits.mapM fun v => q.select strict t v.entry).outcome <;> rfl

theorem resultRows_unlimited (h : q.isAggregate = false) (hlimit : q.limit = none) :
    q.resultRows c env o = q.visited env o >>= fun visits =>
      (q.selection o.strict env.tree visits).map q.order := by
  rw [resultRows_of_scalar h]
  simp only [selectRows_unlimited hlimit]

/-- Where errors are let pass, a run without a limit orders the rows of all entries. -/
theorem resultRows_of_visited (h : q.isAggregate = false) (hlimit : q.limit = none)
    (hstrict : o.strict = false) {visits : List Visit} (hvisits : q.visited env o = .ok visits) :
    q.resultRows c env o = .ok (q.order (q.walkedRows env.tree visits)) := by
  rw [resultRows_unlimited h hlimit, hvisits, hstrict]
  exact congrArg (Except.map q.order) (q.selection_lenient env.tree visits)

/-- A run has the table of its rows. -/
theorem outcome_run_of_resultRows {rows : List (List Value)} (h : q.resultRows c env o = .ok rows) :
    (q.run c env o).outcome = .ok (q.tableOf c rows) := by
  rw [resultRows, outcome_run] at h
  rw [outcome_run]
  cases hvisits : q.visited env o with
  | error cause => rw [hvisits] at h; cases h
  | ok visits =>
    rw [hvisits] at h
    change ((q.rowsOf o env.tree visits).outcome.map _).map _ = _ at h
    change (q.rowsOf o env.tree visits).outcome.map _ = _
    cases hrows : (q.rowsOf o env.tree visits).outcome with
    | error cause => rw [hrows] at h; cases h
    | ok found =>
      rw [hrows] at h
      exact congrArg (fun rows => Except.ok (q.tableOf c rows)) (Except.ok.inj h)

end Query

/-! ### A small directory -/

/-- A directory with the files `a` and `b` and, one level below, `c`; their sizes are 5, 3 and 3. -/
def smallTree : Tree :=
  let status : Status := ⟨0, 0, 0, none, none, none⟩
  ⟨⟨[]⟩, [.file (Text.encode "b") status 3,
    .directory (Text.encode "d") status 0 [.file (Text.encode "c") status 3],
    .file (Text.encode "a") status 5]⟩

/-- A run through all directories in which errors are let pass. -/
def RunOptions.everywhere : RunOptions := ⟨true, none, false, false, false⟩

/-- The visits of a walk through the small directory. -/
def smallVisits : List Visit :=
  let entry (path : String) (depth : Nat) (kind : EntryKind) (size : Nat) : Entry :=
    ⟨.ofText path, depth, some ⟨⟨0, 0, 0, none, none, none⟩, kind, size⟩⟩
  [⟨entry "./a" 1 .file 5, .stays⟩, ⟨entry "./b" 1 .file 3, .stays⟩,
    ⟨entry "./d" 1 .directory 0, .enters⟩, ⟨entry "./d/c" 2 .file 3, .stays⟩]

theorem toList_smallTree :
    (Walk.start .full (.ofText ".") smallTree.root).toList = smallVisits := by
  have hinner : Node.WellFormed smallTree.entries[1].children := by decide +kernel
  have hentries : Node.WellFormed smallTree.root.entries := by decide +kernel
  have hperm : List.Perm ([smallTree.entries[2]] ++ [smallTree.entries[0], smallTree.entries[1]])
      smallTree.root.entries := List.perm_append_comm
  have hlisted : WalkOptions.full.listed smallTree.root.entries =
      [smallTree.entries[2], smallTree.entries[0], smallTree.entries[1]] :=
    WalkOptions.listed_eq_of_perm hentries hperm (by decide +kernel)
  have hbelow : WalkOptions.full.listed smallTree.entries[1].children =
      smallTree.entries[1].children :=
    WalkOptions.listed_eq_of_perm hinner (.refl _) (List.pairwise_singleton _ _)
  rw [Walk.toList_start, hlisted, visits_eq_flatMap]
  have hfiles : WalkOptions.full.block (smallTree.root.site (.ofText ".")) smallTree.entries[2] ++
      WalkOptions.full.block (smallTree.root.site (.ofText ".")) smallTree.entries[0] =
        smallVisits.take 2 := by decide +kernel
  have hdirectory : WalkOptions.full.block (smallTree.root.site (.ofText "."))
      smallTree.entries[1] = smallVisits.drop 2 := by
    rw [WalkOptions.block, WalkOptions.below, if_pos (by decide +kernel), hbelow]
    exact (congrArg (_ :: ·) (visits_singleton _ _ _)).trans (by decide +kernel)
  rw [List.flatMap_cons, List.flatMap_cons, List.flatMap_singleton, ← List.append_assoc, hfiles,
    hdirectory, List.take_append_drop]

namespace Query

variable {q : Query}

theorem sourcePath_current (hq : q.source = ".") (t : Tree) :
    q.sourcePath ⟨t, none⟩ .everywhere = .ofText "." := by
  rw [sourcePath, hq]
  rfl

theorem open?_current (hq : q.source = ".") (t : Tree) :
    t.open? (q.sourcePath ⟨t, none⟩ .everywhere) = .ok t.root := by
  rw [sourcePath_current hq, t.open?_current]

theorem visited_smallTree (hq : q.source = ".") :
    q.visited ⟨smallTree, none⟩ .everywhere = .ok smallVisits := by
  rw [visited_of_open (open?_current hq smallTree), sourcePath_current hq]
  exact congrArg Except.ok toList_smallTree

end Query

end FileQuery
