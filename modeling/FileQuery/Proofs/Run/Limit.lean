import FileQuery.Proofs.Run.Ordering

/-!
# Limits

The rows of a query with a limit are the first rows of the same query without one. A query without
an order stops its walk as soon as it has found enough rows; one with an order selects all rows,
orders them and cuts the list. Both give the same prefix, and the entries that an early end leaves
out are missed by nobody: if the whole walk succeeds, so does its beginning.

## Main results

* `FileQuery.Query.outcome_selectFirst`: a walk that ends early has found the first rows.
* `FileQuery.Query.selectRows_limited`: both ways to apply a limit cut the ordered selection.
* `FileQuery.Query.resultRows_take`, `FileQuery.Query.resultRows_limit`: the rows of a run with a
  limit.
-/

namespace FileQuery

namespace Query

variable {q : Query} {strict : Bool} {t : Tree} {visits : List Visit} {rows : List (List Value)}

/-- Counting one more entry changes the rows found only as far as its own row goes. -/
theorem map_fst_outcome (found : Report (List (List Value) × Nat))
    (f : List (List Value) → List (List Value)) :
    (found >>= fun x => pure (f x.1, x.2 + 1)).outcome.map Prod.fst =
      (found.outcome.map Prod.fst).map f := by
  rw [Report.outcome_bind]
  cases found.outcome <;> rfl

section

variable [PatternEngine]

/-- A walk that ends after `room + 1` rows has found the first rows of the selection. -/
theorem outcome_selectFirst (h : q.selection strict t visits = .ok rows) (limit room : Nat) :
    (q.selectFirst strict t limit room visits).outcome.map Prod.fst =
      .ok (rows.take (room + 1)) := by
  induction visits generalizing rows room with
  | nil =>
    obtain rfl : [] = rows := Except.ok.inj h
    rfl
  | cons v vs ih =>
    rw [selection_cons, Except.bind_eq_ok] at h
    obtain ⟨row?, hrow, h⟩ := h
    cases hvs : q.selection strict t vs with
    | error cause => rw [hvs] at h; cases h
    | ok rest =>
      rw [hvs] at h
      obtain rfl : row?.toList ++ rest = rows := Except.ok.inj h
      rw [selectFirst, Report.outcome_bind, Report.outcome_bind, hrow]
      cases row? with
      | none =>
        exact (map_fst_outcome (q.selectFirst strict t limit room vs) id).trans
          (congrArg (Except.map id) (ih hvs room))
      | some row =>
        cases room with
        | zero => rfl
        | succ room =>
          exact (map_fst_outcome (q.selectFirst strict t limit room vs) (row :: ·)).trans
            (congrArg (Except.map (row :: ·)) (ih hvs room))

/-- Whether or not the walk ends early, a limit cuts the ordered selection. -/
theorem selectRows_limited (h : q.selection strict t visits = .ok rows) {n : Nat}
    (hlimit : q.limit = some n) :
    (q.selectRows strict t visits).outcome.map Prod.fst = .ok ((q.order rows).take n) := by
  rw [selectRows, hlimit]
  cases horder : q.orderBy with
  | nil =>
    rw [order_of_nil horder]
    cases n with
    | zero => rfl
    | succ room => exact outcome_selectFirst h (room + 1) room
  | cons k ks =>
    rw [selection, ← Report.outcome_mapM] at h
    simp only [Report.outcome_bind, Report.outcome_noteAll, Report.outcome_pure]
    cases hselected : (visits.mapM fun v => q.select strict t v.entry).outcome with
    | error cause => rw [hselected] at h; cases h
    | ok selected =>
      rw [hselected] at h
      obtain rfl := Except.ok.inj h
      rfl

/-- If the run without a limit succeeds, the run with one does, strict or not. -/
theorem resultRows_take {c : Catalog} {env : Environment} {o : RunOptions}
    (h : q.isAggregate = false) (n : Nat)
    (hrows : { q with limit := none }.resultRows c env o = .ok rows) :
    { q with limit := some n }.resultRows c env o = .ok (rows.take n) := by
  rw [resultRows_unlimited (q := { q with limit := none }) h rfl, Except.bind_eq_ok] at hrows
  obtain ⟨visits, hvisits, hrows⟩ := hrows
  have hcut : { q with limit := some n }.resultRows c env o = q.visited env o >>= fun visits =>
      ({ q with limit := some n }.selectRows o.strict env.tree visits).outcome.map Prod.fst :=
    resultRows_of_scalar (q := { q with limit := some n }) h
  have hvisits : q.visited env o = .ok visits := hvisits
  cases hselection : { q with limit := none }.selection o.strict env.tree visits with
  | error cause => rw [hselection] at hrows; cases hrows
  | ok selected =>
    rw [hselection] at hrows
    obtain rfl : q.order selected = rows := Except.ok.inj hrows
    rw [hcut, hvisits]
    exact selectRows_limited (q := { q with limit := some n }) hselection rfl

/-- With a limit a run without aggregates has the first rows of the run without it, whether or not
it is parallel. Errors on entries beyond the last row may end a strict run without a limit, but
never one that has it. -/
theorem resultRows_limit (q : Query) (c : Catalog) (env : Environment) (o : RunOptions) (n : Nat)
    (h : q.isAggregate = false) :
    (∀ rows, { q with limit := none }.resultRows c env o = .ok rows →
      { q with limit := some n }.resultRows c env o = .ok (rows.take n)) ∧
    (o.strict = false →
      { q with limit := some n }.resultRows c env o =
        ({ q with limit := none }.resultRows c env o).map (List.take n) ∧
      ∀ directory, env.tree.open? (q.sourcePath env o) = .ok directory →
        ∃ rows, { q with limit := none }.resultRows c env o = .ok rows) := by
  have hlenient : o.strict = false → ∀ visits, q.visited env o = .ok visits →
      { q with limit := none }.resultRows c env o =
        .ok (q.order (q.walkedRows env.tree visits)) :=
    fun hstrict visits hvisits =>
      resultRows_of_visited (q := { q with limit := none }) h rfl hstrict hvisits
  refine ⟨fun rows => resultRows_take h n, fun hstrict => ⟨?_, fun directory hopen => ?_⟩⟩
  · cases hvisits : q.visited env o with
    | error cause =>
      -- without entries neither run has rows
      have hfree : { q with limit := none }.visited env o = .error cause := hvisits
      have hcut : { q with limit := some n }.visited env o = .error cause := hvisits
      rw [resultRows_of_scalar (q := { q with limit := some n }) h, hcut,
        resultRows_of_scalar (q := { q with limit := none }) h, hfree]
      rfl
    | ok visits =>
      have hrows := hlenient hstrict visits hvisits
      rw [resultRows_take h n hrows, hrows]
      rfl
  · exact ⟨_, hlenient hstrict _ (visited_of_open hopen)⟩

end

/-- The query `select name, size from . where size > 0 order by 2`. -/
def filesBySize : Query :=
  ⟨[⟨.column .name, none⟩, ⟨.column .size, none⟩], ".",
    some (.binary (.relation .greater) (.column .size) (.literal (.integer 0))),
    [⟨2, .ascending⟩], none⟩

/-- The first two of three files by size. -/
theorem resultRows_limit_smallTree :
    { filesBySize with limit := some 2 }.resultRows .empty ⟨smallTree, none⟩ .everywhere =
        .ok [[.string "b", .integer 3], [.string "c", .integer 3]] ∧
      { filesBySize with limit := some 2 }.resultRows .empty ⟨smallTree, none⟩ .everywhere =
        (filesBySize.resultRows .empty ⟨smallTree, none⟩ .everywhere).map (List.take 2) ∧
      ∃ rows, filesBySize.resultRows .empty ⟨smallTree, none⟩ .everywhere = .ok rows := by
  have hrows : filesBySize.resultRows .empty ⟨smallTree, none⟩ .everywhere =
      .ok [[.string "b", .integer 3], [.string "c", .integer 3], [.string "a", .integer 5]] :=
    (resultRows_smallTree (q := filesBySize) rfl rfl rfl filesBySize.orderBy).trans
      (congrArg Except.ok (by decide +kernel))
  obtain ⟨hcuts, hlenient⟩ :=
    resultRows_limit filesBySize .empty ⟨smallTree, none⟩ .everywhere 2 rfl
  obtain ⟨hmap, hexists⟩ := hlenient rfl
  exact ⟨hcuts _ hrows, hmap, hexists smallTree.root (open?_current rfl smallTree)⟩

end Query

end FileQuery
