import FileQuery.Proofs.Query.Resolution
import FileQuery.Proofs.Run.Selection
import FileQuery.Proofs.Run.StableSort
import FileQuery.Proofs.Value.SortOrder

/-!
# Ordered results

The order of a query arranges the rows of the walk: a row comes before another if the first key on
which they differ says so, and rows that tie on all keys stay as the walk found them. To turn every
key round turns the groups of ties round, but not the rows within a group, since it is comparisons
that are reversed and not lists.

Rows of one length have the same columns, so that a key without a column ties them all. The keys of
a parsed query always have one.

## Main definitions

* `FileQuery.OrderKey.cell`, `FileQuery.OrderKey.flip`.
* `FileQuery.OrderKey.Ties`, `FileQuery.OrderKey.Precedes`: how keys tell rows apart.
* `FileQuery.OrderKey.compareCells`: the comparison of rows by their cells.

## Main results

* `FileQuery.OrderKey.compareCells_eq_eq`, `FileQuery.OrderKey.compareCells_eq_lt`: what the
  comparison of rows says.
* `FileQuery.Query.order_eq_sortBy`: the order of a query is a stable sort.
* `FileQuery.Query.resultRows_order`: the rows of an ordered run.
-/

namespace FileQuery

namespace OrderKey

variable {k : OrderKey} {keys : List OrderKey} {r s : List Value}

/-- The value of a row in the column of a key; null if there is no such column. -/
def cell (k : OrderKey) (row : List Value) : Value := row.getD (k.column - 1) .null

/-- The key in the other direction. -/
def flip (k : OrderKey) : OrderKey :=
  match k.direction with
  | .ascending => ⟨k.column, .descending⟩
  | .descending => ⟨k.column, .ascending⟩

/-- Whether two rows sort alike under every key. -/
def Ties (keys : List OrderKey) (r s : List Value) : Prop :=
  ∀ k ∈ keys, (k.cell r).sortCompare (k.cell s) = .eq

instance : Decidable (Ties keys r s) :=
  inferInstanceAs (Decidable (∀ k ∈ keys, (k.cell r).sortCompare (k.cell s) = .eq))

/-- Whether the first key on which two rows differ puts the first row in front. -/
def Precedes (keys : List OrderKey) (r s : List Value) : Prop :=
  ∃ before k after, keys = before ++ k :: after ∧ Ties before r s ∧
    k.compare (k.cell r) (k.cell s) = .lt

/-- The comparison of rows by the values in the columns of the keys, the first difference
deciding. -/
def compareCells : List OrderKey → List Value → List Value → Ordering
  | [] => fun _ _ => .eq
  | k :: ks => compareLex (fun r s => k.compare (k.cell r) (k.cell s)) (compareCells ks)

instance (k : OrderKey) : Std.TransCmp fun r s : List Value => k.compare (k.cell r) (k.cell s) where
  eq_swap := Std.OrientedCmp.eq_swap
  isLE_trans := Std.TransCmp.isLE_trans

instance transCmp_compareCells (keys : List OrderKey) : Std.TransCmp (compareCells keys) := by
  induction keys with
  | nil => exact { eq_swap := rfl, isLE_trans := fun _ _ => rfl }
  | cons k ks ih => exact inferInstanceAs (Std.TransCmp (compareLex _ _))

/-- Rows of one length are compared by their cells. -/
theorem compareRows_eq_compareCells (h : r.length = s.length) (keys : List OrderKey) :
    compareRows r s keys = compareCells keys r s := by
  induction keys with
  | nil => rfl
  | cons k ks ih =>
    rw [compareRows, compareCells, compareLex, ih]
    congr 1
    by_cases hk : k.column - 1 < r.length
    · have hks : k.column - 1 < s.length := h ▸ hk
      simp [cell, List.getD, hk, hks]
    · have hr : r[k.column - 1]? = none := List.getElem?_eq_none (Nat.le_of_not_lt hk)
      have hs : s[k.column - 1]? = none := List.getElem?_eq_none (h ▸ Nat.le_of_not_lt hk)
      have hself : k.compare .null .null = .eq := Std.ReflCmp.compare_self
      simp [cell, List.getD, hr, hs, hself]

theorem compare_eq_eq {a b : Value} : k.compare a b = .eq ↔ a.sortCompare b = .eq := by
  obtain ⟨column, direction⟩ := k
  cases direction with
  | ascending => rfl
  | descending => exact Ordering.swap_eq_eq

theorem compareCells_eq_eq : compareCells keys r s = .eq ↔ Ties keys r s := by
  induction keys with
  | nil => exact iff_of_true rfl fun _ h => nomatch h
  | cons k ks ih =>
    rw [compareCells, compareLex, Ordering.then_eq_eq, ih, compare_eq_eq, Ties, Ties,
      List.forall_mem_cons]

theorem precedes_cons : Precedes (k :: keys) r s ↔ k.compare (k.cell r) (k.cell s) = .lt ∨
    k.compare (k.cell r) (k.cell s) = .eq ∧ Precedes keys r s := by
  constructor
  · rintro ⟨before, k', after, hkeys, hties, hlt⟩
    cases before with
    | nil =>
      obtain ⟨rfl, rfl⟩ := List.cons.inj hkeys
      exact Or.inl hlt
    | cons k₀ before =>
      obtain ⟨rfl, rfl⟩ := List.cons.inj hkeys
      obtain ⟨htie, hties⟩ := List.forall_mem_cons.1 hties
      exact Or.inr ⟨compare_eq_eq.2 htie, before, k', after, rfl, hties, hlt⟩
  · rintro (hlt | ⟨heq, before, k', after, rfl, hties, hlt⟩)
    · exact ⟨[], k, keys, rfl, fun _ h => (nomatch h), hlt⟩
    · exact ⟨k :: before, k', after, rfl,
        List.forall_mem_cons.2 ⟨compare_eq_eq.1 heq, hties⟩, hlt⟩

theorem compareCells_eq_lt : compareCells keys r s = .lt ↔ Precedes keys r s := by
  induction keys with
  | nil =>
    refine iff_of_false (fun h => nomatch h) ?_
    rintro ⟨before, k, after, hkeys, -⟩
    exact List.append_ne_nil_of_right_ne_nil before (List.cons_ne_nil k after) hkeys.symm
  | cons k ks ih =>
    rw [compareCells, compareLex, Ordering.then_eq_lt, ih, precedes_cons]

/-- A key in the other direction compares the other way round. -/
theorem compare_flip (a b : Value) : k.flip.compare a b = k.compare b a := by
  obtain ⟨column, direction⟩ := k
  cases direction with
  | ascending => exact Std.OrientedCmp.eq_swap.symm
  | descending => exact Std.OrientedCmp.eq_swap

theorem cell_flip (row : List Value) : k.flip.cell row = k.cell row := by
  obtain ⟨column, direction⟩ := k
  cases direction <;> rfl

theorem compareCells_flip :
    compareCells (keys.map flip) = fun r s => compareCells keys s r := by
  induction keys with
  | nil => rfl
  | cons k ks ih =>
    funext r s
    rw [List.map_cons, compareCells, compareCells, compareLex, compareLex, ih, cell_flip, cell_flip,
      compare_flip]

end OrderKey

namespace Query

variable {q : Query} {rows : List (List Value)}

/-- The order of a query is a stable sort by cells. -/
theorem order_eq_sortBy (h : ∀ row ∈ rows, row.length = q.projections.length) :
    q.order rows = sortBy (OrderKey.compareCells q.orderBy) rows := by
  have hle : ∀ r ∈ rows, ∀ s ∈ rows, (OrderKey.compareRows r s q.orderBy != .gt) =
      (OrderKey.compareCells q.orderBy r s).isLE := by
    intro r hr s hs
    rw [OrderKey.compareRows_eq_compareCells ((h r hr).trans (h s hs).symm)]
    cases OrderKey.compareCells q.orderBy r s <;> rfl
  have hsort : (q.order rows).map id = sortBy (OrderKey.compareCells q.orderBy) (rows.map id) :=
    List.map_mergeSort hle
  rwa [List.map_id, List.map_id] at hsort

theorem sortBy_nil (h : ∀ row ∈ rows, row.length = q.projections.length) :
    sortBy (OrderKey.compareCells []) rows = rows :=
  (order_eq_sortBy (q := { q with orderBy := [] }) h).symm.trans (order_of_nil rfl rows)

section

variable [PatternEngine]

/-- Where errors are let pass, a run without a limit sorts the rows of the walk by its keys. -/
theorem resultRows_sorted {c : Catalog} {env : Environment} {o : RunOptions} {visits : List Visit}
    (h : q.isAggregate = false) (hlimit : q.limit = none) (hstrict : o.strict = false)
    (hvisits : q.visited env o = .ok visits) (keys : List OrderKey) :
    { q with orderBy := keys }.resultRows c env o =
      .ok (sortBy (OrderKey.compareCells keys) (q.walkedRows env.tree visits)) := by
  rw [resultRows_of_visited (q := { q with orderBy := keys }) h hlimit hstrict hvisits]
  exact congrArg Except.ok (order_eq_sortBy (q := { q with orderBy := keys })
    fun _ hrow => length_of_mem_walkedRows (q := { q with orderBy := keys }) hrow)

/-- The rows of the small directory, put in order one by one. -/
theorem resultRows_smallTree {c : Catalog} (h : q.isAggregate = false) (hlimit : q.limit = none)
    (hsource : q.source = ".") (keys : List OrderKey) :
    { q with orderBy := keys }.resultRows c ⟨smallTree, none⟩ .everywhere =
      .ok ((q.walkedRows smallTree smallVisits).foldr
        (insertBy (OrderKey.compareCells keys)) []) := by
  rw [resultRows_sorted h hlimit rfl (visited_smallTree hsource), sortBy_eq_foldr]

/-- Where errors are let pass, the rows of an ordered run are those of the walk in a stable order by
the keys, the groups of ties are reversed if all keys are, and no key of a parsed query asks for a
column that the rows do not have. -/
theorem resultRows_order (q : Query) (c : Catalog) (env : Environment) (o : RunOptions)
    (directory : Directory) (h : q.isAggregate = false) (hlimit : q.limit = none)
    (hstrict : o.strict = false) (hopen : env.tree.open? (q.sourcePath env o) = .ok directory) :
    ∃ walked ordered flipped : List (List Value),
      walked = (Walk.start o.walk (q.sourcePath env o) directory).toList.filterMap
        (fun v => q.resultRow? env.tree v.entry) ∧
      { q with orderBy := [] }.resultRows c env o = .ok walked ∧
      q.resultRows c env o = .ok ordered ∧
      { q with orderBy := q.orderBy.map OrderKey.flip }.resultRows c env o = .ok flipped ∧
      ordered.Perm walked ∧
      ordered.Pairwise (fun r s => OrderKey.Precedes q.orderBy r s ∨ OrderKey.Ties q.orderBy r s) ∧
      (∀ r, ordered.filter (fun s => OrderKey.Ties q.orderBy r s) =
        walked.filter (fun s => OrderKey.Ties q.orderBy r s)) ∧
      (∃ groups : List (List (List Value)),
        TieGroups (OrderKey.Ties q.orderBy) (OrderKey.Precedes q.orderBy) groups ∧
        ordered = groups.flatten ∧ flipped = groups.reverse.flatten) ∧
      ((∃ (c' : Catalog) (ts : List Lexeme), Query.ofLexemes c' ts = .ok q) →
        ∀ row ∈ ordered, ∀ k ∈ q.orderBy, 1 ≤ k.column ∧ k.column ≤ row.length) := by
  have hrun := resultRows_sorted (c := c) h hlimit hstrict (visited_of_open hopen)
  generalize hwalked : q.walkedRows env.tree
    (Walk.start o.walk (q.sourcePath env o) directory).toList = walked at hrun
  have hlength : ∀ row ∈ walked, row.length = q.projections.length :=
    fun row hrow => length_of_mem_walkedRows (hwalked ▸ hrow)
  have hsorted : (sortBy (OrderKey.compareCells q.orderBy) walked).Pairwise fun r s =>
    (OrderKey.compareCells q.orderBy r s).isLE := pairwise_sortBy walked
  have hties : (fun r s => OrderKey.compareCells q.orderBy r s = .eq) = OrderKey.Ties q.orderBy :=
    funext₂ fun _ _ => propext OrderKey.compareCells_eq_eq
  have hprecedes : (fun r s => OrderKey.compareCells q.orderBy r s = .lt) =
      OrderKey.Precedes q.orderBy := funext₂ fun _ _ => propext OrderKey.compareCells_eq_lt
  obtain ⟨groups, hordered, hgroups⟩ := exists_tieGroups hsorted
  refine ⟨walked, _, _, hwalked.symm, ?_, hrun q.orderBy, hrun (q.orderBy.map OrderKey.flip),
    List.mergeSort_perm _ _, ?_, fun r => ?_, ⟨groups, ?_, hordered, ?_⟩, ?_⟩
  · rw [hrun [], sortBy_nil hlength]
  · refine hsorted.imp fun {r s} hrs => ?_
    rw [← OrderKey.compareCells_eq_lt, ← OrderKey.compareCells_eq_eq]
    exact Ordering.isLE_iff_eq_lt_or_eq_eq.1 hrs
  · refine filter_sortBy (fun s s' hs hs' => ?_) walked
    exact Std.TransCmp.eq_trans
      (Std.OrientedCmp.eq_symm (OrderKey.compareCells_eq_eq.2 (of_decide_eq_true hs)))
      (OrderKey.compareCells_eq_eq.2 (of_decide_eq_true hs'))
  · rwa [hties, hprecedes] at hgroups
  · rw [OrderKey.compareCells_flip]
    exact hgroups.sortBy_reversed hordered
  · rintro ⟨c', ts, hparse⟩ row hrow k hk
    obtain ⟨us, -, -, hlegal⟩ := derives_of_ofLexemes hparse
    rw [hlength row ((List.mergeSort_perm _ _).mem_iff.1 hrow)]
    exact hlegal.orderBy k hk

end

/-- Two of three files tie. Whether their group comes first or last, they stay as they are. -/
theorem resultRows_order_smallTree :
    (∃ groups, TieGroups (OrderKey.Ties namesBySize.orderBy)
        (OrderKey.Precedes namesBySize.orderBy) groups ∧
      groups.flatten = [[.string "b", .integer 3, .string "b"],
        [.string "c", .integer 3, .string "c"], [.string "a", .integer 5, .string "a"]] ∧
      groups.reverse.flatten = [[.string "a", .integer 5, .string "a"],
        [.string "b", .integer 3, .string "b"], [.string "c", .integer 3, .string "c"]]) ∧
    Query.ofLexemes .small namesBySizeLexemes = .ok namesBySize ∧
    ∀ row ∈ [[Value.string "b", .integer 3, .string "b"], [.string "c", .integer 3, .string "c"],
        [.string "a", .integer 5, .string "a"]],
      ∀ k ∈ namesBySize.orderBy, 1 ≤ k.column ∧ k.column ≤ row.length := by
  have hup : namesBySize.resultRows .small ⟨smallTree, none⟩ .everywhere =
      .ok [[.string "b", .integer 3, .string "b"], [.string "c", .integer 3, .string "c"],
        [.string "a", .integer 5, .string "a"]] :=
    (resultRows_smallTree (q := namesBySize) rfl rfl rfl namesBySize.orderBy).trans
      (congrArg Except.ok (by decide +kernel))
  have hdown : { namesBySize with orderBy := namesBySize.orderBy.map OrderKey.flip }.resultRows
      .small ⟨smallTree, none⟩ .everywhere =
      .ok [[.string "a", .integer 5, .string "a"], [.string "b", .integer 3, .string "b"],
        [.string "c", .integer 3, .string "c"]] :=
    (resultRows_smallTree (q := namesBySize) rfl rfl rfl
      (namesBySize.orderBy.map OrderKey.flip)).trans (congrArg Except.ok (by decide +kernel))
  obtain ⟨walked, ordered, flipped, -, -, hordered, hflipped, -, -, -, hgroups, hkeys⟩ :=
    resultRows_order namesBySize .small ⟨smallTree, none⟩ .everywhere smallTree.root rfl rfl rfl
      (open?_current rfl smallTree)
  obtain rfl := Except.ok.inj (hordered.symm.trans hup)
  obtain rfl := Except.ok.inj (hflipped.symm.trans hdown)
  obtain ⟨groups, hties, hflatten, hreverse⟩ := hgroups
  exact ⟨⟨groups, hties, hflatten.symm, hreverse.symm⟩, ofLexemes_namesBySize,
    hkeys ⟨.small, _, ofLexemes_namesBySize⟩⟩

end Query

end FileQuery
