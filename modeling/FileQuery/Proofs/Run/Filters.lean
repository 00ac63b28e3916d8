import FileQuery.Proofs.Run.Limit
import FileQuery.Proofs.Run.Totals

/-!
# Filters as set operations

An entry is kept if the predicate is true on it. A predicate may be false there, or null, or no
truth value at all, or have no value; all of these leave the entry out where errors are let pass,
but they do not behave alike under the logical operators. A conjunction is true exactly if both
operands are, so it keeps what both keep. A disjunction is true only if one of the operands is: it
keeps nothing new, but an operand without a truth value spoils it. A negation is true exactly if its
operand is false, so it leaves out more than what the operand keeps.

## Main definitions

* `FileQuery.Query.filteredBy`: the same query with another predicate.
* `FileQuery.Query.keepsEntry`, `FileQuery.Query.kept`: the entries that are kept.
* `FileQuery.Query.returned`: the same entries in the order of the query.

## Main results

* `FileQuery.Query.keepsEntry_and`, `FileQuery.Query.keepsEntry_or`,
  `FileQuery.Query.keepsEntry_not`: the logical operators.
* `FileQuery.Query.resultRows_eq`: the result is made of the entries that are returned.
* `FileQuery.Query.resultRows_logic`: filters by compound predicates.
-/

namespace FileQuery

/-! ### Truth of compound expressions -/

namespace BinaryOp

variable {x y : Value}

theorem logic_conjunction_eq_true :
    logic conjunction x y = .ok (.boolean true) ↔ x = .boolean true ∧ y = .boolean true := by
  rcases x with _ | (_ | _) | _ | _ | _ | _ <;> rcases y with _ | (_ | _) | _ | _ | _ | _ <;>
    simp [logic, truth?, conjunction, bind, Except.bind, pure, Except.pure]

theorem eq_true_of_logic_disjunction (h : logic disjunction x y = .ok (.boolean true)) :
    x = .boolean true ∨ y = .boolean true := by
  revert h
  rcases x with _ | (_ | _) | _ | _ | _ | _ <;> rcases y with _ | (_ | _) | _ | _ | _ | _ <;>
    simp [logic, truth?, disjunction, bind, Except.bind, pure, Except.pure]

end BinaryOp

theorem UnaryOp.apply_not_eq_true {x : Value} :
    UnaryOp.not.apply x = .ok (.boolean true) ↔ x = .boolean false := by
  rcases x with _ | (_ | _) | _ | _ | _ | _ <;> simp [UnaryOp.apply]

namespace Expr

variable [PatternEngine] {row : Row} {l r : Expr}

/-- A predicate holds if it is true; all else, null among it, leaves the row out. -/
theorem holds_eq_true {e : Expr} :
    e.holds row = .ok true ↔ e.eval row [] = .ok (.boolean true) := by
  rw [holds]
  cases e.eval row [] with
  | error cause => simp [bind, Except.bind]
  | ok v =>
    cases v with
    | boolean b => cases b <;> simp [bind, Except.bind, pure, Except.pure]
    | null => simp [bind, Except.bind, pure, Except.pure]
    | _ => simp [bind, Except.bind]

/-- Both operands of a binary operator are evaluated. -/
theorem eval_binary_eq_ok {op : BinaryOp} {v : Value} :
    (Expr.binary op l r).eval row [] = .ok v ↔
      ∃ x y, l.eval row [] = .ok x ∧ r.eval row [] = .ok y ∧ op.apply x y = .ok v := by
  rw [eval, List.drop_nil, Except.bind_eq_ok]
  simp only [Except.bind_eq_ok, Except.mapError_eq_ok, exists_and_left]

theorem eval_and_eq_true : (Expr.binary .and l r).eval row [] = .ok (.boolean true) ↔
    l.eval row [] = .ok (.boolean true) ∧ r.eval row [] = .ok (.boolean true) := by
  rw [eval_binary_eq_ok]
  constructor
  · rintro ⟨x, y, hx, hy, h⟩
    obtain ⟨rfl, rfl⟩ := BinaryOp.logic_conjunction_eq_true.1 h
    exact ⟨hx, hy⟩
  · rintro ⟨hl, hr⟩
    exact ⟨_, _, hl, hr, BinaryOp.logic_conjunction_eq_true.2 ⟨rfl, rfl⟩⟩

theorem eq_true_of_eval_or (h : (Expr.binary .or l r).eval row [] = .ok (.boolean true)) :
    l.eval row [] = .ok (.boolean true) ∨ r.eval row [] = .ok (.boolean true) := by
  obtain ⟨x, y, hx, hy, h⟩ := eval_binary_eq_ok.1 h
  rcases BinaryOp.eq_true_of_logic_disjunction h with rfl | rfl
  · exact Or.inl hx
  · exact Or.inr hy

theorem eval_not_eq_true : (Expr.unary .not l).eval row [] = .ok (.boolean true) ↔
    l.eval row [] = .ok (.boolean false) := by
  rw [eval, Except.bind_eq_ok]
  simp only [Except.mapError_eq_ok, UnaryOp.apply_not_eq_true]
  exact ⟨fun ⟨_, h, hx⟩ => hx ▸ h, fun h => ⟨_, h, rfl⟩⟩

end Expr

namespace Query

variable {q : Query} {t : Tree} {e : Entry} {p l r : Expr}

/-! ### Entries that are kept -/

/-- The same query with another predicate. -/
def filteredBy (q : Query) (p : Expr) : Query := { q with predicate := some p }

section

variable [PatternEngine]

/-- Whether an entry is kept where errors are let pass. -/
def keepsEntry (q : Query) (t : Tree) (e : Entry) : Bool :=
  (q.keeps false (q.rowOf t e) e.path).outcome.toOption.getD false

theorem keepsEntry_eq_accepts : q.keepsEntry t e = q.accepts (Row.ofEntry t.location e) := by
  rw [keepsEntry, outcome_keeps, accepts_rowOf]
  rfl

/-- An entry is kept if the predicate is true on the row of all its attributes. -/
theorem keepsEntry_filteredBy : (q.filteredBy p).keepsEntry t e = true ↔
    p.eval (Row.ofEntry t.location e) [] = .ok (.boolean true) := by
  rw [keepsEntry_eq_accepts, ← Expr.holds_eq_true, accepts, filteredBy, Option.all_some]
  cases p.holds (Row.ofEntry t.location e) <;> simp

theorem keepsEntry_and : (q.filteredBy (.binary .and l r)).keepsEntry t e =
    ((q.filteredBy l).keepsEntry t e && (q.filteredBy r).keepsEntry t e) := by
  rw [Bool.eq_iff_iff, Bool.and_eq_true]
  simp only [keepsEntry_filteredBy]
  exact Expr.eval_and_eq_true

theorem keepsEntry_or (h : (q.filteredBy (.binary .or l r)).keepsEntry t e = true) :
    (q.filteredBy l).keepsEntry t e = true ∨ (q.filteredBy r).keepsEntry t e = true := by
  rw [keepsEntry_filteredBy] at h
  rw [keepsEntry_filteredBy, keepsEntry_filteredBy]
  exact Expr.eq_true_of_eval_or h

theorem keepsEntry_not : (q.filteredBy (.unary .not p)).keepsEntry t e = true ↔
    p.eval (Row.ofEntry t.location e) [] = .ok (.boolean false) :=
  keepsEntry_filteredBy.trans Expr.eval_not_eq_true

/-! ### Entries that are returned -/

/-- The entries that are kept, in the order of the walk. -/
def kept (q : Query) (t : Tree) (visits : List Visit) : List Entry :=
  (visits.map Visit.entry).filter (q.keepsEntry t)

/-- The values of the projections on an entry, null for one that has no value there. -/
def valuesAt (q : Query) (t : Tree) (e : Entry) : List Value :=
  q.projections.map fun p => p.expr.valueOrNull (Row.ofEntry t.location e) []

/-- Entries are compared by their values in the columns of the keys. -/
def compareEntries (q : Query) (t : Tree) (e e' : Entry) : Ordering :=
  OrderKey.compareCells q.orderBy (q.valuesAt t e) (q.valuesAt t e')

instance (q : Query) (t : Tree) : Std.TransCmp (q.compareEntries t) where
  eq_swap := (OrderKey.transCmp_compareCells q.orderBy).eq_swap
  isLE_trans := (OrderKey.transCmp_compareCells q.orderBy).isLE_trans

/-- The entries that are kept, in the order of the query. -/
def returned (q : Query) (t : Tree) (visits : List Visit) : List Entry :=
  sortBy (q.compareEntries t) (q.kept t visits)

/-- The first rows, as many as the limit admits. -/
def cut (q : Query) (rows : List (List Value)) : List (List Value) := q.limit.elim rows rows.take

theorem mem_returned {visits : List Visit} : e ∈ q.returned t visits ↔
    e ∈ visits.map Visit.entry ∧ q.keepsEntry t e = true := by
  rw [returned, sortBy, List.mem_mergeSort, kept, List.mem_filter]

theorem kept_and (visits : List Visit) : (q.filteredBy (.binary .and l r)).kept t visits =
    ((q.filteredBy l).kept t visits).filter ((q.filteredBy r).keepsEntry t) := by
  rw [kept, kept, List.filter_filter]
  refine List.filter_congr fun e _ => ?_
  rw [keepsEntry_and, Bool.and_comm]

/-- A filter by a conjunction returns what both filters return. -/
theorem returned_and (visits : List Visit) :
    (q.filteredBy (.binary .and l r)).returned t visits =
      ((q.filteredBy l).returned t visits).filter
        (· ∈ (q.filteredBy r).returned t visits) := by
  have hsort : (q.filteredBy (.binary .and l r)).returned t visits =
      ((q.filteredBy l).returned t visits).filter ((q.filteredBy r).keepsEntry t) := by
    rw [returned, kept_and]
    change sortBy (q.compareEntries t) _ = (sortBy (q.compareEntries t) _).filter _
    exact sortBy_filter _ _
  rw [hsort]
  refine List.filter_congr fun e he => ?_
  rw [Bool.eq_iff_iff, decide_eq_true_iff, mem_returned]
  exact (and_iff_right (mem_returned.1 he).1).symm

/-! ### Results made of the entries that are returned -/

theorem walkedRows_eq (visits : List Visit) :
    q.walkedRows t visits = (q.kept t visits).map (q.valuesAt t) := by
  have hrow (v : Visit) : q.resultRow? t v.entry =
      if q.keepsEntry t v.entry then some (q.valuesAt t v.entry) else none := by
    rw [resultRow?, keepsEntry_eq_accepts, accepts_rowOf]
    congr 2
    -- A run restricts the row to the columns that the query reads; projections read no others.
    refine List.map_congr_left fun p hp => ?_
    exact Expr.valueOrNull_congr (rowOf_eq (columns_subset (mem_expressions_of_projection hp))) []
  rw [walkedRows, kept]
  simp only [hrow]
  induction visits with
  | nil => rfl
  | cons v vs ih =>
    rw [List.filterMap_cons, List.map_cons, List.filter_cons]
    cases q.keepsEntry t v.entry with
    | false => exact ih
    | true => exact congrArg (q.valuesAt t v.entry :: ·) ih

/-- Ordering the rows of the walk orders the entries. -/
theorem order_walkedRows (visits : List Visit) :
    q.order (q.walkedRows t visits) = (q.returned t visits).map (q.valuesAt t) := by
  rw [order_eq_sortBy fun _ hrow => length_of_mem_walkedRows hrow, walkedRows_eq, returned, sortBy,
    sortBy]
  refine (List.map_mergeSort ?_).symm
  exact fun _ _ _ _ => rfl

/-- Where errors are let pass, a run shows the values of the entries that are returned. -/
theorem resultRows_eq {c : Catalog} {env : Environment} {o : RunOptions}
    (h : q.isAggregate = false) (hstrict : o.strict = false) :
    q.resultRows c env o = (q.visited env o).map fun visits =>
      q.cut ((q.returned env.tree visits).map (q.valuesAt env.tree)) := by
  rw [resultRows_of_scalar h]
  cases q.visited env o with
  | error cause => rfl
  | ok visits =>
    have hselection := q.selection_lenient env.tree visits
    rw [hstrict]
    change (q.selectRows false env.tree visits).outcome.map Prod.fst = .ok (q.cut _)
    rw [cut, ← order_walkedRows]
    cases hlimit : q.limit with
    | none =>
      rw [selectRows_unlimited hlimit, hselection]
      rfl
    | some n => exact selectRows_limited hselection hlimit

/-- Filters by compound predicates. On every entry a conjunction keeps what both operands keep, a
disjunction only what one of them keeps, and a negation that on which its operand is false. So a
run with a conjunction returns, in order, the entries that the runs with its operands both return;
a limit is applied to these. -/
theorem resultRows_logic (q : Query) (l r : Expr) :
    (∀ t e,
      ((q.filteredBy (.binary .and l r)).keepsEntry t e =
        ((q.filteredBy l).keepsEntry t e && (q.filteredBy r).keepsEntry t e)) ∧
      ((q.filteredBy (.binary .or l r)).keepsEntry t e = true →
        (q.filteredBy l).keepsEntry t e = true ∨ (q.filteredBy r).keepsEntry t e = true) ∧
      ((q.filteredBy (.unary .not l)).keepsEntry t e = true ↔
        l.eval (Row.ofEntry t.location e) [] = .ok (.boolean false)) ∧
      ¬((q.filteredBy (.unary .not l)).keepsEntry t e = true ∧
        (q.filteredBy l).keepsEntry t e = true)) ∧
    ∀ c env o, q.isAggregate = false → o.strict = false →
      (∀ p, (q.filteredBy p).resultRows c env o = (q.visited env o).map fun visits =>
        q.cut (((q.filteredBy p).returned env.tree visits).map (q.valuesAt env.tree))) ∧
      ∀ visits, (q.filteredBy (.binary .and l r)).returned env.tree visits =
        ((q.filteredBy l).returned env.tree visits).filter
          (· ∈ (q.filteredBy r).returned env.tree visits) := by
  refine ⟨fun t e => ⟨keepsEntry_and, keepsEntry_or, keepsEntry_not, ?_⟩,
    fun c env o h hstrict => ⟨fun p => ?_, fun visits => returned_and visits⟩⟩
  · rintro ⟨hnot, hl⟩
    rw [keepsEntry_not] at hnot
    rw [keepsEntry_filteredBy, hnot] at hl
    cases hl
  · exact resultRows_eq (q := q.filteredBy p) h hstrict

end

/-- The predicate `size < 5`, true on `b`, `c` and the directory `d`. -/
def isSmall : Expr := .binary (.relation .less) (.column .size) (.literal (.integer 5))

/-- The predicate `name != 'b'`, true on `a`, `c` and the directory `d`. -/
def isNotB : Expr := .binary (.relation .notEqual) (.column .name) (.literal (.string "b"))

/-- Each of the predicates keeps three of the entries, and `d` and `c` are kept by both. -/
theorem resultRows_logic_smallTree :
    (filesBySize.filteredBy (.binary .and isSmall isNotB)).resultRows .empty ⟨smallTree, none⟩
        .everywhere = .ok [[.string "d", .integer 0], [.string "c", .integer 3]] ∧
      (filesBySize.filteredBy (.binary .and isSmall isNotB)).resultRows .empty ⟨smallTree, none⟩
        .everywhere = (filesBySize.visited ⟨smallTree, none⟩ .everywhere).map fun visits =>
          filesBySize.cut ((((filesBySize.filteredBy isSmall).returned smallTree visits).filter
            (· ∈ (filesBySize.filteredBy isNotB).returned smallTree visits)).map
              (filesBySize.valuesAt smallTree)) := by
  have hrows : (filesBySize.filteredBy (.binary .and isSmall isNotB)).resultRows .empty
      ⟨smallTree, none⟩ .everywhere =
        .ok [[.string "d", .integer 0], [.string "c", .integer 3]] :=
    (resultRows_smallTree (q := filesBySize.filteredBy (.binary .and isSmall isNotB)) rfl rfl rfl
      filesBySize.orderBy).trans (congrArg Except.ok (by decide +kernel))
  obtain ⟨hruns, hreturned⟩ := (resultRows_logic filesBySize isSmall isNotB).2 .empty
    ⟨smallTree, none⟩ .everywhere rfl rfl
  refine ⟨hrows, (hruns (.binary .and isSmall isNotB)).trans ?_⟩
  simp only [hreturned]

end Query

end FileQuery
