import FileQuery.Run.Query

/-!
# Outcomes of reports

Reports form a lawful monad, and taking the outcome of a report commutes with its sequences: the
outcome of a loop of reports is the loop of their outcomes. A proof about how a run ends can
therefore forget the events.

## Main results

* `FileQuery.Report.outcome_mapM`, `FileQuery.Report.outcome_foldlM`.
* `FileQuery.Query.length_of_select`: a selected row has one value for each projection.
* `FileQuery.outcome_valueOf`, `FileQuery.Query.outcome_keeps`, `FileQuery.Query.outcome_select`:
  where errors are let pass, expressions have values and entries are kept or left out.
-/

namespace FileQuery

namespace Report

variable {α β σ : Type}

theorem ext {r s : Report α} (he : r.events = s.events) (ho : r.outcome = s.outcome) : r = s := by
  cases r
  cases s
  simp_all

theorem bind_of_ok {r : Report α} {a : α} (h : r.outcome = .ok a) (f : α → Report β) :
    r >>= f = ⟨r.events ++ (f a).events, (f a).outcome⟩ := by
  obtain ⟨events, outcome⟩ := r
  obtain rfl : outcome = .ok a := h
  rfl

theorem bind_of_error {r : Report α} {e : QueryError} (h : r.outcome = .error e)
    (f : α → Report β) : r >>= f = ⟨r.events, .error e⟩ := by
  obtain ⟨events, outcome⟩ := r
  obtain rfl : outcome = .error e := h
  rfl

instance : LawfulMonad Report := LawfulMonad.mk' Report
  (fun r => by
    obtain ⟨events, _ | _⟩ := r
    · rfl
    · exact ext (List.append_nil _) rfl)
  (fun _ _ => rfl)
  (fun r f g => by
    obtain ⟨events, _ | a⟩ := r
    · rfl
    · change (⟨events ++ (f a).events, (f a).outcome⟩ : Report _) >>= g =
        ⟨events ++ (f a >>= g).events, (f a >>= g).outcome⟩
      cases hf : (f a).outcome with
      | error e => rw [bind_of_error rfl, bind_of_error hf]
      | ok b =>
        rw [bind_of_ok rfl, bind_of_ok hf]
        exact ext (List.append_assoc _ _ _) rfl)

theorem outcome_mapM (f : α → Report β) (xs : List α) :
    (xs.mapM f).outcome = xs.mapM fun x => (f x).outcome := by
  induction xs with
  | nil => rfl
  | cons x xs ih =>
    rw [List.mapM_cons, List.mapM_cons, outcome_bind]
    congr 1
    funext y
    rw [outcome_bind, ih]
    rfl

theorem outcome_foldlM (f : σ → α → Report σ) (s : σ) (xs : List α) :
    (xs.foldlM f s).outcome = xs.foldlM (fun s x => (f s x).outcome) s := by
  induction xs generalizing s with
  | nil => rfl
  | cons x xs ih =>
    rw [List.foldlM_cons, List.foldlM_cons, outcome_bind]
    congr 1
    funext t
    exact ih t

end Report

@[simp] theorem Except.toOption_ok {ε α : Type} (a : α) :
    (.ok a : Except ε α).toOption = some a := rfl

@[simp] theorem Except.toOption_error {ε α : Type} (e : ε) :
    (.error e : Except ε α).toOption = none := rfl

theorem Except.toOption_map {ε α β : Type} (f : α → β) (x : Except ε α) :
    (x.map f).toOption = x.toOption.map f := by
  cases x <;> rfl

theorem Except.toOption_mapError {ε δ α : Type} (f : ε → δ) (x : Except ε α) :
    (x.mapError f).toOption = x.toOption := by
  cases x <;> rfl

theorem Except.toOption_bind {ε α β : Type} (x : Except ε α) (f : α → Except ε β) :
    (x >>= f).toOption = x.toOption.bind fun a => (f a).toOption := by
  cases x <;> rfl

/-- What a sequence that succeeds has gone through. -/
theorem Except.bind_eq_ok {ε α β : Type} {x : Except ε α} {f : α → Except ε β} {b : β} :
    x >>= f = .ok b ↔ ∃ a, x = .ok a ∧ f a = .ok b := by
  cases x with
  | error e => exact ⟨fun h => (nomatch h), fun ⟨_, h, _⟩ => (nomatch h)⟩
  | ok a => exact ⟨fun h => ⟨a, rfl, h⟩, fun ⟨_, ha, h⟩ => Except.ok.inj ha ▸ h⟩

/-- Where a sequence that fails has failed. -/
theorem Except.of_bind_eq_error {ε α β : Type} {x : Except ε α} {f : α → Except ε β} {e : ε}
    (h : x >>= f = .error e) : x = .error e ∨ ∃ a, x = .ok a ∧ f a = .error e := by
  cases x with
  | error e' => exact Or.inl (congrArg Except.error (Except.error.inj h))
  | ok a => exact Or.inr ⟨a, rfl, h⟩

theorem Except.of_mapError_eq_error {ε δ α : Type} {f : ε → δ} {x : Except ε α} {e : δ}
    (h : x.mapError f = .error e) : ∃ cause, f cause = e := by
  cases x with
  | error cause => exact ⟨cause, Except.error.inj h⟩
  | ok a => cases h

theorem Except.mapError_eq_ok {ε δ α : Type} {f : ε → δ} {x : Except ε α} {a : α} :
    x.mapError f = .ok a ↔ x = .ok a := by
  cases x with
  | error e => exact ⟨fun h => (by cases h), fun h => (by cases h)⟩
  | ok b => exact ⟨fun h => congrArg Except.ok (Except.ok.inj h),
      fun h => congrArg Except.ok (Except.ok.inj h)⟩

theorem Except.map_bind {ε α β γ : Type} (f : β → γ) (x : Except ε α) (g : α → Except ε β) :
    (x >>= g).map f = x >>= fun a => (g a).map f := by
  cases x <;> rfl

/-- A loop whose steps do not fail. -/
theorem Except.mapM_ok {ε α β : Type} (f : α → β) (xs : List α) :
    xs.mapM (fun x => (.ok (f x) : Except ε β)) = .ok (xs.map f) :=
  List.mapM_pure

/-- A loop without a failure has one result for each item. -/
theorem Except.length_of_mapM {ε α β : Type} {f : α → Except ε β} {xs : List α} {ys : List β}
    (h : xs.mapM f = .ok ys) : ys.length = xs.length := by
  induction xs generalizing ys with
  | nil =>
    obtain rfl : [] = ys := Except.ok.inj h
    rfl
  | cons x xs ih =>
    rw [List.mapM_cons, Except.bind_eq_ok] at h
    obtain ⟨y, -, h⟩ := h
    obtain ⟨zs, hzs, h⟩ := Except.bind_eq_ok.1 h
    obtain rfl : y :: zs = ys := Except.ok.inj h
    rw [List.length_cons, List.length_cons, ih hzs]

variable [PatternEngine]

/-- A selected row has one value for each projection. -/
theorem Query.length_of_select {q : Query} {strict : Bool} {t : Tree} {e : Entry}
    {row : List Value} (h : (q.select strict t e).outcome = .ok (some row)) :
    row.length = q.projections.length := by
  rw [Query.select, Report.outcome_bind, Except.bind_eq_ok] at h
  obtain ⟨kept, -, h⟩ := h
  cases kept with
  | false => cases h
  | true =>
    rw [if_pos rfl, Report.outcome_bind, Except.bind_eq_ok] at h
    obtain ⟨values, hvalues, h⟩ := h
    obtain rfl : values = row := Option.some.inj (Except.ok.inj h)
    rw [Report.outcome_mapM] at hvalues
    exact Except.length_of_mapM hvalues

/-! ### Errors that are let pass -/

/-- The value of an expression on a row, null where it has none. -/
def Expr.valueOrNull (row : Row) (finals : List Value) (e : Expr) : Value :=
  (e.eval row finals).toOption.getD .null

/-- Whether the predicate holds on a row; a row on which it has no value is not accepted. -/
def Query.accepts (q : Query) (row : Row) : Bool :=
  q.predicate.all fun e => (e.holds row).toOption.getD false

theorem outcome_valueOf (row : Row) (finals : List Value) (p : Option Path) (e : Expr) :
    (valueOf false row finals p e).outcome = .ok (e.valueOrNull row finals) := by
  rw [valueOf, Expr.valueOrNull]
  cases e.eval row finals <;> rfl

theorem Query.outcome_keeps (q : Query) (row : Row) (p : Path) :
    (q.keeps false row p).outcome = .ok (q.accepts row) := by
  rw [keeps, accepts]
  cases q.predicate with
  | none => rfl
  | some e =>
    dsimp only [Option.all_some]
    cases e.holds row <;> rfl

/-- The row of the result that an entry gives where errors are let pass. -/
def Query.resultRow? (q : Query) (t : Tree) (e : Entry) : Option (List Value) :=
  if q.accepts (q.rowOf t e) then
    some (q.projections.map fun p => p.expr.valueOrNull (q.rowOf t e) [])
  else none

theorem Query.outcome_select (q : Query) (t : Tree) (e : Entry) :
    (q.select false t e).outcome = .ok (q.resultRow? t e) := by
  rw [select, Report.outcome_bind, outcome_keeps, resultRow?]
  cases q.accepts (q.rowOf t e) with
  | false => rfl
  | true =>
    change (Report.outcome (_ >>= _)) = _
    simp only [Report.outcome_bind, Report.outcome_mapM, outcome_valueOf, Except.mapM_ok]
    rfl

end FileQuery
