import FileQuery.Proofs.Run.Totals

/-!
# The attributes that a query reads

A run gives its rows only the attributes that occur in the projections or the predicate; all others
read as null and not as an error. That nothing is missed rests on the collection of attributes going
wherever evaluation goes: into arguments of arguments, operands and the predicate. Evaluation then
does not see which other attributes a row has, so that every test, value, update and last pass of a
run is what it would be on the row of all attributes of the entry.

## Main results

* `FileQuery.Query.keeps_congr`, `FileQuery.Query.mapM_valueOf_congr`,
  `FileQuery.Query.update_congr`, `FileQuery.Query.finalRow_congr`: rows that agree on the
  attributes of a query cannot be told apart by its steps.
* `FileQuery.Query.eval_rowOf`: the attributes that are read are enough.
-/

namespace FileQuery

/-- Where two rows give an expression the same value, it is reported alike. -/
theorem valueOf_congr [PatternEngine] {row row' : Row} {finals : List Value} {e : Expr}
    (h : e.eval row finals = e.eval row' finals) (strict : Bool) (p : Option Path) :
    valueOf strict row finals p e = valueOf strict row' finals p e := by
  rw [valueOf, valueOf, h]

namespace Query

variable {q : Query} {row row' : Row}

/-! ### Expressions of a query -/

section

variable [PatternEngine]

theorem eval_predicate_congr (h : ∀ a ∈ q.referencedAttributes, row a = row' a) {e : Expr}
    (he : e ∈ q.predicate) (finals : List Value) : e.eval row finals = e.eval row' finals := by
  have hmem : e ∈ q.expressions := List.mem_append_right _ (Option.mem_toList.2 he)
  exact Expr.eval_congr (fun a ha => h a (columns_subset hmem a ha)) finals

theorem eval_projection_congr (h : ∀ a ∈ q.referencedAttributes, row a = row' a) {p : Projection}
    (hp : p ∈ q.projections) (finals : List Value) :
    p.expr.eval row finals = p.expr.eval row' finals :=
  Expr.eval_congr (fun a ha => h a (columns_subset (mem_expressions_of_projection hp) a ha)) finals

/-- Arguments of aggregate calls read what their projection reads. -/
theorem eval_argument_congr (h : ∀ a ∈ q.referencedAttributes, row a = row' a) {c : AggregateCall}
    (hc : c ∈ q.aggregateCalls) {x : Expr} (hx : x ∈ c.args) (finals : List Value) :
    x.eval row finals = x.eval row' finals := by
  obtain ⟨p, hp, hcall⟩ := List.mem_flatMap.1 hc
  refine Expr.eval_congr (fun a ha => h a ?_) finals
  exact columns_subset (mem_expressions_of_projection hp) a
    (Expr.mem_columns_of_mem_calls (Expr.mem_calls_of_mem_aggregateCalls hcall) hx ha)

/-! ### Steps of a run -/

theorem keeps_congr (h : ∀ a ∈ q.referencedAttributes, row a = row' a) (strict : Bool) (p : Path) :
    q.keeps strict row p = q.keeps strict row' p := by
  rw [keeps, keeps]
  cases hpredicate : q.predicate with
  | none => rfl
  | some e =>
    dsimp only
    rw [Expr.holds, Expr.holds, eval_predicate_congr h hpredicate]

theorem mapM_valueOf_congr (h : ∀ a ∈ q.referencedAttributes, row a = row' a) (strict : Bool)
    (p : Option Path) :
    q.projections.mapM (fun c => valueOf strict row [] p c.expr) =
      q.projections.mapM fun c => valueOf strict row' [] p c.expr :=
  mapM_congr fun _ hc => valueOf_congr (eval_projection_congr h hc []) strict p

theorem update_congr (h : ∀ a ∈ q.referencedAttributes, row a = row' a) (strict : Bool) (p : Path)
    (as : List Accumulator) :
    Summary.update strict row p q.aggregateCalls as =
      Summary.update strict row' p q.aggregateCalls as := by
  have hcalls : ∀ c ∈ q.aggregateCalls, ∀ x ∈ c.args, x.eval row [] = x.eval row' [] :=
    fun c hc x hx => eval_argument_congr h hc hx []
  generalize q.aggregateCalls = calls at hcalls
  induction calls generalizing as with
  | nil => rfl
  | cons c cs ih =>
    obtain ⟨hc, hcs⟩ := List.forall_mem_cons.1 hcalls
    cases as with
    | nil => rfl
    | cons a as =>
      rw [Summary.update, Summary.update]
      simp only [mapM_congr fun x hx => valueOf_congr (hc x hx) strict (some p), ih as hcs]

theorem finalRow_congr (h : ∀ a ∈ q.referencedAttributes, row a = row' a) (strict : Bool)
    (finals : List Value) :
    finalRow strict row finals q.projections = finalRow strict row' finals q.projections := by
  have hvalues : ∀ p ∈ q.projections, ∀ finals, p.expr.eval row finals = p.expr.eval row' finals :=
    fun p hp => eval_projection_congr h hp
  generalize q.projections = ps at hvalues
  induction ps generalizing finals with
  | nil => rfl
  | cons p ps ih =>
    obtain ⟨hp, hps⟩ := List.forall_mem_cons.1 hvalues
    rw [finalRow, finalRow]
    simp only [valueOf_congr (hp finals) strict none, ih _ hps]

/-! ### Rows of entries -/

omit [PatternEngine] in
/-- The row of a query agrees with the row of all attributes on those that the query reads. -/
theorem rowOf_agrees (q : Query) (t : Tree) (e : Entry) :
    ∀ a ∈ q.referencedAttributes, q.rowOf t e a = Row.ofEntry t.location e a :=
  fun _ ha => Row.restrict_of_mem _ ha

/-- The attributes that a query reads are enough. On the row that has only these, the predicate,
every projection, whatever the final values of its aggregate calls are, and every argument of an
aggregate call have the value or the error that they have on the row of all attributes. So the steps
of a run, strict or not, do and report the same on both rows. -/
theorem eval_rowOf (q : Query) (t : Tree) (e : Entry) :
    (∀ x ∈ q.predicate, x.eval (q.rowOf t e) [] = x.eval (Row.ofEntry t.location e) []) ∧
    (∀ p ∈ q.projections, ∀ finals,
      p.expr.eval (q.rowOf t e) finals = p.expr.eval (Row.ofEntry t.location e) finals) ∧
    (∀ c ∈ q.aggregateCalls, ∀ x ∈ c.args,
      x.eval (q.rowOf t e) [] = x.eval (Row.ofEntry t.location e) []) ∧
    ∀ strict,
      q.keeps strict (q.rowOf t e) e.path = q.keeps strict (Row.ofEntry t.location e) e.path ∧
      (q.projections.mapM fun c => valueOf strict (q.rowOf t e) [] (some e.path) c.expr) =
        (q.projections.mapM fun c =>
          valueOf strict (Row.ofEntry t.location e) [] (some e.path) c.expr) ∧
      (∀ as, Summary.update strict (q.rowOf t e) e.path q.aggregateCalls as =
        Summary.update strict (Row.ofEntry t.location e) e.path q.aggregateCalls as) ∧
      ∀ finals, finalRow strict (q.rowOf t e) finals q.projections =
        finalRow strict (Row.ofEntry t.location e) finals q.projections := by
  have h := q.rowOf_agrees t e
  refine ⟨fun x hx => eval_predicate_congr h hx [], fun p hp => eval_projection_congr h hp,
    fun c hc x hx => eval_argument_congr h hc hx [], fun strict => ⟨keeps_congr h strict e.path,
      mapM_valueOf_congr h strict (some e.path), update_congr h strict e.path,
      finalRow_congr h strict⟩⟩

end

/-- The query `select length(upper(name)) - -depth, fmtSize(sum(size)) from . where not is_dir`. -/
def nestedReads : Query :=
  ⟨[⟨.binary (.arithmetic .subtract)
      (.call (.scalar .length) [.call (.scalar .upper) [.column .name]])
      (.unary .negate (.column .depth)), none⟩,
    ⟨.call (.scalar .formatSize) [.call (.aggregate .sum) [.column .size]], none⟩],
    ".", some (.unary .not (.column .isDirectory)), [], none⟩

/-- Four attributes are read, each of them below an operator or a call. The others are null, and yet
nothing that the query evaluates is. -/
theorem eval_rowOf_nested :
    nestedReads.referencedAttributes = [.name, .depth, .size, .isDirectory] ∧
    nestedReads.rowOf ⟨⟨[]⟩, []⟩ (fileOfSize 3) .mediaType = .null ∧
    (∀ x ∈ nestedReads.predicate,
      x.eval (nestedReads.rowOf ⟨⟨[]⟩, []⟩ (fileOfSize 3)) [] = .ok (.boolean true)) ∧
    (∀ c ∈ nestedReads.aggregateCalls, ∀ x ∈ c.args,
      x.eval (nestedReads.rowOf ⟨⟨[]⟩, []⟩ (fileOfSize 3)) [] = .ok (.integer 3)) := by
  obtain ⟨hpredicate, -, hargs, -⟩ := eval_rowOf nestedReads ⟨⟨[]⟩, []⟩ (fileOfSize 3)
  refine ⟨by decide, by decide, fun x hx => ?_, fun c hc x hx => ?_⟩
  · rw [hpredicate x hx]
    obtain rfl := Option.some.inj hx
    rfl
  · rw [hargs c hc x hx]
    obtain rfl := List.mem_singleton.1 hc
    obtain rfl := List.mem_singleton.1 hx
    rfl

end Query

end FileQuery
