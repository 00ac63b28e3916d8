import FileQuery.Proofs.Catalog.Standard
import FileQuery.Proofs.Run.Outcome
import FileQuery.Proofs.Value.Comparisons

/-!
# Null goes through

An attribute that an entry does not have is null. Most operators and functions need their operands:
where one of these is null they give null, or an error if another operand is of the wrong kind and
looked at first, but nothing concrete. So what is not known of an entry stays unknown below any
nesting of them. Equality, the logical operators, `concat` and `coalesce` are not among them, nor
are arguments that may be left out.

## Main definitions

* `FileQuery.Unknown`: an evaluation that gives nothing concrete.
* `FileQuery.ScalarFunction.needed`: how many of its first arguments a function needs.
* `FileQuery.Expr.StrictIn`: expressions that need the value of an attribute.

## Main results

* `FileQuery.ScalarFunction.unknown_apply`: a function without an argument that it needs.
* `FileQuery.ScalarFunction.needed_eq_least`: all arguments that a call must have are needed.
* `FileQuery.Expr.StrictIn.unknown_eval`: expressions on a row without the attribute.
* `FileQuery.Expr.eval_strictIn`: the same for filters and projections of a run.
-/

namespace FileQuery

/-! ### Evaluations that give nothing concrete -/

/-- An evaluation that gives nothing concrete: it fails, or its value is null. -/
def Unknown {ε : Type} (x : Except ε Value) : Prop := ∀ v, x = .ok v → v = .null

namespace Unknown

variable {α ε δ : Type} {x : Except ε Value}

theorem null : Unknown (.ok .null : Except ε Value) := fun _ hv => (Except.ok.inj hv).symm

theorem mapError (h : Unknown x) (f : ε → δ) : Unknown (x.mapError f) :=
  fun v hv => h v (Except.mapError_eq_ok.1 hv)

/-- A sequence gives nothing concrete if its last step does not. -/
theorem bind {x : Except ε α} {f : α → Except ε Value} (h : ∀ a, x = .ok a → Unknown (f a)) :
    Unknown (x >>= f) := fun v hv => by
  obtain ⟨a, ha, hv⟩ := Except.bind_eq_ok.1 hv
  exact h a ha v hv

end Unknown

/-! ### Operators -/

theorem UnaryOp.apply_null (op : UnaryOp) : op.apply .null = .ok .null := by
  cases op <;> rfl

theorem Arithmetic.apply_null {op : Arithmetic} {x y : Value} (h : x = .null ∨ y = .null) :
    op.apply x y = .ok .null := by
  rcases h with rfl | rfl
  · rfl
  · cases x <;> rfl

/-- The binary operators that need both operands. -/
def BinaryOp.NeedsOperands : BinaryOp → Prop
  | .arithmetic _ => True
  | .relation r => r.IsOrdering
  | _ => False

theorem BinaryOp.apply_null {op : BinaryOp} (hop : op.NeedsOperands) {x y : Value}
    (h : x = .null ∨ y = .null) : op.apply x y = .ok .null := by
  cases op with
  | arithmetic op => exact Arithmetic.apply_null h
  | relation r => exact Relation.apply_null hop h
  | _ => cases hop

/-! ### Functions -/

namespace ScalarFunction

variable {args : List Value} {i : Nat}

theorem eq_none_of_stringArg (h : arg args i = .null) {s : Option String}
    (hs : stringArg args i = .ok s) : s = none := by
  rw [stringArg, h] at hs
  exact (Except.ok.inj hs).symm

theorem eq_none_of_integerArg (h : arg args i = .null) {n : Option Int64}
    (hn : integerArg args i = .ok n) : n = none := by
  rw [integerArg, h] at hn
  exact (Except.ok.inj hn).symm

theorem unknown_onString (h : arg args 0 = .null) (f : String → Value) :
    Unknown (onString args f) :=
  .bind fun _ hs => eq_none_of_stringArg h hs ▸ .null

theorem unknown_onStrings (h : arg args 0 = .null ∨ arg args 1 = .null)
    (f : List Char → List Char → Bool) : Unknown (onStrings args f) := by
  refine .bind fun s hs => .bind fun t ht => ?_
  rcases h with h | h
  · obtain rfl := eq_none_of_stringArg h hs
    exact .null
  · obtain rfl := eq_none_of_stringArg h ht
    cases s <;> exact .null

theorem unknown_onDate (h : arg args 0 = .null) (f : Date → Int) : Unknown (onDate args f) := by
  rw [onDate, h]
  exact .null

theorem unknown_replaceIn (h : arg args 0 = .null ∨ arg args 1 = .null ∨ arg args 2 = .null) :
    Unknown (replaceIn args) := by
  refine .bind fun text htext => .bind fun old hold => .bind fun new hnew => ?_
  rcases h with h | h | h
  · obtain rfl := eq_none_of_stringArg h htext
    exact .null
  · obtain rfl := eq_none_of_stringArg h hold
    cases text <;> exact .null
  · obtain rfl := eq_none_of_stringArg h hnew
    cases text <;> cases old <;> exact .null

theorem unknown_substringOf (h : arg args 0 = .null ∨ arg args 1 = .null) :
    Unknown (substringOf args) := by
  refine .bind fun text htext => .bind fun start hstart => ?_
  rcases h with h | h
  · obtain rfl := eq_none_of_stringArg h htext
    exact .null
  · obtain rfl := eq_none_of_integerArg h hstart
    cases text <;> exact .null

theorem unknown_matchIn [PatternEngine] (h : arg args 0 = .null ∨ arg args 1 = .null) :
    Unknown (matchIn args) := by
  refine .bind fun text htext => .bind fun pattern hpattern => ?_
  rcases h with h | h
  · obtain rfl := eq_none_of_stringArg h htext
    exact .null
  · obtain rfl := eq_none_of_stringArg h hpattern
    cases text <;> exact .null

theorem unknown_absolute (h : arg args 0 = .null) : Unknown (absolute args) := by
  rw [absolute, h]
  exact .null

/-- The precision is looked at before the number, so that it may be an error. -/
theorem unknown_roundValue (h : arg args 0 = .null) : Unknown (roundValue args) := by
  rw [roundValue, h]
  exact .bind fun _ _ => .null

theorem unknown_sizeText (h : arg args 0 = .null) : Unknown (sizeText args) := by
  rw [sizeText, h]
  exact .bind fun _ _ => .null

theorem unknown_timeText (h : arg args 0 = .null) : Unknown (timeText args) := by
  rw [timeText, h]
  exact .null

/-- How many of its first arguments a function needs. -/
def needed : ScalarFunction → Nat
  | .concat | .coalesce => 0
  | .substring | .contains | .startsWith | .endsWith | .matchesPattern => 2
  | .replace => 3
  | _ => 1

/-- Without an argument that it needs, a function gives nothing concrete. -/
theorem unknown_apply [PatternEngine] (f : ScalarFunction) (hi : i < f.needed)
    (h : arg args i = .null) :
    Unknown (f.apply args) := by
  have hone (hn : f.needed = 1) : arg args 0 = .null := by
    obtain rfl : i = 0 := by omega
    exact h
  have htwo (hn : f.needed = 2) : arg args 0 = .null ∨ arg args 1 = .null := by
    obtain rfl | rfl : i = 0 ∨ i = 1 := by omega
    · exact Or.inl h
    · exact Or.inr h
  cases f with
  | concat | coalesce => cases hi
  | lower | upper | length | trim | isText | isImage | isPdf | isAudio | isVideo | isArchive =>
    rw [apply]
    exact unknown_onString (hone rfl) _
  | contains | startsWith | endsWith =>
    rw [apply]
    exact unknown_onStrings (htwo rfl) _
  | year | month | day =>
    rw [apply]
    exact unknown_onDate (hone rfl) _
  | substring => exact unknown_substringOf (htwo rfl)
  | matchesPattern => exact unknown_matchIn (htwo rfl)
  | abs => exact unknown_absolute (hone rfl)
  | round => exact unknown_roundValue (hone rfl)
  | formatSize => exact unknown_sizeText (hone rfl)
  | formatTime => exact unknown_timeText (hone rfl)
  | replace =>
    have hi : i < 3 := hi
    obtain rfl | rfl | rfl : i = 0 ∨ i = 1 ∨ i = 2 := by omega
    · exact unknown_replaceIn (Or.inl h)
    · exact unknown_replaceIn (Or.inr (Or.inl h))
    · exact unknown_replaceIn (Or.inr (Or.inr h))

/-- Apart from `concat` and `coalesce`, a function needs the arguments that its calls must have. -/
theorem needed_eq_least {d : FunctionEntry} (hd : d ∈ Catalog.standard.functions)
    {f : ScalarFunction} (hf : d.function = .scalar f) (hconcat : f ≠ .concat)
    (hcoalesce : f ≠ .coalesce) : f.needed = d.arity.least := by
  have hall : ∀ d ∈ Catalog.standardFunctions, ∀ f ∈ ScalarFunction.all,
      d.function = .scalar f → f ≠ .concat → f ≠ .coalesce → f.needed = d.arity.least := by
    decide +kernel
  rw [Catalog.standard_eq] at hd
  exact hall d hd f (ScalarFunction.mem_all f) hf hconcat hcoalesce

end ScalarFunction

/-! ### Expressions -/

namespace Expr

variable {a : Attribute} {e : Expr} {row : Row} {args : List Expr} {i : Nat}

/-- The expressions that need the value of an attribute: the attribute itself, and below operators
that need their operands and among the arguments that a call must have. -/
inductive StrictIn (a : Attribute) : Expr → Prop
  | column : StrictIn a (.column a)
  | unary (op : UnaryOp) {e : Expr} (he : StrictIn a e) : StrictIn a (.unary op e)
  | left {op : BinaryOp} (hop : op.NeedsOperands) {l : Expr} (r : Expr) (hl : StrictIn a l) :
      StrictIn a (.binary op l r)
  | right {op : BinaryOp} (hop : op.NeedsOperands) (l : Expr) {r : Expr} (hr : StrictIn a r) :
      StrictIn a (.binary op l r)
  | call {f : ScalarFunction} (hconcat : f ≠ .concat) (hcoalesce : f ≠ .coalesce)
      {d : FunctionEntry} (hd : d ∈ Catalog.standard.functions) (hf : d.function = .scalar f)
      {args : List Expr} {i : Nat} (hi : i < d.arity.least) {e : Expr} (harg : args[i]? = some e)
      (he : StrictIn a e) : StrictIn a (.call (.scalar f) args)

/-- A call needs what an argument needs that its function needs. -/
theorem StrictIn.argument {f : ScalarFunction} (hconcat : f ≠ .concat) (hcoalesce : f ≠ .coalesce)
    (hi : i < f.needed) (harg : args[i]? = some e) (he : e.StrictIn a) :
    (Expr.call (.scalar f) args).StrictIn a := by
  obtain ⟨d, hfind, hf⟩ := Catalog.findFunction?_canonicalName (.scalar f)
  have hd : d ∈ Catalog.standard.functions := List.mem_of_find?_eq_some hfind
  rw [ScalarFunction.needed_eq_least hd hf hconcat hcoalesce] at hi
  exact .call hconcat hcoalesce hd hf hi harg he

section

variable [PatternEngine]

/-- Where all arguments have values, each value is that of the argument at its place. -/
theorem exists_of_evalArgs {finals vs : List Value} (h : evalArgs row finals args = .ok vs)
    (harg : args[i]? = some e) :
    ∃ finals' v, e.eval row finals' = .ok v ∧ vs[i]? = some v := by
  induction args generalizing finals vs i with
  | nil => cases harg
  | cons x xs ih =>
    rw [evalArgs] at h
    obtain ⟨v, hv, h⟩ := Except.bind_eq_ok.1 h
    obtain ⟨ws, hws, h⟩ := Except.bind_eq_ok.1 h
    obtain rfl := Except.ok.inj h
    cases i with
    | zero =>
      obtain rfl := Option.some.inj harg
      exact ⟨finals, v, hv, rfl⟩
    | succ i =>
      rw [List.getElem?_cons_succ] at harg ⊢
      exact ih hws harg

/-- On a row without an attribute that it needs, an expression gives nothing concrete. -/
theorem StrictIn.unknown_eval (h : e.StrictIn a) (hrow : row a = .null) (finals : List Value) :
    Unknown (e.eval row finals) := by
  induction h generalizing finals with
  | column =>
    rw [eval, hrow]
    exact .null
  | unary op _ ih =>
    refine .bind fun x hx => .mapError ?_ _
    rw [ih finals x hx, UnaryOp.apply_null]
    exact .null
  | left hop _ _ ih =>
    refine .bind fun x hx => .bind fun y _ => .mapError ?_ _
    rw [BinaryOp.apply_null hop (Or.inl (ih finals x hx))]
    exact .null
  | right hop _ _ ih =>
    refine .bind fun x _ => .bind fun y hy => .mapError ?_ _
    rw [BinaryOp.apply_null hop (Or.inr (ih _ y hy))]
    exact .null
  | call hconcat hcoalesce hd hf hi harg _ ih =>
    refine .bind fun values hvalues => .mapError ?_ _
    obtain ⟨finals', v, hv, hplace⟩ := exists_of_evalArgs hvalues harg
    rw [← ScalarFunction.needed_eq_least hd hf hconcat hcoalesce] at hi
    refine ScalarFunction.unknown_apply _ hi ?_
    rw [ScalarFunction.arg, hplace, ih finals' v hv]
    rfl

theorem valueOrNull_of_unknown {finals : List Value} (h : Unknown (e.eval row finals)) :
    e.valueOrNull row finals = .null := by
  rw [valueOrNull]
  cases hv : e.eval row finals with
  | error _ => rfl
  | ok v => exact h v hv

/-- A predicate that gives nothing concrete does not hold. -/
theorem accepts_of_unknown {q : Query} (hq : q.predicate = some e) (h : Unknown (e.eval row [])) :
    q.accepts row = false := by
  rw [Query.accepts, hq, Option.all_some, holds]
  cases hv : e.eval row [] with
  | error _ => rfl
  | ok v =>
    rw [h v hv]
    rfl

/-- An expression that needs an attribute gives null or an error on every row where the attribute is
null, whatever the final values of its aggregate calls are. So where errors are let pass, it keeps
no such row as a predicate and is null as a projection: an entry without the attribute is neither
selected nor folded, or it has null in that column of the result. -/
theorem eval_strictIn {a : Attribute} {e : Expr} (h : e.StrictIn a) :
    (∀ row : Row, row a = .null →
      (∀ finals v, e.eval row finals = .ok v → v = .null) ∧
      (∀ q : Query, q.predicate = some e → ∀ p, (q.keeps false row p).outcome = .ok false) ∧
      ∀ finals p, (valueOf false row finals p e).outcome = .ok .null) ∧
    ∀ (q : Query) (t : Tree) (x : Entry), Row.ofEntry t.location x a = .null →
      (q.predicate = some e →
        (q.select false t x).outcome = .ok none ∧ ∀ s, (q.fold false t s x).outcome = .ok s) ∧
      ∀ values, (q.select false t x).outcome = .ok (some values) →
        ∀ (i : Nat) (p : Projection), q.projections[i]? = some p → p.expr = e →
          values[i]? = some .null := by
  refine ⟨fun row hrow => ⟨fun finals => h.unknown_eval hrow finals, fun q hq p => ?_,
    fun finals p => ?_⟩, fun q t x hx => ?_⟩
  · rw [Query.outcome_keeps, accepts_of_unknown hq (h.unknown_eval hrow [])]
  · rw [outcome_valueOf, valueOrNull_of_unknown (h.unknown_eval hrow finals)]
  · -- The row of a query has fewer attributes than the row of the entry, and no others.
    have hrow : q.rowOf t x a = .null := by
      rw [Query.rowOf, Row.restrict, hx, ite_self]
    refine ⟨fun hq => ?_, fun values hvalues i p hp hpe => ?_⟩
    · have haccepts := accepts_of_unknown hq (h.unknown_eval hrow [])
      refine ⟨?_, fun s => ?_⟩
      · rw [Query.outcome_select, Query.resultRow?, haccepts]
        rfl
      · rw [Query.fold, Report.outcome_bind, Query.outcome_keeps, haccepts]
        rfl
    · rw [Query.outcome_select, Query.resultRow?] at hvalues
      split at hvalues
      · obtain rfl := Option.some.inj (Except.ok.inj hvalues)
        rw [List.getElem?_map, hp, Option.map_some, hpe,
          valueOrNull_of_unknown (h.unknown_eval hrow [])]
      · cases Except.ok.inj hvalues

end

/-- The expression `year(created) + 1 < 2024`. -/
def createdBefore : Expr :=
  .binary (.relation .less) (.binary (.arithmetic .add)
    (.call (.scalar .year) [.column .created]) (.literal (.integer 1))) (.literal (.integer 2024))

/-- The time of creation is needed below a call, a sum and a comparison. An entry without metadata
has none, so that a query with this predicate leaves it out. -/
theorem eval_strictIn_createdBefore :
    createdBefore.StrictIn .created ∧
    (∀ finals v, createdBefore.eval .unknown finals = .ok v → v = .null) ∧
    Row.ofEntry ⟨[]⟩ ⟨⟨[]⟩, 1, none⟩ .created = .null ∧
    (({ Query.selectOne with predicate := some createdBefore } : Query).select false ⟨⟨[]⟩, []⟩
      ⟨⟨[]⟩, 1, none⟩).outcome = .ok none := by
  have hcall : (Expr.call (.scalar .year) [.column .created]).StrictIn .created :=
    .argument (i := 0) (by decide) (by decide) (by decide) rfl .column
  have hadd : (BinaryOp.arithmetic .add).NeedsOperands := trivial
  have hless : (BinaryOp.relation .less).NeedsOperands := ⟨by decide, by decide⟩
  have hstrict : createdBefore.StrictIn .created := .left hless _ (.left hadd _ hcall)
  obtain ⟨hrows, hentries⟩ := eval_strictIn hstrict
  exact ⟨hstrict, (hrows .unknown rfl).1, rfl, ((hentries _ _ _ rfl).1 rfl).1⟩

end Expr

end FileQuery
