import FileQuery.Proofs.Query.Recognition

/-!
# Parsed queries are resolved

A query that the parser returns names nothing that its catalog does not have: every column is an
attribute of the catalog and every call is that of one of its functions, with a number of arguments
that this function takes. It is legal too, so that whoever runs it need not ask again whether
aggregates are nested, predicates call what they may, or order keys are columns. Nor does an
expression grow beyond the text: each of its nodes has a lexeme of its own. All of this is read off
the derivation of the query and holds for any list of lexemes, ends in its midst included.

## Main definitions

* `FileQuery.Query.expressions`: the expressions of a query.

## Main results

* `FileQuery.Expr.hasAggregate_eq_false`: where no aggregate is called at any depth.
* `FileQuery.Grammar.Derives.attribute_of_mem_columns`: derived columns are attributes.
* `FileQuery.Grammar.Derives.size_le`: derived expressions have at most one node for each token.
* `FileQuery.Query.exists_derives`: expressions of a query are derived from some of its tokens.
* `FileQuery.Query.ofLexemes_resolved`: what holds of every parsed query.
* `FileQuery.Query.size_le_of_ofLexemes`: how large its expressions can be.
-/

namespace FileQuery

namespace Expr

theorem mem_columnsList {a : Attribute} {es : List Expr} :
    a ∈ columnsList es ↔ ∃ e ∈ es, a ∈ e.columns := by
  induction es with
  | nil => simp [columnsList]
  | cons e es ih => simp [columnsList, ih]

/-- An aggregate is called at no depth if no call is one of an aggregate function. -/
theorem hasAggregate_eq_false {e : Expr} :
    e.hasAggregate = false ↔ ∀ k ∈ e.calls, k.1.isAggregate = false := by
  induction e using Expr.induct with
  | column a => exact iff_of_true rfl fun _ h => nomatch h
  | literal v => exact iff_of_true rfl fun _ h => nomatch h
  | call f args ih =>
    have hargs : (∀ e ∈ args, e.hasAggregate = false) ↔
        ∀ k ∈ callsList args, k.1.isAggregate = false := by
      simp only [mem_callsList, forall_exists_index, and_imp]
      exact ⟨fun h k e he => (ih e he).1 (h e he) k, fun h e he => (ih e he).2 fun k => h k e he⟩
    rw [hasAggregate, calls, Bool.or_eq_false_iff, anyHasAggregate_eq_false, hargs,
      List.forall_mem_cons]
  | binary op l r ihl ihr =>
    rw [hasAggregate, calls, Bool.or_eq_false_iff, ihl, ihr, List.forall_mem_append]
  | unary op e ih => exact ih

end Expr

namespace Grammar

variable {c : Catalog} {ts : List Token}

theorem columns_negated (e : Expr) : (ExprParser.negated e).columns = e.columns := by
  unfold ExprParser.negated
  split <;> rfl

/-- The columns of a derived expression are attributes of the catalog. -/
theorem Derives.attribute_of_mem_columns {level : Level} {e : Expr} (h : Derives c level ts e) :
    ∀ a ∈ e.columns, ∃ d ∈ c.attributes, d.subject = a := by
  induction h with
  | operand h ih => exact ih
  | chain hl hop hr ihl ihr => exact List.forall_mem_append.2 ⟨ihl, ihr⟩
  | not h ih => exact ih
  | comparison h ih => exact ih
  | sum h ih => exact ih
  | relation op hl hr ihl ihr => exact List.forall_mem_append.2 ⟨ihl, ihr⟩
  | minus h ih => rwa [columns_negated]
  | primary h ih => exact ih
  | literal h => exact fun _ h => nomatch h
  | column ha => exact List.forall_mem_singleton.2 ⟨_, List.mem_of_find?_eq_some ha, rfl⟩
  | call hf args hargs ih =>
    intro a ha
    obtain ⟨e, he, ha⟩ := Expr.mem_columnsList.1 ha
    obtain ⟨arg, harg, rfl⟩ := List.mem_map.1 he
    exact ih arg harg a ha
  | countStar hf hcount => exact fun _ h => nomatch h
  | parens h ih => exact ih

/-! ### Sizes -/

theorem sizeList_le_commaSeparated {args : List (List Token × Expr)}
    (h : ∀ a ∈ args, a.2.size ≤ a.1.length) :
    Expr.sizeList (args.map Prod.snd) ≤ (commaSeparated (args.map Prod.fst)).length := by
  induction args with
  | nil => exact Nat.zero_le _
  | cons a args ih =>
    obtain ⟨ha, hargs⟩ := List.forall_mem_cons.1 h
    have hrest := ih hargs
    rw [List.map_cons, List.map_cons, Expr.sizeList]
    cases args with
    | nil => simpa [Expr.sizeList, commaSeparated_singleton] using ha
    | cons b args =>
      rw [commaSeparated_cons a.1 (by simp), List.length_append, List.length_cons]
      omega

theorem size_negated_le (e : Expr) : (ExprParser.negated e).size ≤ e.size + 1 := by
  unfold ExprParser.negated
  split <;> simp only [Expr.size] <;> omega

/-- A derived expression has at most one node for each token. -/
theorem Derives.size_le {level : Level} {e : Expr} (h : Derives c level ts e) :
    e.size ≤ ts.length := by
  induction h with
  | operand h ih => exact ih
  | chain hl hop hr ihl ihr =>
    rw [Expr.size, List.length_append, List.length_cons]
    omega
  | not h ih =>
    rw [Expr.size, List.length_cons]
    omega
  | comparison h ih => exact ih
  | sum h ih => exact ih
  | relation op hl hr ihl ihr =>
    rw [Expr.size, List.length_append, List.length_cons]
    omega
  | minus h ih => exact Nat.le_trans (size_negated_le _) (Nat.succ_le_succ ih)
  | primary h ih => exact ih
  | literal h => exact Nat.le_refl 1
  | column ha => exact Nat.le_refl 1
  | call hf args hargs ih =>
    have hsize := sizeList_le_commaSeparated ih
    rw [Expr.size, List.length_append, List.length_cons, List.length_cons]
    omega
  | countStar hf hcount => exact Nat.le_add_right 1 3
  | parens h ih =>
    rw [List.length_append, List.length_cons]
    omega

/-! ### Parts of queries -/

/-- A projection of some items is one of the default columns or derived from some of their
tokens. -/
theorem exists_derives_of_items {items : List (List Token × List Projection)}
    (hitems : ∀ i ∈ items, Item c i.1 i.2) {p : Projection} (hp : p ∈ items.flatMap Prod.snd) :
    (∃ d ∈ c.attributes, p.expr = .column d.subject) ∨
      ∃ us, us <:+: commaSeparated (items.map Prod.fst) ∧
        Derives c (.chain .disjunction) us p.expr := by
  obtain ⟨⟨us, ps⟩, hi, hpi⟩ := List.mem_flatMap.1 hp
  have hpart : us <:+: commaSeparated (items.map Prod.fst) :=
    infix_commaSeparated (List.mem_map_of_mem (f := Prod.fst) hi)
  cases hitems _ hi with
  | defaults =>
    obtain ⟨d, hd, rfl⟩ := List.mem_map.1 hpi
    exact Or.inl ⟨d, List.mem_of_mem_filter hd, rfl⟩
  | plain h =>
    obtain rfl := List.mem_singleton.1 hpi
    exact Or.inr ⟨_, hpart, h⟩
  | named h hname =>
    obtain rfl := List.mem_singleton.1 hpi
    exact Or.inr ⟨_, (List.prefix_append _ _).isInfix.trans hpart, h⟩

theorem WhereClause.exists_derives {predicate : Option Expr} (h : WhereClause c ts predicate)
    {e : Expr} (he : e ∈ predicate) : ∃ us, us <:+: ts ∧ Derives c (.chain .disjunction) us e := by
  cases h with
  | absent => cases he
  | present h =>
    obtain rfl := Option.some.inj he
    exact ⟨_, (List.suffix_cons _ _).isInfix, h⟩

end Grammar

namespace Query

variable {c : Catalog} {q : Query}

/-- The expressions of a query: its projections and its predicate. -/
def expressions (q : Query) : List Expr :=
  q.projections.map Projection.expr ++ q.predicate.toList

theorem forall_mem_expressions {P : Expr → Prop} : (∀ e ∈ q.expressions, P e) ↔
    (∀ p ∈ q.projections, P p.expr) ∧ ∀ e ∈ q.predicate, P e := by
  simp [expressions, or_imp, forall_and]

theorem mem_expressions {e : Expr} :
    e ∈ q.expressions ↔ (∃ p ∈ q.projections, p.expr = e) ∨ q.predicate = some e := by
  simp [expressions]

/-- An expression of a query is one of the default columns or derived from some of its tokens. -/
theorem exists_derives {ts : List Token} (h : Grammar.DerivesQuery c ts q) {e : Expr}
    (he : e ∈ q.expressions) : (∃ d ∈ c.attributes, e = .column d.subject) ∨
      ∃ us, us <:+: ts ∧ Grammar.Derives c (.chain .disjunction) us e := by
  cases h with
  | @query items hitems h t source ht ts us vs predicate hwhere keys horder limit hlimit =>
    rcases mem_expressions.1 he with ⟨p, hp, rfl⟩ | he
    · refine (Grammar.exists_derives_of_items h hp).imp_right fun ⟨ws, hws, hderives⟩ => ?_
      refine ⟨ws, hws.trans ⟨[.word .selectWord], .word .fromWord :: t :: ts ++ us ++ vs, ?_⟩,
        hderives⟩
      simp
    · obtain ⟨ws, hws, hderives⟩ := hwhere.exists_derives he
      refine Or.inr ⟨ws, hws.trans ⟨.word .selectWord :: Grammar.commaSeparated
        (items.map Prod.fst) ++ [.word .fromWord, t], us ++ vs, ?_⟩, hderives⟩
      simp

theorem attribute_of_mem_columns {ts : List Token} (h : Grammar.DerivesQuery c ts q) {e : Expr}
    (he : e ∈ q.expressions) : ∀ a ∈ e.columns, ∃ d ∈ c.attributes, d.subject = a := by
  rcases exists_derives h he with ⟨d, hd, rfl⟩ | ⟨us, -, hderives⟩
  · exact List.forall_mem_singleton.2 ⟨d, hd, rfl⟩
  · exact hderives.attribute_of_mem_columns

theorem size_le_length {ts : List Token} (h : Grammar.DerivesQuery c ts q) {e : Expr}
    (he : e ∈ q.expressions) : e.size ≤ ts.length := by
  rcases exists_derives h he with ⟨d, -, rfl⟩ | ⟨us, hus, hderives⟩
  · cases h
    exact Nat.succ_le_succ (Nat.zero_le _)
  · exact Nat.le_trans hderives.size_le hus.length_le

theorem Legal.expression (h : q.Legal c) : ∀ e ∈ q.expressions, e.Legal c :=
  forall_mem_expressions.2 ⟨h.projections, fun e he => (h.predicate e he).1⟩

/-- A parsed query reads attributes of the catalog only and calls functions of the catalog only,
each with a number of arguments that it takes; below the arguments of an aggregate no aggregate is
called, a predicate calls only what predicates may call, every order key is one of the columns, and
the source is not blank. -/
theorem ofLexemes_resolved {ts : List Lexeme} (h : Query.ofLexemes c ts = .ok q) :
    (∀ e ∈ q.expressions,
      (∀ a ∈ e.columns, ∃ d ∈ c.attributes, d.subject = a) ∧
      (∀ k ∈ e.calls, ∃ f ∈ c.functions, f.function = k.1 ∧
        f.arity.accepts k.2.length = true) ∧
      ∀ k ∈ e.calls, k.1.isAggregate = true →
        ∀ a ∈ k.2, ∀ inner ∈ a.calls, inner.1.isAggregate = false) ∧
    (∀ e ∈ q.predicate, ∀ k ∈ e.calls, ∃ f ∈ c.functions, f.function = k.1 ∧
      f.inPredicates = true) ∧
    (∀ k ∈ q.orderBy, 1 ≤ k.column ∧ k.column ≤ q.projections.length) ∧
    ∃ ch ∈ q.source.toList, Text.isWhiteSpace ch = false := by
  obtain ⟨us, -, hderives, hlegal⟩ := derives_of_ofLexemes h
  refine ⟨fun e he => ⟨attribute_of_mem_columns hderives he, (hlegal.expression e he).arity,
    fun k hk haggregate a ha inner hinner => ?_⟩, fun e he => (hlegal.predicate e he).2,
    hlegal.orderBy, ?_⟩
  · exact Expr.hasAggregate_eq_false.1
      ((hlegal.expression e he).nesting k hk haggregate a ha) inner hinner
  · simpa [Text.isBlank] using hlegal.source

/-- No expression of a parsed query has more nodes than the query has lexemes. -/
theorem size_le_of_ofLexemes {ts : List Lexeme} (h : Query.ofLexemes c ts = .ok q) :
    ∀ e ∈ q.expressions, e.size ≤ ts.length := by
  obtain ⟨us, hus, hderives, -⟩ := derives_of_ofLexemes h
  intro e he
  calc e.size ≤ (us.map Lexeme.token).length := size_le_length hderives he
    _ = us.length := List.length_map _
    _ ≤ ts.length := hus.length_le

end Query

/-- A catalog with two attributes, both of them default columns, and two functions. -/
def Catalog.small : Catalog where
  attributes := [⟨.name, [], .string, "", true⟩, ⟨.size, ["bytes"], .integer, "", true⟩]
  functions := [⟨.scalar .lower, ["lcase"], .exactly 1, true, ""⟩,
    ⟨.aggregate .sum, [], .exactly 1, false, ""⟩]
  attributes_distinct := by decide +kernel
  functions_distinct := by decide +kernel

namespace Query

/-- The lexemes of `select *, lower(name) from . where size > 0 order by 2`. -/
def namesBySizeLexemes : List Lexeme :=
  ([.word .selectWord, .star, .comma, .identifier "lower", .leftParen, .identifier "name",
    .rightParen, .word .fromWord, .path ".", .word .whereWord, .identifier "size",
    .relation .greater, .integer 0, .word .orderWord, .word .byWord, .integer 2] :
      List Token).map fun t => ⟨t, "", .start⟩

/-- Names and sizes of files, and the names once more in lower case, the smallest file first. -/
def namesBySize : Query :=
  ⟨[⟨.column .name, none⟩, ⟨.column .size, none⟩, ⟨.call (.scalar .lower) [.column .name], none⟩],
    ".", some (.binary (.relation .greater) (.column .size) (.literal (.integer 0))),
    [⟨2, .ascending⟩], none⟩

open Grammar in
theorem ofLexemes_namesBySize : Query.ofLexemes .small namesBySizeLexemes = .ok namesBySize := by
  have hend : ∀ l ∈ namesBySizeLexemes, l.token ≠ .endOfText := by decide
  obtain ⟨name, hname, hnamed⟩ := Option.map_eq_some_iff.1
    (by decide +kernel : (Catalog.small.findAttribute? "name").map (·.subject) = some .name)
  obtain ⟨size, hsize, hsized⟩ := Option.map_eq_some_iff.1
    (by decide +kernel : (Catalog.small.findAttribute? "size").map (·.subject) = some .size)
  obtain ⟨lower, hlower, hlowered⟩ := Option.map_eq_some_iff.1
    (by decide +kernel : (Catalog.small.findFunction? "lower").map (·.function) =
      some (.scalar .lower))
  have hcolumn {ts : List Token} {e : Expr} (h : Derives .small .primary ts e) :
      Derives .small (.chain .disjunction) ts e :=
    .operand (.operand (.comparison (.sum (.operand (.operand (.primary h))))))
  have hitem : Item .small [.identifier "lower", .leftParen, .identifier "name", .rightParen]
      [⟨.call (.scalar .lower) [.column .name], none⟩] := by
    have hcall := Derives.call hlower [([.identifier "name"], .column name.subject)]
      (List.forall_mem_singleton.2 (hcolumn (.column hname)))
    rw [hnamed, hlowered] at hcall
    exact .plain (hcolumn (by simpa [commaSeparated_singleton] using hcall))
  have hpredicate : WhereClause .small
      [.word .whereWord, .identifier "size", .relation .greater, .integer 0]
      (some (.binary (.relation .greater) (.column .size) (.literal (.integer 0)))) := by
    have hleft : Derives .small (.chain .sum) [.identifier "size"] (.column size.subject) :=
      .operand (.operand (.primary (.column hsize)))
    rw [hsized] at hleft
    exact .present (.operand (.operand (.comparison (.relation .greater hleft
      (.operand (.operand (.primary (.literal (.integer 0)))))))))
  have hderives : DerivesQuery .small (namesBySizeLexemes.map Lexeme.token) namesBySize :=
    .query [([.star], _), (_, _)] (by simp)
      (List.forall_mem_cons.2 ⟨.defaults, List.forall_mem_singleton.2 hitem⟩) (Or.inl rfl)
      hpredicate (.present [(_, _)] (by simp) (List.forall_mem_singleton.2 (.plain 2))) .absent
  have hcolumnLegal (a : Attribute) : (Expr.column a).Legal .small :=
    ⟨fun _ h => (nomatch h), fun _ h => (nomatch h)⟩
  have hlegal : namesBySize.Legal .small := by
    refine ⟨?_, by decide, fun e he => ?_, by decide⟩
    · refine List.forall_mem_cons.2 ⟨hcolumnLegal _, List.forall_mem_cons.2 ⟨hcolumnLegal _,
        List.forall_mem_singleton.2 ⟨List.forall_mem_singleton.2 ?_,
          List.forall_mem_singleton.2 fun h => (nomatch h)⟩⟩⟩
      exact ⟨_, List.mem_cons_self, rfl, by decide⟩
    · obtain rfl := Option.some.inj he
      exact ⟨⟨fun _ h => (nomatch h), fun _ h => (nomatch h)⟩, fun _ h => (nomatch h)⟩
  exact (ofLexemes_eq_ok hend).2 ⟨hderives, hlegal⟩

/-- What is resolved may have stood for several columns: `*` does for two. -/
theorem ofLexemes_resolved_namesBySize :
    Query.ofLexemes .small namesBySizeLexemes = .ok namesBySize ∧
      (∀ e ∈ namesBySize.expressions,
        ∀ a ∈ e.columns, ∃ d ∈ Catalog.small.attributes, d.subject = a) ∧
      ∀ k ∈ namesBySize.orderBy, 1 ≤ k.column ∧ k.column ≤ namesBySize.projections.length := by
  obtain ⟨hexpressions, -, hkeys, -⟩ := ofLexemes_resolved ofLexemes_namesBySize
  exact ⟨ofLexemes_namesBySize, fun e he => (hexpressions e he).1, hkeys⟩

end Query

end FileQuery
