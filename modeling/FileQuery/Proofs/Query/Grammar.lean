import FileQuery.Query.Parser

/-!
# The grammar of queries

Which lists of tokens are queries, and which tree each of them stands for, said without reference to
the parser. A derivation resolves names by the catalog. Whatever does not concern the shape of the
tokens is apart from it: how many arguments a function takes, which functions a predicate may call,
that aggregates are not nested, and that order keys are columns.

## Main definitions

* `FileQuery.Grammar.Derives`: expressions, by levels.
* `FileQuery.Grammar.Item`, `FileQuery.Grammar.WhereClause`, `FileQuery.Grammar.OrderClause`,
  `FileQuery.Grammar.LimitClause`, `FileQuery.Grammar.DerivesQuery`: queries.
* `FileQuery.Expr.calls`: the calls in an expression at any depth.
* `FileQuery.Query.Legal`: what else is asked of a query.
-/

namespace FileQuery

open ExprParser (Chain negated)

namespace Grammar

/-! ### Expressions -/

/-- The levels of expressions: four of them are chains of operands. -/
inductive Level where
  | chain (k : Chain)
  | negation
  | comparison
  | signed
  | primary

/-- The level of the operands of a chain. -/
def operandLevel : Chain → Level
  | .disjunction => .chain .conjunction
  | .conjunction => .negation
  | .sum => .chain .product
  | .product => .signed

/-- The operators of a chain. -/
inductive Operates : Chain → Token → BinaryOp → Prop
  | or : Operates .disjunction (.word .orWord) .or
  | and : Operates .conjunction (.word .andWord) .and
  | add : Operates .sum .plus (.arithmetic .add)
  | subtract : Operates .sum .minus (.arithmetic .subtract)
  | multiply : Operates .product .star (.arithmetic .multiply)
  | divide : Operates .product .slash (.arithmetic .divide)

/-- The literals. -/
inductive Denotes : Token → Value → Prop
  | integer (n : Int64) : Denotes (.integer n) (.integer n)
  | float (x : Binary64) : Denotes (.float x) (.float x)
  | string (s : String) : Denotes (.string s) (.string s)
  | boolean (b : Bool) : Denotes (.boolean b) (.boolean b)
  | null : Denotes .null .null

/-- Lists of tokens with commas between them. -/
def commaSeparated (parts : List (List Token)) : List Token := List.intercalate [.comma] parts

theorem commaSeparated_singleton (ts : List Token) : commaSeparated [ts] = ts := by
  simp [commaSeparated]

theorem commaSeparated_cons (ts : List Token) {parts : List (List Token)} (h : parts ≠ []) :
    commaSeparated (ts :: parts) = ts ++ .comma :: commaSeparated parts := by
  cases parts with
  | nil => exact absurd rfl h
  | cons us parts => simp [commaSeparated]

theorem infix_commaSeparated {ts : List Token} {parts : List (List Token)} (h : ts ∈ parts) :
    ts <:+: commaSeparated parts := by
  induction parts with
  | nil => cases h
  | cons us parts ih =>
    cases parts with
    | nil => simp [commaSeparated_singleton, List.mem_singleton.1 h]
    | cons vs parts =>
      rw [commaSeparated_cons us (List.cons_ne_nil vs parts)]
      rcases List.mem_cons.1 h with rfl | h
      · exact (List.prefix_append _ _).isInfix
      · exact (ih h).trans ((List.suffix_cons _ _).trans (List.suffix_append _ _)).isInfix

/-- The expressions of a level. A chain groups to the left, a comparison has at most one operator,
and a minus sign before a number is part of the number. A name is that of a function if a parenthesis
follows it, and that of a column otherwise. -/
inductive Derives (c : Catalog) : Level → List Token → Expr → Prop
  | operand {k : Chain} {ts : List Token} {e : Expr} (h : Derives c (operandLevel k) ts e) :
    Derives c (.chain k) ts e
  | chain {k : Chain} {ts us : List Token} {t : Token} {op : BinaryOp} {l r : Expr}
    (hl : Derives c (.chain k) ts l) (hop : Operates k t op)
    (hr : Derives c (operandLevel k) us r) :
    Derives c (.chain k) (ts ++ t :: us) (.binary op l r)
  | not {ts : List Token} {e : Expr} (h : Derives c .negation ts e) :
    Derives c .negation (.word .notWord :: ts) (.unary .not e)
  | comparison {ts : List Token} {e : Expr} (h : Derives c .comparison ts e) :
    Derives c .negation ts e
  | sum {ts : List Token} {e : Expr} (h : Derives c (.chain .sum) ts e) :
    Derives c .comparison ts e
  | relation {ts us : List Token} {l r : Expr} (op : Relation)
    (hl : Derives c (.chain .sum) ts l) (hr : Derives c (.chain .sum) us r) :
    Derives c .comparison (ts ++ .relation op :: us) (.binary (.relation op) l r)
  | minus {ts : List Token} {e : Expr} (h : Derives c .signed ts e) :
    Derives c .signed (.minus :: ts) (negated e)
  | primary {ts : List Token} {e : Expr} (h : Derives c .primary ts e) : Derives c .signed ts e
  | literal {t : Token} {v : Value} (h : Denotes t v) : Derives c .primary [t] (.literal v)
  | column {name : String} {a : AttributeEntry} (ha : c.findAttribute? name = some a) :
    Derives c .primary [.identifier name] (.column a.subject)
  | call {name : String} {f : FunctionEntry} (hf : c.findFunction? name = some f)
    (args : List (List Token × Expr))
    (hargs : ∀ a ∈ args, Derives c (.chain .disjunction) a.1 a.2) :
    Derives c .primary
      (.identifier name :: .leftParen :: commaSeparated (args.map Prod.fst) ++ [.rightParen])
      (.call f.function (args.map Prod.snd))
  | countStar {name : String} {f : FunctionEntry} (hf : c.findFunction? name = some f)
    (hcount : f.function = .aggregate .count) :
    Derives c .primary [.identifier name, .leftParen, .star, .rightParen] (.call f.function [])
  | parens {ts : List Token} {e : Expr} (h : Derives c (.chain .disjunction) ts e) :
    Derives c .primary (.leftParen :: ts ++ [.rightParen]) e

/-! ### Queries -/

variable (c : Catalog)

/-- An item of the projection list: all default columns, or an expression with or without a name. -/
inductive Item : List Token → List Projection → Prop
  | defaults : Item [.star] (c.defaultColumns.map fun e => ⟨.column e.subject, none⟩)
  | plain {ts : List Token} {e : Expr} (h : Derives c (.chain .disjunction) ts e) :
    Item ts [⟨e, none⟩]
  | named {ts : List Token} {e : Expr} (h : Derives c (.chain .disjunction) ts e) {t : Token}
    {name : String} (ht : t = .identifier name ∨ t = .string name) :
    Item (ts ++ [.word .asWord, t]) [⟨e, some name⟩]

inductive WhereClause : List Token → Option Expr → Prop
  | absent : WhereClause [] none
  | present {ts : List Token} {e : Expr} (h : Derives c (.chain .disjunction) ts e) :
    WhereClause (.word .whereWord :: ts) (some e)

/-- A column number with or without a direction. -/
inductive Key : List Token → OrderKey → Prop
  | plain (n : Int64) : Key [.integer n] ⟨n.toInt.toNat, .ascending⟩
  | ascending (n : Int64) : Key [.integer n, .word .ascWord] ⟨n.toInt.toNat, .ascending⟩
  | descending (n : Int64) : Key [.integer n, .word .descWord] ⟨n.toInt.toNat, .descending⟩

inductive OrderClause : List Token → List OrderKey → Prop
  | absent : OrderClause [] []
  | present (keys : List (List Token × OrderKey)) (hkeys : keys ≠ [])
    (h : ∀ k ∈ keys, Key k.1 k.2) :
    OrderClause (.word .orderWord :: .word .byWord :: commaSeparated (keys.map Prod.fst))
      (keys.map Prod.snd)

inductive LimitClause : List Token → Option Nat → Prop
  | absent : LimitClause [] none
  | present (n : Int64) (h : 0 ≤ n.toInt) :
    LimitClause [.word .limitWord, .integer n] (some n.toInt.toNat)

/-- A query: `select` and items, `from` and a source, and the optional clauses in this order. -/
inductive DerivesQuery : List Token → Query → Prop
  | query (items : List (List Token × List Projection)) (hitems : items ≠ [])
    (h : ∀ i ∈ items, Item c i.1 i.2) {t : Token} {source : String}
    (ht : t = .path source ∨ t = .string source) {ts us vs : List Token}
    {predicate : Option Expr} (hwhere : WhereClause c ts predicate)
    {keys : List OrderKey} (horder : OrderClause us keys)
    {limit : Option Nat} (hlimit : LimitClause vs limit) :
    DerivesQuery
      (.word .selectWord :: commaSeparated (items.map Prod.fst) ++
        .word .fromWord :: t :: ts ++ us ++ vs)
      ⟨items.flatMap Prod.snd, source, predicate, keys, limit⟩

end Grammar

/-! ### Legality -/

namespace Expr

mutual

/-- The calls in an expression at any depth, each with its arguments. -/
def calls : Expr → List (Function × List Expr)
  | .column _ => []
  | .literal _ => []
  | .call f args => (f, args) :: callsList args
  | .binary _ l r => l.calls ++ r.calls
  | .unary _ e => e.calls

/-- The calls in several expressions. -/
def callsList : List Expr → List (Function × List Expr)
  | [] => []
  | e :: es => e.calls ++ callsList es

end

/-- Every call has a number of arguments that the catalog accepts, and no aggregate lies inside the
arguments of another. -/
structure Legal (c : Catalog) (e : Expr) : Prop where
  arity : ∀ k ∈ e.calls, ∃ f ∈ c.functions, f.function = k.1 ∧ f.arity.accepts k.2.length = true
  nesting : ∀ k ∈ e.calls, k.1.isAggregate = true → ∀ a ∈ k.2, a.hasAggregate = false

/-- Every function that is called may be called in a predicate. -/
def Permitted (c : Catalog) (e : Expr) : Prop :=
  ∀ k ∈ e.calls, ∃ f ∈ c.functions, f.function = k.1 ∧ f.inPredicates = true

end Expr

/-- What is asked of a query beyond its grammar. -/
structure Query.Legal (c : Catalog) (q : Query) : Prop where
  projections : ∀ p ∈ q.projections, p.expr.Legal c
  source : Text.isBlank q.source = false
  predicate : ∀ e ∈ q.predicate, e.Legal c ∧ e.Permitted c
  orderBy : ∀ k ∈ q.orderBy, 1 ≤ k.column ∧ k.column ≤ q.projections.length

end FileQuery
