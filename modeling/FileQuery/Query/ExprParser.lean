import FileQuery.Query.Expr
import FileQuery.Query.ParseError

/-!
# Parsing expressions

The grammar of expressions has four levels of chains of operands (`or`, `and`, sums, products), the
prefix operators `not` and minus, comparisons that do not chain, and primaries. A parser takes a
list of lexemes and gives an expression with the strictly shorter list after it, or the cause of
failure with the lexemes at which it stopped; the lengths make the recursion end.

## Main definitions

* `FileQuery.Parsed`: what a parser gives.
* `FileQuery.Scope`: the catalog and the rules of the place where an expression stands.
* `FileQuery.ExprParser.chain`: chains of operands; `chain s .disjunction` reads any expression,
  `chain s .sum` one without comparisons and logic outside parentheses.
-/

namespace FileQuery

/-- What a parser gives on a list of fewer than `n + 1` lexemes: a value with less than `n` lexemes
after it, or the cause of failure with the lexemes where it stopped. -/
inductive Parsed (α : Type) (n : Nat) where
  | done (value : α) (rest : List Lexeme) (shorter : rest.length < n)
  | failed (error : ParseError) (rest : List Lexeme)

namespace Parsed

variable {α β : Type} {m n : Nat}

/-- The same outcome for a longer list. -/
def weaken (h : m ≤ n) : Parsed α m → Parsed α n
  | .done a r hr => .done a r (Nat.lt_of_lt_of_le hr h)
  | .failed e r => .failed e r

/-- A value made from the value that was read. -/
def map (f : α → β) : Parsed α n → Parsed β n
  | .done a r hr => .done (f a) r hr
  | .failed e r => .failed e r

/-- The outcome without the bound, and the lexemes that are left. -/
def toExcept : Parsed α n → Except ParseError α × List Lexeme
  | .done a r _ => (.ok a, r)
  | .failed e r => (.error e, r)

end Parsed

/-- The catalog, the place of the end of the query, and what the place of an expression allows. -/
structure Scope where
  catalog : Catalog
  stop : Position
  /-- Inside a predicate only functions that the catalog admits there may be called. -/
  inPredicate : Bool
  /-- Inside an argument of an aggregate call no aggregate function may be called. -/
  inAggregate : Bool

namespace Scope

/-- The lexeme at the front of a list, or the end of the query. -/
def front (s : Scope) (ts : List Lexeme) : Lexeme := ts.headD (.endAt s.stop)

/-- Failure at the front of a list where something else should stand. -/
def unexpected {α : Type} {n : Nat} (s : Scope) (wanted : Expected) (ts : List Lexeme) :
    Parsed α n :=
  .failed (.unexpectedToken wanted (s.front ts).toText (s.front ts).position) ts

/-- Failure at the front of a list inside the arguments of a function. -/
def unclosed {α : Type} {n : Nat} (s : Scope) (f : Function) (ts : List Lexeme) : Parsed α n :=
  .failed (.missingClosingParen f (s.front ts).toText (s.front ts).position) ts

/-- The scope of the arguments of a function. -/
def within (s : Scope) (f : Function) : Scope :=
  { s with inAggregate := s.inAggregate || f.isAggregate }

end Scope

namespace ExprParser

/-- The levels of operators that group to the left. -/
inductive Chain where
  | disjunction
  | conjunction
  | sum
  | product
  deriving DecidableEq, Repr

/-- The operator of a level that a token stands for. -/
def Chain.operator? : Chain → Token → Option BinaryOp
  | .disjunction, .word .orWord => some .or
  | .conjunction, .word .andWord => some .and
  | .sum, .plus => some (.arithmetic .add)
  | .sum, .minus => some (.arithmetic .subtract)
  | .product, .star => some (.arithmetic .multiply)
  | .product, .slash => some (.arithmetic .divide)
  | _, _ => none

/-- The order in which levels are entered without a lexeme being read. -/
@[simp]
def Chain.rank : Chain → Nat
  | .disjunction => 10
  | .conjunction => 8
  | .sum => 4
  | .product => 2

/-- A minus sign before an expression; before a number it is part of the number. -/
def negated : Expr → Expr
  | .literal (.integer n) => .literal (.integer (-n))
  | .literal (.float x) => .literal (.float x.neg)
  | e => .unary .negate e

/-- The value of a token that is a literal. -/
def literal? : Token → Option Value
  | .integer n => some (.integer n)
  | .float x => some (.float x)
  | .string s => some (.string s)
  | .boolean b => some (.boolean b)
  | .null => some .null
  | _ => none

/-- The function of a name before an opening parenthesis, if it may be called here. -/
def callee (s : Scope) (name : String) (p : Position) : Except ParseError FunctionEntry :=
  match s.catalog.findFunction? name with
  | none => .error (.unknownIdentifier name p)
  | some e =>
    if s.inPredicate && !e.inPredicates then .error (.notInPredicate e.function p)
    else if e.function.isAggregate && s.inAggregate then .error (.nestedAggregate e.function p)
    else .ok e

/-- The attribute of a name that no parenthesis follows; `next` is the place after the name. -/
def column (s : Scope) (name : String) (p next : Position) : Except ParseError Attribute :=
  match s.catalog.findAttribute? name with
  | some e => .ok e.subject
  | none =>
    match s.catalog.findFunction? name with
    | some e => .error (.missingOpeningParen e.function next)
    | none => .error (.unknownIdentifier name p)

/-- A column at the front, where no parenthesis follows its name. -/
def columnAt (s : Scope) (name : String) (l : Lexeme) (r : List Lexeme) :
    Parsed Expr (r.length + 1) :=
  match column s name l.position (s.front r).position with
  | .error e => .failed e (l :: r)
  | .ok a => .done (.column a) r (Nat.lt_succ_self _)

/-- The call of a function with arguments, if their number is accepted. -/
def call (e : FunctionEntry) (args : List Expr) (p : Position) : Except ParseError Expr :=
  if e.arity.accepts args.length then .ok (.call e.function args)
  else .error (.arity e.function e.arity args.length p)

/-- `count(*)` is `count()`: the lexemes behind an opening parenthesis without that star. -/
def skipStar (f : Function) : List Lexeme → List Lexeme
  | l :: r :: ts =>
    if f = .aggregate .count ∧ l.token = .star ∧ r.token = .rightParen then r :: ts
    else l :: r :: ts
  | ts => ts

theorem skipStar_length_le (f : Function) (ts : List Lexeme) :
    (skipStar f ts).length ≤ ts.length := by
  unfold skipStar
  split
  · split <;> simp
  · exact Nat.le_refl _

mutual

/-- A chain of operands with the operators of a level between them, grouped to the left. -/
def chain (s : Scope) (c : Chain) (ts : List Lexeme) : Parsed Expr ts.length :=
  match operand s c ts with
  | .failed e r => .failed e r
  | .done left r h => (chainRest s c left r).weaken h
termination_by (ts.length, c.rank + 1)

/-- An operand of a level: a chain of the next level, or what stands below the chains. -/
def operand (s : Scope) (c : Chain) (ts : List Lexeme) : Parsed Expr ts.length :=
  match c with
  | .disjunction => chain s .conjunction ts
  | .conjunction => negation s ts
  | .sum => chain s .product ts
  | .product => signed s ts
termination_by (ts.length, c.rank)

/-- The operators and operands after a first operand. -/
def chainRest (s : Scope) (c : Chain) (left : Expr) (ts : List Lexeme) :
    Parsed Expr (ts.length + 1) :=
  match ts with
  | [] => .done left [] (by simp)
  | l :: r =>
    match c.operator? l.token with
    | none => .done left (l :: r) (by simp)
    | some op =>
      match operand s c r with
      | .failed e r' => .failed e r'
      | .done right r' h =>
        (chainRest s c (.binary op left right) r').weaken (by simp only [List.length_cons]; omega)
termination_by (ts.length, 0)

/-- Any number of `not` before a comparison. -/
def negation (s : Scope) (ts : List Lexeme) : Parsed Expr ts.length :=
  match ts with
  | [] => comparison s []
  | l :: r =>
    if l.token = .word .notWord then
      ((negation s r).map (.unary .not)).weaken (by simp)
    else comparison s (l :: r)
termination_by (ts.length, 7)

/-- A sum, or two sums with a comparison operator between them. -/
def comparison (s : Scope) (ts : List Lexeme) : Parsed Expr ts.length :=
  match chain s .sum ts with
  | .failed e r => .failed e r
  | .done left r h =>
    match r with
    | [] => .done left [] h
    | l :: r' =>
      match l.token with
      | .relation op =>
        have hr : r'.length < ts.length := Nat.lt_of_succ_lt h
        match chain s .sum r' with
        | .failed e r'' => .failed e r''
        | .done right r'' h' =>
          .done (.binary (.relation op) left right) r'' (Nat.lt_trans h' hr)
      | _ => .done left (l :: r') h
termination_by (ts.length, 6)

/-- Any number of minus signs before a primary. -/
def signed (s : Scope) (ts : List Lexeme) : Parsed Expr ts.length :=
  match ts with
  | [] => primary s []
  | l :: r =>
    if l.token = .minus then ((signed s r).map negated).weaken (by simp)
    else primary s (l :: r)
termination_by (ts.length, 1)

/-- A literal, a column, a call, or an expression in parentheses. -/
def primary (s : Scope) (ts : List Lexeme) : Parsed Expr ts.length :=
  match ts with
  | [] => s.unexpected .expression []
  | l :: r =>
    match literal? l.token with
    | some v => .done (.literal v) r (by simp)
    | none =>
      match l.token with
      | .identifier name => named s name l r
      | .leftParen =>
        match chain s .disjunction r with
        | .failed e r' => .failed e r'
        | .done e r' h =>
          match r' with
          | [] => s.unexpected .closingParen []
          | l' :: r'' =>
            if l'.token = .rightParen then
              .done e r'' (Nat.lt_trans (Nat.lt_of_succ_lt h) (Nat.lt_succ_self _))
            else s.unexpected .closingParen (l' :: r'')
      | _ => s.unexpected .expression (l :: r)
termination_by (ts.length, 0)

/-- A call if a parenthesis follows the name, else a column. -/
def named (s : Scope) (name : String) (l : Lexeme) (r : List Lexeme) :
    Parsed Expr (r.length + 1) :=
  match r with
  | [] => columnAt s name l []
  | p :: r' =>
    if p.token = .leftParen then
      match callee s name l.position with
      | .error e => .failed e (l :: p :: r')
      | .ok f =>
        match arguments (s.within f.function) f.function r' with
        | .failed e r'' => .failed e r''
        | .done args r'' h =>
          match call f args l.position with
          | .error e => .failed e r''
          | .ok e => .done e r'' (by simp only [List.length_cons]; omega)
    else columnAt s name l (p :: r')
termination_by (r.length, 15)

/-- The arguments behind an opening parenthesis, and the closing one. -/
def arguments (s : Scope) (f : Function) (ts : List Lexeme) :
    Parsed (List Expr) (ts.length + 1) :=
  match h : skipStar f ts with
  | [] => s.unclosed f []
  | l :: r =>
    have hle : (l :: r).length ≤ ts.length := h ▸ skipStar_length_le f ts
    if l.token = .rightParen then .done [] r (by simp only [List.length_cons] at hle; omega)
    else (argumentList s f (l :: r)).weaken (Nat.le_succ_of_le hle)
termination_by (ts.length, 14)
decreasing_by
  rcases Nat.lt_or_eq_of_le hle with h' | h'
  · exact Prod.Lex.left _ _ h'
  · simp only [h']
    exact Prod.Lex.right _ (by decide)

/-- At least one argument, commas between them, and the closing parenthesis. -/
def argumentList (s : Scope) (f : Function) (ts : List Lexeme) : Parsed (List Expr) ts.length :=
  if (s.front ts).token.startsExpression then
    match chain s .disjunction ts with
    | .failed e r => .failed e r
    | .done a r h =>
      match r with
      | [] => s.unclosed f []
      | l :: r' =>
        match l.token with
        | .comma =>
          have hr : r'.length < ts.length := Nat.lt_of_succ_lt h
          ((argumentList s f r').map (a :: ·)).weaken (Nat.le_of_lt hr)
        | .rightParen => .done [a] r' (Nat.lt_of_succ_lt h)
        | _ => s.unclosed f (l :: r')
  else s.unclosed f ts
termination_by (ts.length, 13)

end

end ExprParser

end FileQuery
