import FileQuery.Query.Parser

/-!
# Parsing in place

The grammar of queries once more, read in place: all lexemes lie in one list with a last one that is
an end, an index points at the lexeme ahead, and a lexeme that is taken leaves an end in its place.
What is allowed at a place is kept in two flags that are set before a part is read and reset behind
it: whether it belongs to a predicate, and in how many arguments of aggregate calls it lies. No step
looks at its bounds. A step that would read behind the list, reset a flag that is not set, or negate
the least integer breaks off, and so does a recursion that runs out of fuel.

## Main definitions

* `FileQuery.Cursor`, `FileQuery.Cursor.Step`: a place in the lexemes, and steps from there.
* `FileQuery.Cursor.Abort`: why a step breaks off.
* `FileQuery.Cursor.chain` and its siblings: expressions.
* `FileQuery.Cursor.query`: queries.
* `FileQuery.Cursor.Call`, `FileQuery.Cursor.answers`: calls one after the other.
-/

namespace FileQuery

/-- Lexemes with the index of the one ahead, and the flags of that place. -/
structure Cursor where
  catalog : Catalog
  lexemes : List Lexeme
  index : Nat
  /-- Inside a predicate only functions that the catalog admits there may be called. -/
  inPredicate : Bool
  /-- How many arguments of aggregate calls lie around the place. -/
  aggregateDepth : Nat

namespace Cursor

/-- A cursor at the first lexeme; an end is put behind the lexemes unless the last one is an end. -/
def ofLexemes (catalog : Catalog) (ts : List Lexeme) : Cursor :=
  match ts.getLast? with
  | none => ⟨catalog, [.endAt .start], 0, false, 0⟩
  | some l =>
    if l.token = .endOfText then ⟨catalog, ts, 0, false, 0⟩
    else ⟨catalog, ts ++ [.endAt l.endPosition], 0, false, 0⟩

/-- The cursor at the next lexeme; at the last one it stays. -/
def next (c : Cursor) : Cursor :=
  if c.index + 1 < c.lexemes.length then { c with index := c.index + 1 } else c

@[simp] theorem next_inPredicate (c : Cursor) : c.next.inPredicate = c.inPredicate := by
  unfold next
  split <;> rfl

@[simp] theorem next_aggregateDepth (c : Cursor) : c.next.aggregateDepth = c.aggregateDepth := by
  unfold next
  split <;> rfl

/-- Why a step breaks off. -/
inductive Abort where
  /-- There is no lexeme at an index. -/
  | outOfRange
  /-- An argument of an aggregate call is left where there is none. -/
  | underflow
  /-- The least integer has no negative of 64 bits. -/
  | overflow
  | outOfFuel
  deriving DecidableEq

/-- Steps that fail with a parse error go on from the place where they failed; steps that break off
do not go on. -/
abbrev Step (α : Type) := ExceptT ParseError (StateT Cursor (Except Abort)) α

namespace Step

variable {α : Type}

/-- The outcome of a step and the cursor behind it. -/
def run (m : Step α) (c : Cursor) : Except Abort (Except ParseError α × Cursor) :=
  StateT.run (ExceptT.run m) c

/-- Breaks off. -/
def abort (cause : Abort) : Step α := ExceptT.lift (StateT.lift (.error cause))

/-- The outcome of a step as a value, so that a failure can be passed on later. -/
def attempt (m : Step α) : Step (Except ParseError α) := ExceptT.lift (ExceptT.run m)

/-- An outcome as a step. -/
def ofOutcome (x : Except ParseError α) : Step α := ExceptT.mk (pure x)

/-- The lexeme at a distance from the index. -/
def lexemeAt (distance : Nat) : Step Lexeme := do
  let c ← get
  match c.lexemes[c.index + distance]? with
  | some l => return l
  | none => abort .outOfRange

/-- The lexeme ahead. -/
def current : Step Lexeme := lexemeAt 0

/-- The token behind the lexeme ahead; behind the last lexeme there is an end. -/
def peek : Step Token := do
  let c ← get
  return (c.lexemes[c.index + 1]?.map Lexeme.token).getD .endOfText

/-- Goes on to the next lexeme. -/
def advance : Step Unit := modify Cursor.next

/-- Takes the lexeme ahead, leaves an end in its place, and goes on. -/
def take : Step Lexeme := do
  let l ← current
  modify fun c : Cursor => { c with lexemes := c.lexemes.set c.index (.endAt l.position) }
  advance
  return l

/-- Fails with an error made from the text and the place of the lexeme ahead. -/
def failAt (e : String → Position → ParseError) : Step α := do
  let l ← current
  throw (e l.toText l.position)

/-- Goes on behind a token that has to be ahead. -/
def expect (t : Token) (wanted : Expected) : Step Unit := do
  if (← current).token = t then advance else failAt (.unexpectedToken wanted)

/-- Enters the arguments of a function. -/
def enter (f : Function) : Step Unit :=
  if f.isAggregate then
    modify fun c : Cursor => { c with aggregateDepth := c.aggregateDepth + 1 }
  else return ()

/-- Leaves the arguments of a function. -/
def leave (f : Function) : Step Unit := do
  if f.isAggregate then
    match (← get).aggregateDepth with
    | 0 => abort .underflow
    | depth + 1 => modify fun c : Cursor => { c with aggregateDepth := depth }
  else return ()

/-- Reads the arguments of a function; a failure is passed on behind them. -/
def within (f : Function) (m : Step α) : Step α := do
  enter f
  let outcome ← attempt m
  leave f
  ofOutcome outcome

/-- Sets whether the place is inside a predicate. -/
def setPredicate (b : Bool) : Step Unit := modify fun c : Cursor => { c with inPredicate := b }

end Step

open Step ExprParser

/-! ### Expressions -/

/-- A minus sign before an expression; before a number it is part of the number. -/
def negated : Expr → Step Expr
  | .literal (.integer n) =>
    if n = Int64.minValue then abort .overflow else return .literal (.integer (-n))
  | e => return ExprParser.negated e

/-- The function of a name before an opening parenthesis, if it may be called here. -/
def callee (name : String) (p : Position) : Step FunctionEntry := do
  let c ← get
  match c.catalog.findFunction? name with
  | none => throw (.unknownIdentifier name p)
  | some e =>
    if c.inPredicate && !e.inPredicates then throw (.notInPredicate e.function p)
    else if e.function.isAggregate && 0 < c.aggregateDepth then
      throw (.nestedAggregate e.function p)
    else return e

/-- A column at the front, where no parenthesis follows its name. -/
def column (name : String) (p : Position) : Step Expr := do
  let c ← get
  match c.catalog.findAttribute? name with
  | some e =>
    advance
    return .column e.subject
  | none =>
    match c.catalog.findFunction? name with
    | some e => throw (.missingOpeningParen e.function (← lexemeAt 1).position)
    | none => throw (.unknownIdentifier name p)

/-- Goes on behind the star of `count(*)`, which is `count()`. -/
def skipStar (f : Function) : Step Unit := do
  if f = .aggregate .count ∧ (← current).token = .star ∧ (← peek) = .rightParen then advance
  else return ()

mutual

/-- A chain of operands with the operators of a level between them, grouped to the left. -/
def chain : Nat → Chain → Step Expr
  | 0, _ => abort .outOfFuel
  | fuel + 1, k => do
    let left ← operand fuel k
    chainRest fuel k left

/-- An operand of a level: a chain of the next level, or what stands below the chains. -/
def operand : Nat → Chain → Step Expr
  | 0, _ => abort .outOfFuel
  | fuel + 1, .disjunction => chain fuel .conjunction
  | fuel + 1, .conjunction => negation fuel
  | fuel + 1, .sum => chain fuel .product
  | fuel + 1, .product => signed fuel

/-- The operators and operands after a first operand. -/
def chainRest : Nat → Chain → Expr → Step Expr
  | 0, _, _ => abort .outOfFuel
  | fuel + 1, k, left => do
    match k.operator? (← current).token with
    | none => return left
    | some op =>
      advance
      let right ← operand fuel k
      chainRest fuel k (.binary op left right)

/-- Any number of `not` before a comparison. -/
def negation : Nat → Step Expr
  | 0 => abort .outOfFuel
  | fuel + 1 => do
    if (← current).token = .word .notWord then
      advance
      return .unary .not (← negation fuel)
    else comparison fuel

/-- A sum, or two sums with a comparison operator between them. -/
def comparison : Nat → Step Expr
  | 0 => abort .outOfFuel
  | fuel + 1 => do
    let left ← chain fuel .sum
    match (← current).token with
    | .relation op =>
      advance
      let right ← chain fuel .sum
      return .binary (.relation op) left right
    | _ => return left

/-- Any number of minus signs before a primary. -/
def signed : Nat → Step Expr
  | 0 => abort .outOfFuel
  | fuel + 1 => do
    if (← current).token = .minus then
      advance
      negated (← signed fuel)
    else primary fuel

/-- A literal, a column, a call, or an expression in parentheses. -/
def primary : Nat → Step Expr
  | 0 => abort .outOfFuel
  | fuel + 1 => do
    let l ← current
    match literal? l.token with
    | some _ => return .literal ((literal? (← take).token).getD .null)
    | none =>
      match l.token with
      | .identifier name => named fuel name l.position
      | .leftParen =>
        advance
        let e ← chain fuel .disjunction
        expect .rightParen .closingParen
        return e
      | _ => failAt (.unexpectedToken .expression)

/-- A call if a parenthesis follows the name, else a column. -/
def named : Nat → String → Position → Step Expr
  | 0, _, _ => abort .outOfFuel
  | fuel + 1, name, p => do
    if (← peek) = .leftParen then
      let f ← callee name p
      advance
      advance
      let args ← within f.function (arguments fuel f.function)
      ofOutcome (call f args p)
    else column name p

/-- The arguments behind an opening parenthesis, and the closing one. -/
def arguments : Nat → Function → Step (List Expr)
  | 0, _ => abort .outOfFuel
  | fuel + 1, f => do
    skipStar f
    if (← current).token = .rightParen then
      advance
      return []
    else argumentList fuel f

/-- At least one argument, commas between them, and the closing parenthesis. -/
def argumentList : Nat → Function → Step (List Expr)
  | 0, _ => abort .outOfFuel
  | fuel + 1, f => do
    if (← current).token.startsExpression then
      let a ← chain fuel .disjunction
      match (← current).token with
      | .comma =>
        advance
        return a :: (← argumentList fuel f)
      | .rightParen =>
        advance
        return [a]
      | _ => failAt (.missingClosingParen f)
    else failAt (.missingClosingParen f)

end

/-! ### Projections and source -/

/-- The name after `as`, if there is one. A lexeme that is no name is taken nevertheless. -/
def label : Step (Option String) := do
  if (← current).token = .word .asWord then
    advance
    let l ← take
    match l.token with
    | .identifier name => return some name
    | .string name => return some name
    | _ => throw (.unexpectedToken .alias l.toText l.position)
  else return none

/-- One item of the projection list: all default columns, or an expression and its name. -/
def projection (fuel : Nat) : Step (List Projection) := do
  let l ← current
  if l.token = .star then
    advance
    return (← get).catalog.defaultColumns.map fun e => ⟨.column e.subject, none⟩
  else if l.token.startsExpression then
    let e ← chain fuel .disjunction
    let name ← label
    return [⟨e, name⟩]
  else failAt .noProjection

/-- The projection list, up to the keyword `from`, which is ahead afterwards. -/
def projections : Nat → Step (List Projection)
  | 0 => abort .outOfFuel
  | fuel + 1 => do
    let ps ← projection fuel
    let l ← current
    match l.token with
    | .comma =>
      advance
      return ps ++ (← projections fuel)
    | .word .fromWord => return ps
    | .endOfText => throw (.missingSource l.position)
    | _ => failAt .missingComma

/-- The source after the keyword `from`: a path or a string that is not blank. -/
def source : Step String := do
  advance
  let l ← current
  let given (text : String) : Step String := do
    if Text.isBlank text then throw (.missingSource l.position)
    else
      advance
      return text
  match l.token with
  | .path text => given text
  | .string text => given text
  | _ => throw (.missingSource l.position)

/-! ### Predicate, order and limit -/

/-- The predicate, if `where` is ahead. A failure inside it is passed on at once. -/
def predicate (fuel : Nat) : Step (Option Expr) := do
  if (← current).token = .word .whereWord then
    advance
    setPredicate true
    let e ← chain fuel .disjunction
    setPredicate false
    return some e
  else return none

/-- The direction after a column; ascending if none is given. -/
def direction : Step Direction := do
  match (← current).token with
  | .word .ascWord =>
    advance
    return .ascending
  | .word .descWord =>
    advance
    return .descending
  | _ => return .ascending

/-- Column numbers with directions, commas between them. -/
def orderKeys (columns : Nat) : Nat → Step (List OrderKey)
  | 0 => abort .outOfFuel
  | fuel + 1 => do
    let l ← current
    match l.token with
    | .integer n =>
      if n.toInt < 1 ∨ columns < n.toInt then throw (.orderColumnOutOfRange n columns l.position)
      else
        advance
        let d ← direction
        let key : OrderKey := ⟨n.toInt.toNat, d⟩
        match (← current).token with
        | .comma =>
          advance
          return key :: (← orderKeys columns fuel)
        | .integer _ => failAt .missingOrderComma
        | _ => return [key]
    | _ => failAt .missingOrderColumn

/-- The columns to order by, if `order` is ahead. -/
def orderBy (fuel columns : Nat) : Step (List OrderKey) := do
  if (← current).token = .word .orderWord then
    advance
    if (← current).token = .word .byWord then
      advance
      orderKeys columns fuel
    else failAt .missingBy
  else return []

/-- The limit, if `limit` is ahead. -/
def limit : Step (Option Nat) := do
  if (← current).token = .word .limitWord then
    advance
    let l ← current
    match l.token with
    | .endOfText => throw (.missingLimit l.position)
    | .integer n =>
      if 0 ≤ n.toInt then
        advance
        return some n.toInt.toNat
      else failAt .invalidLimit
    | _ => failAt .invalidLimit
  else return none

/-! ### Queries -/

/-- The beginning of a query, up to its source. -/
def head (fuel : Nat) : Step (List Projection × String) := do
  let l ← current
  if l.token = .endOfText then throw .emptyQuery
  else if l.token = .word .selectWord then
    advance
    let projections ← projections fuel
    let source ← source
    return (projections, source)
  else failAt .nonSelectQuery

/-- What follows the predicate of a query, up to the end. -/
def tail (fuel columns : Nat) : Step (List OrderKey × Option Nat) := do
  let orderBy ← orderBy fuel columns
  let limit ← limit
  expect .endOfText .endOfQuery
  return (orderBy, limit)

/-- Reads a query up to the end of the text. -/
def query (fuel : Nat) : Step Query := do
  let (projections, source) ← head fuel
  let predicate ← predicate fuel
  let (orderBy, limit) ← tail fuel projections.length
  return ⟨projections, source, predicate, orderBy, limit⟩

/-! ### Calls -/

/-- What a user of a cursor can ask for. -/
inductive Call where
  | query
  /-- An expression. -/
  | expression
  /-- An expression that holds no comparison and no logic outside parentheses. -/
  | sum
  deriving DecidableEq

/-- The step of a call: a query or an expression. -/
def Call.step (fuel : Nat) : Call → Step (Query ⊕ Expr)
  | .query => Sum.inl <$> Cursor.query fuel
  | .expression => Sum.inr <$> chain fuel .disjunction
  | .sum => Sum.inr <$> chain fuel .sum

/-- The outcomes of calls one after the other, each from where the last one has stopped, whether it
succeeded or not. -/
def answers (fuel : Nat) : List Call → Cursor →
    Except Abort (List (Except ParseError (Query ⊕ Expr)) × Cursor)
  | [], c => .ok ([], c)
  | k :: ks, c => do
    let (outcome, c) ← (k.step fuel).run c
    let (outcomes, c) ← answers fuel ks c
    return (outcome :: outcomes, c)

end Cursor

end FileQuery
