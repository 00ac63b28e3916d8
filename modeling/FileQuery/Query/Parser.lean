import FileQuery.Query.Basic
import FileQuery.Query.ExprParser
import FileQuery.Query.Scanner

/-!
# Parsing queries

A parser holds the lexemes ahead and whether it is inside a predicate; each call reads on where the
last one stopped, after a failure too. A query is `select`, projections, `from` and a source, and
then, each optional and in this order, a predicate, the columns to order by and a limit.

## Main definitions

* `FileQuery.Parser`, `FileQuery.Parser.ofLexemes`.
* `FileQuery.Parser.expression`, `FileQuery.Parser.sum`, `FileQuery.Parser.query`.
* `FileQuery.SyntaxError`, `FileQuery.Query.parse`: from text to query.
-/

namespace FileQuery

/-- The lexemes ahead of a parser, and what it knows about its place. -/
structure Parser where
  catalog : Catalog
  ahead : List Lexeme
  /-- The place of the end of the query. -/
  stop : Position
  inPredicate : Bool

namespace Parser

/-- A parser in front of a list of lexemes. A last lexeme that is an end gives the place of the
end; otherwise the query ends where the last lexeme does. -/
def ofLexemes (catalog : Catalog) (ts : List Lexeme) : Parser :=
  match ts.getLast? with
  | none => ⟨catalog, [], .start, false⟩
  | some l =>
    if l.token = .endOfText then ⟨catalog, ts.dropLast, l.position, false⟩
    else ⟨catalog, ts, l.endPosition, false⟩

/-- The rules for an expression at the place of a parser. -/
def scope (p : Parser) : Scope := ⟨p.catalog, p.stop, p.inPredicate, false⟩

/-- The lexeme ahead, or the end of the query. -/
def front (p : Parser) : Lexeme := p.scope.front p.ahead

/-- A parser that has read on. -/
def moveTo (p : Parser) (rest : List Lexeme) : Parser := { p with ahead := rest }

/-- Steps that read on. A failed step leaves the parser where the failure arose. -/
abbrev Step (α : Type) := EStateM ParseError Parser α

namespace Step

/-- The lexeme ahead. -/
def peek : Step Lexeme := return (← get).front

/-- Skips the lexeme ahead. -/
def skip : Step Unit := modify fun p => p.moveTo p.ahead.tail

/-- Whether a keyword is ahead. -/
def sees (k : Keyword) : Step Bool := return (← peek).token = .word k

/-- Fails with an error made from the text and the place of the lexeme ahead. -/
def failAt {α : Type} (e : String → Position → ParseError) : Step α := do
  let l ← peek
  throw (e l.toText l.position)

/-- A parser of lists as a step. -/
def ofParsed {α : Type} (f : (s : Scope) → (ts : List Lexeme) → Parsed α ts.length) : Step α :=
  fun p =>
    match f p.scope p.ahead with
    | .done a r _ => .ok a (p.moveTo r)
    | .failed e r => .error e (p.moveTo r)

end Step

open Step

/-- Reads an expression. -/
def expression : Step Expr := ofParsed fun s ts => ExprParser.chain s .disjunction ts

/-- Reads an expression that holds no comparison and no logic outside parentheses. -/
def sum : Step Expr := ofParsed fun s ts => ExprParser.chain s .sum ts

/-! ### Projections -/

/-- The name after `as`, if there is one, and the lexemes after it. A lexeme that is no name is
skipped nevertheless. -/
def label (s : Scope) (ts : List Lexeme) : Parsed (Option String) (ts.length + 1) :=
  match ts with
  | [] => .done none [] (Nat.lt_succ_self _)
  | l :: r =>
    if l.token = .word .asWord then
      let named (name : String) : Parsed (Option String) (r.length + 2) :=
        .done (some name) r.tail (by simp only [List.length_tail]; omega)
      match (s.front r).token with
      | .identifier name => named name
      | .string name => named name
      | _ => .failed
          (.unexpectedToken .alias (s.front r).toText (s.front r).position) r.tail
    else .done none (l :: r) (Nat.lt_succ_self _)

/-- One item of the projection list: all default columns, or an expression and its name. -/
def projection (s : Scope) (ts : List Lexeme) : Parsed (List Projection) ts.length :=
  match ts with
  | [] => .failed (.noProjection (s.front []).toText s.stop) []
  | l :: r =>
    if l.token = .star then
      .done (s.catalog.defaultColumns.map fun e => ⟨.column e.subject, none⟩) r
        (Nat.lt_add_one _)
    else if l.token.startsExpression then
      match ExprParser.chain s .disjunction (l :: r) with
      | .failed e r' => .failed e r'
      | .done e r' h => ((label s r').map fun name => [⟨e, name⟩]).weaken h
    else .failed (.noProjection l.toText l.position) (l :: r)

/-- The projection list, up to the keyword `from`, which is ahead afterwards. -/
def projections (s : Scope) (ts : List Lexeme) : Parsed (List Projection) ts.length :=
  match projection s ts with
  | .failed e r => .failed e r
  | .done ps r h =>
    match r with
    | [] => .failed (.missingSource s.stop) []
    | l :: r' =>
      match l.token with
      | .comma =>
        have hr : r'.length < ts.length := Nat.lt_of_succ_lt h
        ((projections s r').map (ps ++ ·)).weaken (Nat.le_of_lt hr)
      | .word .fromWord => .done ps (l :: r') h
      | .endOfText => .failed (.missingSource l.position) (l :: r')
      | _ => .failed (.missingComma l.toText l.position) (l :: r')
termination_by ts.length

/-- The source after the keyword `from`: a path or a string that is not blank. -/
def source : Step String := do
  skip
  let l ← peek
  let missing : Step String := throw (.missingSource l.position)
  let given (text : String) : Step String := do
    if Text.isBlank text then missing
    else
      skip
      return text
  match l.token with
  | .path text => given text
  | .string text => given text
  | _ => missing

/-! ### Predicate, order and limit -/

/-- The predicate, if `where` is ahead. The parser stays inside it when it fails. -/
def predicate : Step (Option Expr) := do
  if ← sees .whereWord then
    skip
    modify fun p : Parser => { p with inPredicate := true }
    let e ← expression
    modify fun p : Parser => { p with inPredicate := false }
    return some e
  else return none

/-- The direction after a column; ascending if none is given. -/
def direction : List Lexeme → Direction × List Lexeme
  | [] => (.ascending, [])
  | l :: r =>
    match l.token with
    | .word .ascWord => (.ascending, r)
    | .word .descWord => (.descending, r)
    | _ => (.ascending, l :: r)

theorem direction_length_le (ts : List Lexeme) : (direction ts).2.length ≤ ts.length := by
  unfold direction
  split
  · exact Nat.le_refl _
  · split <;> simp

/-- Column numbers with directions, commas between them. -/
def orderKeys (columns : Nat) (s : Scope) (ts : List Lexeme) : Parsed (List OrderKey) ts.length :=
  match ts with
  | [] => .failed (.missingOrderColumn (s.front []).toText s.stop) []
  | l :: r =>
    match l.token with
    | .integer n =>
      if n.toInt < 1 ∨ columns < n.toInt then
        .failed (.orderColumnOutOfRange n columns l.position) (l :: r)
      else
        have hd := direction_length_le r
        let key : OrderKey := ⟨n.toInt.toNat, (direction r).1⟩
        match h : (direction r).2 with
        | [] => .done [key] [] (by simp)
        | l' :: r' =>
          match l'.token with
          | .comma =>
            have hr : r'.length < r.length := by rw [h] at hd; exact hd
            ((orderKeys columns s r').map (key :: ·)).weaken (Nat.le_succ_of_le (Nat.le_of_lt hr))
          | .integer _ => .failed (.missingOrderComma l'.toText l'.position) (l' :: r')
          | _ => .done [key] (l' :: r') (Nat.lt_succ_of_le (h ▸ hd))
    | _ => .failed (.missingOrderColumn l.toText l.position) (l :: r)
termination_by ts.length

/-- The columns to order by, if `order` is ahead. -/
def orderBy (columns : Nat) : Step (List OrderKey) := do
  if ← sees .orderWord then
    skip
    unless ← sees .byWord do failAt .missingBy
    skip
    ofParsed (orderKeys columns)
  else return []

/-- The limit, if `limit` is ahead. -/
def limit : Step (Option Nat) := do
  if ← sees .limitWord then
    skip
    let l ← peek
    match l.token with
    | .endOfText => throw (.missingLimit l.position)
    | .integer n =>
      if 0 ≤ n.toInt then
        skip
        return some n.toInt.toNat
      else failAt .invalidLimit
    | _ => failAt .invalidLimit
  else return none

/-! ### Queries -/

/-- Reads a query up to the end of the text. -/
def query : Step Query := do
  if (← peek).token = .endOfText then throw .emptyQuery
  unless ← sees .selectWord do failAt .nonSelectQuery
  skip
  let projections ← ofParsed projections
  let source ← source
  let predicate ← predicate
  let orderBy ← orderBy projections.length
  let limit ← limit
  unless (← peek).token = .endOfText do failAt (.unexpectedToken .endOfQuery)
  skip
  return ⟨projections, source, predicate, orderBy, limit⟩

/-- The outcome of a step and the parser after it. -/
def run {α : Type} (p : Parser) (step : Step α) : Except ParseError α × Parser :=
  match EStateM.run step p with
  | .ok a p' => (.ok a, p')
  | .error e p' => (.error e, p')

end Parser

/-- Why a text is no query. -/
inductive SyntaxError where
  | lex (e : LexError)
  | parse (e : ParseError)
  deriving DecidableEq

def SyntaxError.message : SyntaxError → String
  | .lex e => s!"lex error: {e.message}"
  | .parse e => s!"parse error: {e.message}"

/-- The query of a list of lexemes. -/
def Query.ofLexemes (catalog : Catalog) (ts : List Lexeme) : Except ParseError Query :=
  ((Parser.ofLexemes catalog ts).run Parser.query).1

/-- The query of a text. -/
def Query.parse (catalog : Catalog) (text : String) : Except SyntaxError Query :=
  match tokenize text with
  | .error e => .error (.lex e)
  | .ok ts => (Query.ofLexemes catalog ts).mapError .parse

end FileQuery
