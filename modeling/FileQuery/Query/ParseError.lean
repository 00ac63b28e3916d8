import FileQuery.Catalog.Basic
import FileQuery.Query.Token

/-!
# Why a list of lexemes is no query

## Main definitions

* `FileQuery.Expected`, `FileQuery.ParseError`.
* `FileQuery.ParseError.position?`, `FileQuery.ParseError.message`.
-/

namespace FileQuery

/-- What should have stood at a place. -/
inductive Expected where
  | expression
  | closingParen
  | alias
  | endOfQuery
  deriving DecidableEq, Repr

def Expected.text : Expected → String
  | .expression => "expression"
  | .closingParen => "')'"
  | .alias => "alias after 'as'"
  | .endOfQuery => "end of query"

/-- Why a list of lexemes is no query; `found` is the text of the lexeme at the place. -/
inductive ParseError where
  | emptyQuery
  | nonSelectQuery (found : String) (position : Position)
  | noProjection (found : String) (position : Position)
  | missingComma (found : String) (position : Position)
  | missingOpeningParen (f : Function) (position : Position)
  | missingClosingParen (f : Function) (found : String) (position : Position)
  | missingSource (position : Position)
  | missingBy (found : String) (position : Position)
  | missingOrderColumn (found : String) (position : Position)
  | missingOrderComma (found : String) (position : Position)
  | missingLimit (position : Position)
  | invalidLimit (found : String) (position : Position)
  | unknownIdentifier (name : String) (position : Position)
  | arity (f : Function) (accepted : Arity) (count : Nat) (position : Position)
  | orderColumnOutOfRange (column : Int64) (columns : Nat) (position : Position)
  | unexpectedToken (wanted : Expected) (found : String) (position : Position)
  | notInPredicate (f : Function) (position : Position)
  | nestedAggregate (f : Function) (position : Position)
  deriving DecidableEq

namespace ParseError

/-- The place of an error; an empty query has none. -/
def position? : ParseError → Option Position
  | .emptyQuery => none
  | .nonSelectQuery _ p => some p
  | .noProjection _ p => some p
  | .missingComma _ p => some p
  | .missingOpeningParen _ p => some p
  | .missingClosingParen _ _ p => some p
  | .missingSource p => some p
  | .missingBy _ p => some p
  | .missingOrderColumn _ p => some p
  | .missingOrderComma _ p => some p
  | .missingLimit p => some p
  | .invalidLimit _ p => some p
  | .unknownIdentifier _ p => some p
  | .arity _ _ _ p => some p
  | .orderColumnOutOfRange _ _ p => some p
  | .unexpectedToken _ _ p => some p
  | .notInPredicate _ p => some p
  | .nestedAggregate _ p => some p

def message : ParseError → String
  | .emptyQuery => "query is empty"
  | .nonSelectQuery s p => s!"only select queries are supported, found '{s}' at {p.toText}"
  | .noProjection s p =>
    s!"expected an expression in the projection list, found '{s}' at {p.toText}"
  | .missingComma s p =>
    s!"expected ',' or 'from' after a projection, found '{s}' at {p.toText}"
  | .missingOpeningParen f p =>
    s!"function '{f.canonicalName}' must be followed by '(' at {p.toText}"
  | .missingClosingParen f s p =>
    s!"expected ')' to close the call to '{f.canonicalName}', found '{s}' at {p.toText}"
  | .missingSource p => s!"missing source path after 'from' at {p.toText}"
  | .missingBy s p => s!"expected 'by' after 'order', found '{s}' at {p.toText}"
  | .missingOrderColumn s p =>
    s!"expected a column number after 'order by', found '{s}' at {p.toText}"
  | .missingOrderComma s p =>
    s!"expected ',' between order by columns, found '{s}' at {p.toText}"
  | .missingLimit p => s!"expected a value after 'limit' at {p.toText}"
  | .invalidLimit s p => s!"limit must be a non-negative integer, found '{s}' at {p.toText}"
  | .unknownIdentifier s p => s!"unknown identifier '{s}' at {p.toText}"
  | .arity f a n _ =>
    s!"function '{f.canonicalName}' expects {a.toText} argument(s), got {n}"
  | .orderColumnOutOfRange i n _ =>
    s!"order by column {i.toInt} is out of range: the query has {n} column(s)"
  | .unexpectedToken w s p => s!"expected {w.text}, found '{s}' at {p.toText}"
  | .notInPredicate f _ =>
    s!"aggregate function '{f.canonicalName}' cannot be used in a where clause"
  | .nestedAggregate f _ =>
    s!"aggregate function '{f.canonicalName}' cannot be nested inside another aggregate"

end ParseError

end FileQuery
