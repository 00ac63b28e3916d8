import FileQuery.Query.Expr

/-!
# Queries

A query projects expressions from the entries below a source, filters them by a predicate, orders
the results by columns and keeps a number of them.

## Main definitions

* `FileQuery.Projection`, `FileQuery.OrderKey`, `FileQuery.Query`.
* `FileQuery.Query.referencedAttributes`: the attributes that an execution reads.
-/

namespace FileQuery

/-- An output column: an expression and the name given to it. -/
structure Projection where
  expr : Expr
  label : Option String

/-- The header of a column: its name, or else the text of its expression. -/
def Projection.header (p : Projection) : String := p.label.getD p.expr.toText

inductive Direction where
  | ascending
  | descending
  deriving DecidableEq, Repr

/-- A column to order by, counted from one. -/
structure OrderKey where
  column : Nat
  direction : Direction
  deriving DecidableEq, Repr

structure Query where
  projections : List Projection
  source : String
  predicate : Option Expr
  orderBy : List OrderKey
  limit : Option Nat

namespace Query

/-- Whether the query folds all rows into one. -/
def isAggregate (q : Query) : Bool := q.projections.any fun p => p.expr.hasAggregate

/-- The attributes that projections and predicate read, each once, in the order of the text. -/
def referencedAttributes (q : Query) : List Attribute :=
  (q.projections.flatMap (fun p => p.expr.columns) ++
    (q.predicate.map Expr.columns).getD []).eraseDups

def headers (q : Query) : List String := q.projections.map Projection.header

end Query

end FileQuery
