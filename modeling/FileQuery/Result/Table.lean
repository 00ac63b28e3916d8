import FileQuery.Result.Json

/-!
# Result tables

The result of a query is a table: columns with headers and kinds, and rows of values. It is shown as
text, a line for the headers and one for every row with tabs between the cells, or as JSON.

## Main definitions

* `FileQuery.Column`, `FileQuery.ResultTable`.
* `FileQuery.ResultTable.toText`, `FileQuery.ResultTable.toJson`.
* `FileQuery.OutputFormat`, `FileQuery.ResultTable.render`.
-/

namespace FileQuery

/-- A column: its header and the kind of its values, if that is known. -/
structure Column where
  header : String
  kind : Option Kind
  deriving DecidableEq, Repr

structure ResultTable where
  columns : List Column
  rows : List (List Value)
  deriving DecidableEq

namespace ResultTable

/-- The number of rows. -/
def size (t : ResultTable) : Nat := t.rows.length

/-- The values of one column, from top to bottom; rows that are too short have none. -/
def column (t : ResultTable) (i : Nat) : List Value := t.rows.filterMap fun row => row[i]?

def headers (t : ResultTable) : List String := t.columns.map Column.header

/-! ### Text -/

/-- A character of a cell: what would end the cell is written with a backslash. -/
def escapeCell (c : Char) : List Char :=
  match c with
  | '\t' => ['\\', 't']
  | '\n' => ['\\', 'n']
  | c => [c]

/-- The text of a value in a cell. -/
def cell (s : String) : String := String.ofList (s.toList.flatMap escapeCell)

/-- A line of cells. -/
def line (cells : List String) : String := "\t".intercalate cells ++ "\n"

/-- A line for the headers and one for every row. -/
def toText (t : ResultTable) : String :=
  line t.headers ++ String.join (t.rows.map fun row => line (row.map fun v => cell v.toText))

/-! ### JSON -/

/-- The headers and the rows. -/
def toJson (t : ResultTable) : Json :=
  .object [("columns", .array (t.headers.map .string)),
    ("rows", .array (t.rows.map fun row => .array (row.map Value.toJson)))]

end ResultTable

/-- The ways to show a result. -/
inductive OutputFormat where
  | text
  | json
  | indentedJson
  deriving DecidableEq, Repr

/-- The shown form of a result. -/
def ResultTable.render (t : ResultTable) : OutputFormat → String
  | .text => t.toText
  | .json => t.toJson.write
  | .indentedJson => t.toJson.writeIndented 0

end FileQuery
