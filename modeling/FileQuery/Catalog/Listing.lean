import FileQuery.Catalog.Standard
import FileQuery.Text.WhiteSpace

/-!
# Explaining the catalog

Lists of the attributes and functions, one line each, and the description of a single name.

## Main definitions

* `FileQuery.Catalog.listAttributes`, `FileQuery.Catalog.listFunctions`,
  `FileQuery.Catalog.listPredicateFunctions`.
* `FileQuery.Catalog.describe?`.
-/

namespace FileQuery.Catalog

/-- A text filled up with blanks to a width. -/
def padRight (width : Nat) (s : String) : String :=
  s ++ String.ofList (List.replicate (width - s.length) ' ')

/-- The aliases at the end of a line, nothing if there are none. -/
def aliasNote (aliases : List String) : String :=
  if aliases.isEmpty then "" else " [" ++ String.intercalate ", " aliases ++ "]"

/-- The line of an attribute: name, kind, description and aliases. -/
def attributeLine (e : AttributeEntry) : String :=
  s!"{padRight 12 e.subject.canonicalName} {padRight 8 e.kind.name} " ++
    s!"{e.description}{aliasNote e.aliases}\n"

/-- The line of a function: name with number of arguments, description and aliases. -/
def functionLine (e : FunctionEntry) : String :=
  let signature := s!"{e.function.canonicalName}({e.arity.toText})"
  s!"{padRight 16 signature} {e.description}{aliasNote e.aliases}\n"

def listAttributes (c : Catalog) : String := String.join (c.attributes.map attributeLine)

def listFunctions (c : Catalog) : String := String.join (c.functions.map functionLine)

/-- The functions that predicates may call. -/
def listPredicateFunctions (c : Catalog) : String :=
  String.join (c.predicateFunctions.map functionLine)

/-- The aliases within a description, nothing if there are none. -/
def aliasClause (aliases : List String) : String :=
  if aliases.isEmpty then "" else "; aliases: " ++ String.intercalate ", " aliases

/-- What a name means: an attribute if there is one, else a function. -/
def describe? (c : Catalog) (name : String) : Option String :=
  match c.findAttribute? name with
  | some e => some (s!"{e.subject.canonicalName} ({e.kind.name} attribute" ++
      s!"{aliasClause e.aliases}): {e.description}")
  | none => (c.findFunction? name).map fun e =>
      let kind := if e.function.isAggregate then "aggregate" else "scalar"
      s!"{e.function.canonicalName} ({kind} function, {e.arity.toText} argument(s)" ++
        s!"{aliasClause e.aliases}): {e.description}"

end FileQuery.Catalog
