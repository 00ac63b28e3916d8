import Std.Data.HashMap
import FileQuery.Catalog.Basic

/-!
# The index of names

A catalog with an index does not search its definitions for a name: a table leads from every name
in lower case to the place of the definition that has it. The table is filled name by name in the
order of the definitions, while the canonical names of those already entered are kept beside it. A
name that leads somewhere already is an error; the place it leads to tells which definition had it
first.

## Main definitions

* `FileQuery.NameIndex`, `FileQuery.NameIndex.place?`.
* `FileQuery.NameIndex.enterName`, `FileQuery.NameIndex.build`: filling an index.
* `FileQuery.IndexedCatalog`, `FileQuery.IndexedCatalog.ofEntries?`: a catalog with its two indices.
* `FileQuery.IndexedCatalog.findAttribute?`, `FileQuery.IndexedCatalog.findFunction?`.
-/

namespace FileQuery

/-- Names in lower case, each with the place of the definition that has it. -/
abbrev NameIndex := Std.HashMap String Nat

namespace NameIndex

/-- The place that a name leads to, in any case. -/
def place? (x : NameIndex) (name : String) : Option Nat := x[Text.toLower name]?

/-- Enters a name of a definition behind those with the given canonical names. A place behind them
all is that of the definition itself. -/
def enterName (owners : List String) (owner : String) (x : NameIndex) (name : String) :
    Except DuplicateName NameIndex :=
  match x.place? name with
  | some i => .error ⟨name, owners.getD i owner, owner⟩
  | none => .ok (x.insert (Text.toLower name) owners.length)

/-- Enters definitions, each given by its canonical name and its aliases. -/
def enterAll (owners : List String) (x : NameIndex) :
    List (String × List String) → Except DuplicateName NameIndex
  | [] => .ok x
  | (owner, aliases) :: es => do
    let x ← (owner :: aliases).foldlM (enterName owners owner) x
    enterAll (owners ++ [owner]) x es

/-- The index of definitions, or the first name that is taken twice. -/
def build (es : List (String × List String)) : Except DuplicateName NameIndex := enterAll [] ∅ es

end NameIndex

/-- Definitions of attributes and functions with the indices of their names. -/
structure IndexedCatalog where
  attributes : List AttributeEntry
  functions : List FunctionEntry
  attributeIndex : NameIndex
  functionIndex : NameIndex

namespace IndexedCatalog

/-- The catalog of the given definitions, or the first name that is taken twice, the attributes
coming before the functions. -/
def ofEntries? (attributes : List AttributeEntry) (functions : List FunctionEntry) :
    Except DuplicateName IndexedCatalog := do
  let attributeIndex ← NameIndex.build
    (attributes.map fun e => (e.subject.canonicalName, e.aliases))
  let functionIndex ← NameIndex.build
    (functions.map fun e => (e.function.canonicalName, e.aliases))
  return ⟨attributes, functions, attributeIndex, functionIndex⟩

/-- The attribute at the place that a name leads to. -/
def findAttribute? (c : IndexedCatalog) (name : String) : Option AttributeEntry :=
  (c.attributeIndex.place? name).bind (c.attributes[·]?)

/-- The function at the place that a name leads to. -/
def findFunction? (c : IndexedCatalog) (name : String) : Option FunctionEntry :=
  (c.functionIndex.place? name).bind (c.functions[·]?)

end IndexedCatalog

end FileQuery
