import FileQuery.Catalog.Name
import FileQuery.Text.CaseMap
import FileQuery.Value.Basic

/-!
# The catalog of attributes and functions

A catalog lists the attributes and functions that queries may name, each under its canonical name
and any number of aliases. Names are compared in lower case; within the attributes, and within the
functions, no two names may agree, so that a name leads to at most one definition.

## Main definitions

* `FileQuery.Arity`: how many arguments a function takes.
* `FileQuery.AttributeEntry`, `FileQuery.FunctionEntry`: definitions.
* `FileQuery.firstClash?`: the first name that occurred before.
* `FileQuery.Catalog`, `FileQuery.Catalog.ofEntries?`.
* `FileQuery.Catalog.findAttribute?`, `FileQuery.Catalog.findFunction?`: look-up by any name.

## Main results

* `FileQuery.firstClash?_eq_none`: without a clash all names are distinct.
-/

namespace FileQuery

/-- How many arguments a function takes; there may be no upper bound. -/
structure Arity where
  least : Nat
  most : Option Nat
  deriving DecidableEq, Repr

namespace Arity

def exactly (n : Nat) : Arity := ⟨n, some n⟩

def between (least most : Nat) : Arity := ⟨least, some most⟩

def atLeast (least : Nat) : Arity := ⟨least, none⟩

/-- Whether a number of arguments is accepted. -/
def accepts (a : Arity) (count : Nat) : Bool :=
  decide (a.least ≤ count) && a.most.all fun most => count ≤ most

def toText (a : Arity) : String :=
  match a.most with
  | some most => if most = a.least then s!"{most}" else s!"{a.least} to {most}"
  | none => s!"at least {a.least}"

end Arity

/-- The definition of an attribute. -/
structure AttributeEntry where
  subject : Attribute
  aliases : List String
  kind : Kind
  description : String
  /-- Whether `*` stands for it, among others. -/
  isDefault : Bool
  deriving DecidableEq, Repr

/-- The definition of a function. -/
structure FunctionEntry where
  function : Function
  aliases : List String
  arity : Arity
  /-- Whether predicates may call it. -/
  inPredicates : Bool
  description : String
  deriving DecidableEq, Repr

/-- The canonical name and the aliases. -/
def AttributeEntry.names (e : AttributeEntry) : List String := e.subject.canonicalName :: e.aliases

/-- The canonical name and the aliases. -/
def FunctionEntry.names (e : FunctionEntry) : List String := e.function.canonicalName :: e.aliases

/-- A name together with the canonical name of the definition that has it. -/
structure OwnedName where
  name : String
  owner : String
  deriving DecidableEq, Repr

/-- The form in which names are compared. -/
def OwnedName.key (c : OwnedName) : String := Text.toLower c.name

/-- A name that two definitions have, or one definition twice. -/
structure DuplicateName where
  name : String
  first : String
  second : String
  deriving DecidableEq, Repr

def DuplicateName.message (d : DuplicateName) : String :=
  s!"alias '{d.name}' is registered for both '{d.first}' and '{d.second}'"

/-- The first name that agrees with one before it, given those seen so far. -/
def firstClash? (seen : List OwnedName) : List OwnedName → Option DuplicateName
  | [] => none
  | c :: cs =>
    match seen.find? (·.key == c.key) with
    | some d => some ⟨c.name, d.owner, c.owner⟩
    | none => firstClash? (c :: seen) cs

theorem firstClash?_eq_none {seen names : List OwnedName} (h : firstClash? seen names = none)
    (hseen : (seen.map OwnedName.key).Nodup) :
    ((names.map OwnedName.key).reverse ++ seen.map OwnedName.key).Nodup := by
  induction names generalizing seen with
  | nil => simpa using hseen
  | cons c cs ih =>
    rw [firstClash?] at h
    split at h
    · cases h
    · next hnone =>
      have hc : c.key ∉ seen.map OwnedName.key := by
        intro hmem
        obtain ⟨d, hd, hkey⟩ := List.mem_map.1 hmem
        have := List.find?_eq_none.1 hnone d hd
        simp [hkey] at this
      have := ih h (List.nodup_cons.2 ⟨hc, hseen⟩)
      simpa using this

/-- The names of attributes with their owners. -/
def attributeNames (entries : List AttributeEntry) : List OwnedName :=
  entries.flatMap fun e => e.names.map fun n => ⟨n, e.subject.canonicalName⟩

/-- The names of functions with their owners. -/
def functionNames (entries : List FunctionEntry) : List OwnedName :=
  entries.flatMap fun e => e.names.map fun n => ⟨n, e.function.canonicalName⟩

/-- The attributes and functions that queries may name. -/
structure Catalog where
  attributes : List AttributeEntry
  functions : List FunctionEntry
  attributes_distinct : firstClash? [] (attributeNames attributes) = none
  functions_distinct : firstClash? [] (functionNames functions) = none

namespace Catalog

/-- The catalog without attributes and functions. -/
def empty : Catalog := ⟨[], [], rfl, rfl⟩

instance : Inhabited Catalog := ⟨empty⟩

/-- The catalog of the given definitions, or the first name that is taken twice, the attributes
coming before the functions. -/
def ofEntries? (attributes : List AttributeEntry) (functions : List FunctionEntry) :
    Except DuplicateName Catalog :=
  match ha : firstClash? [] (attributeNames attributes) with
  | some d => .error d
  | none =>
    match hf : firstClash? [] (functionNames functions) with
    | some d => .error d
    | none => .ok ⟨attributes, functions, ha, hf⟩

/-- Whether a definition with the given names answers to a name. -/
def answersTo (names : List String) (name : String) : Bool :=
  let key := Text.toLower name
  names.any fun n => Text.toLower n == key

/-- The attribute with a name or alias, in any case. -/
def findAttribute? (c : Catalog) (name : String) : Option AttributeEntry :=
  c.attributes.find? fun e => answersTo e.names name

/-- The function with a name or alias, in any case. -/
def findFunction? (c : Catalog) (name : String) : Option FunctionEntry :=
  c.functions.find? fun e => answersTo e.names name

/-- The definition of an attribute. -/
def entryOf? (c : Catalog) (a : Attribute) : Option AttributeEntry :=
  c.attributes.find? (·.subject == a)

/-- The attributes that `*` stands for, in the order of the catalog. -/
def defaultColumns (c : Catalog) : List AttributeEntry := c.attributes.filter (·.isDefault)

/-- The functions that predicates may call. -/
def predicateFunctions (c : Catalog) : List FunctionEntry := c.functions.filter (·.inPredicates)

end Catalog

end FileQuery
