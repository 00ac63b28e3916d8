import FileQuery.Catalog.Name
import FileQuery.MediaType
import FileQuery.Tree.Walk
import FileQuery.Value.Basic

/-!
# Rows

A row gives every attribute a value. The row of an entry holds what its path and its metadata say;
what is not known of it is null.

## Main definitions

* `FileQuery.Row`, `FileQuery.Row.unknown`, `FileQuery.Row.restrict`.
* `FileQuery.Row.ofEntry`: the attributes of an entry.

## Main results

* `FileQuery.Row.restrict_of_mem`: restricting a row keeps the attributes it is restricted to.
-/

namespace FileQuery

/-- The values of all attributes; null for an attribute that is not known. -/
abbrev Row := Attribute → Value

namespace Row

/-- The row about which nothing is known. -/
def unknown : Row := fun _ => .null

/-- A row of which only some attributes are read. -/
def restrict (r : Row) (attributes : List Attribute) : Row := fun a =>
  if a ∈ attributes then r a else .null

theorem restrict_of_mem (r : Row) {attributes : List Attribute} {a : Attribute}
    (h : a ∈ attributes) : r.restrict attributes a = r a := if_pos h

/-! ### Attributes of entries -/

/-- The value that an option gives. -/
def optional {α : Type} (f : α → Value) (x : Option α) : Value := (x.map f).getD .null

/-- The text of bytes. -/
def text (bytes : List UInt8) : Value := .string (Text.decodeLossy bytes)

/-- The permissions of one class of users: three bits. -/
def permissionText (bits : Nat) : List Char :=
  [if bits.testBit 2 then 'r' else '-', if bits.testBit 1 then 'w' else '-',
    if bits.testBit 0 then 'x' else '-']

/-- The letter of a kind of entry. -/
def kindLetter : EntryKind → Char
  | .directory => 'd'
  | .symlink => 'l'
  | _ => '-'

/-- The kind of an entry and the permissions of its owner, its group and all others. -/
def modeText (m : Metadata) : String :=
  String.ofList (kindLetter m.kind ::
    [6, 3, 0].flatMap fun shift => permissionText (m.permissions >>> shift))

/-- The media type: of directories and links by their kind, and otherwise by the extension. -/
def mediaType (e : Entry) : String :=
  match e.metadata.map Metadata.kind with
  | some .directory => MediaType.directory
  | some .symlink => MediaType.symlink
  | _ => (e.path.extension?.map fun x => MediaType.ofExtension (Text.decodeLossy x)).getD
      MediaType.unknown

/-- The attributes of an entry, given the working directory. -/
def ofEntry (workingDirectory : Path) (e : Entry) : Row
  | .name => .string e.name
  | .path => text e.path.bytes
  | .absolutePath => optional (fun p => text p.bytes) (e.path.absolute? workingDirectory)
  | .directory => optional (fun p => text p.bytes) e.path.parent?
  | .extension => optional text e.path.extension?
  | .size => optional (fun m => .integer (.ofNat m.size)) e.metadata
  | .depth => .integer (.ofNat e.depth)
  | .isDirectory => optional (fun m => .boolean (m.kind == .directory)) e.metadata
  | .isFile => optional (fun m => .boolean (m.kind == .file)) e.metadata
  | .isSymlink => optional (fun m => .boolean (m.kind == .symlink)) e.metadata
  | .isHidden => .boolean (e.name.toList.head? == some '.')
  | .mode => optional (fun m => .string (modeText m)) e.metadata
  | .owner => optional (fun m => .integer (.ofNat m.owner)) e.metadata
  | .group => optional (fun m => .integer (.ofNat m.group)) e.metadata
  | .modified => optional .time (e.metadata.bind (·.modified))
  | .accessed => optional .time (e.metadata.bind (·.accessed))
  | .created => optional .time (e.metadata.bind (·.created))
  | .mediaType => .string (mediaType e)

end Row

end FileQuery
