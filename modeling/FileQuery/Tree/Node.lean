import FileQuery.Time.Instant
import FileQuery.Tree.Path

/-!
# Directory trees

A tree is a directory with its entries at any depth: files, directories, symbolic links, and other
entries such as pipes. Every entry has a name, permissions, owners and times. A directory also has
the access that the reading process has to it. That access is not computed from the permissions,
since who the process is, and what else the system lets it do, is not part of a tree.

## Main definitions

* `FileQuery.Status`, `FileQuery.Metadata`, `FileQuery.Access`.
* `FileQuery.Node`, `FileQuery.Node.metadata`, `FileQuery.Node.weight`.
* `FileQuery.Directory`, `FileQuery.Node.contents`: a directory without its name.
* `FileQuery.Node.insert`: puts an entry below a path, making directories on the way.
-/

namespace FileQuery

/-- What is known of an entry apart from its name, kind and size. -/
structure Status where
  permissions : Nat
  owner : Nat
  group : Nat
  modified : Option Instant
  accessed : Option Instant
  created : Option Instant
  deriving DecidableEq

inductive EntryKind where
  | file
  | directory
  | symlink
  | other
  deriving DecidableEq, Repr

/-- What is known of an entry apart from its name. -/
structure Metadata extends Status where
  kind : EntryKind
  size : Nat
  deriving DecidableEq

/-- What a process may do with a directory. -/
structure Access where
  /-- Its entries can be listed. -/
  list : Bool
  /-- Its entries can be reached by their names. -/
  search : Bool
  deriving DecidableEq, Repr

/-- The access of a process from which nothing is kept. -/
def Access.full : Access := ⟨true, true⟩

inductive Node where
  | file (name : Segment) (status : Status) (size : Nat)
  | directory (name : Segment) (status : Status) (size : Nat) (children : List Node)
    (access : Access := .full)
  | symlink (name : Segment) (status : Status) (target : Path)
  | other (name : Segment) (status : Status)

/-- What there is of a directory when it is opened. -/
structure Directory where
  access : Access
  entries : List Node

namespace Node

def name : Node → Segment
  | .file name _ _ => name
  | .directory name _ _ _ _ => name
  | .symlink name _ _ => name
  | .other name _ => name

/-- The entries of a directory; no other node has any. -/
def children : Node → List Node
  | .directory _ _ _ children _ => children
  | _ => []

/-- What the process may do with the entries of a node; where there are none nothing is kept. -/
def access : Node → Access
  | .directory _ _ _ _ access => access
  | _ => .full

def contents (n : Node) : Directory := ⟨n.access, n.children⟩

/-- The metadata of the node itself, so that a symbolic link is described and not what it leads to.
A link is as large as its target is long, and all may use it. -/
def metadata : Node → Metadata
  | .file _ s size => ⟨s, .file, size⟩
  | .directory _ s size _ _ => ⟨s, .directory, size⟩
  | .symlink _ s target => ⟨{ s with permissions := 0o777 }, .symlink, target.bytes.length⟩
  | .other _ s => ⟨s, .other, 0⟩

mutual

/-- The number of nodes of a tree. -/
def weight : Node → Nat
  | .directory _ _ _ children _ => 1 + weightAll children
  | _ => 1

/-- The number of nodes of several trees. -/
def weightAll : List Node → Nat
  | [] => 0
  | n :: ns => n.weight + weightAll ns

end

theorem weightAll_perm {ms ns : List Node} (h : ms.Perm ns) : weightAll ms = weightAll ns := by
  induction h with
  | nil => rfl
  | cons n _ ih => rw [weightAll, weightAll, ih]
  | swap m n ns =>
    simp only [weightAll]
    omega
  | trans _ _ ih ih' => exact ih.trans ih'

theorem weight_eq (n : Node) : n.weight = 1 + weightAll n.children := by
  cases n <;> simp [weight, children, weightAll]

/-! ### Building -/

/-- The node with a name. -/
def find? (ns : List Node) (name : Segment) : Option Node := ns.find? fun n => n.name == name

/-- Nodes with one of them put in the place of the one that has its name, or else at the end. -/
def put (n : Node) : List Node → List Node
  | [] => [n]
  | m :: ms => if m.name = n.name then n :: ms else m :: put n ms

/-- Puts a node below a path of directory names. A directory on the way that is not there is made;
a directory put where one is keeps the entries that are there. -/
def insert (directory : Segment → Node) (n : Node) : List Segment → List Node → List Node
  | [], ns =>
    match n, (find? ns n.name).map children with
    | .directory name s size [] access, some kept =>
      put (.directory name s size kept access) ns
    | n, _ => put n ns
  | s :: ss, ns =>
    match (find? ns s).getD (directory s) with
    | .directory name status size children access =>
      put (.directory name status size (insert directory n ss children) access) ns
    | _ => ns

end Node

end FileQuery
