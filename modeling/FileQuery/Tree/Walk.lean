import FileQuery.Tree.Access

/-!
# Walking through a tree

A walk visits the entries below a directory, each directory before its entries and these in the
order of their names. Symbolic links are visited but not followed. What the process may not read is
visited too: an entry that it cannot reach, because its path is too long or because its directory
must not be searched, without metadata, and a directory that it cannot list without entries. A
directory that can be listed is listed to its end. A walk is kept as the directories that are still
open, so that it can stop early; `visits` lists the same entries by recursion.

## Main definitions

* `FileQuery.Site`, `FileQuery.Node.stat`: where entries are visited, and what can be learned there.
* `FileQuery.Entry`, `FileQuery.WalkOptions`, `FileQuery.Visit`.
* `FileQuery.Walk`, `FileQuery.Walk.next?`, `FileQuery.Walk.toList`.
* `FileQuery.visits`: the visits below a directory.

## Main results

* `FileQuery.Walk.weight_next?`: every step leaves less to do.
-/

namespace FileQuery

/-- An entry that a walk has come to. -/
structure Entry where
  path : Path
  /-- One for the entries of the directory where the walk begins. -/
  depth : Nat
  metadata : Option Metadata
  deriving DecidableEq

namespace Entry

/-- The file name, or the whole path if that does not end with one. -/
def name (e : Entry) : String := Text.decodeLossy (e.path.fileName?.getD e.path.bytes)

def isDirectory (e : Entry) : Bool := e.metadata.any fun m => m.kind == .directory

end Entry

structure WalkOptions where
  recursive : Bool
  /-- Hidden entries are left out, together with everything below them. -/
  skipHidden : Bool
  deriving DecidableEq, Repr

/-- How a walk goes on from an entry. -/
inductive Descent where
  /-- The entry cannot be described. -/
  | unreadable (cause : AccessError)
  /-- It is a directory whose entries should come next but cannot be listed. -/
  | unlistable (cause : AccessError)
  /-- It is a directory whose entries come next. -/
  | enters
  /-- It is no directory, or one whose entries are not asked for. -/
  | stays
  deriving DecidableEq

/-- An entry and how the walk goes on. -/
structure Visit where
  entry : Entry
  descent : Descent
  deriving DecidableEq

/-- Whether the entries of what is visited come next. -/
def Visit.entered (v : Visit) : Bool := v.descent == .enters

/-- Whether a name is hidden: it begins with a dot. -/
def isHiddenName (s : Segment) : Bool := s.head? == some dot

/-- Where a walk visits entries: the path of their directory, how deep they are, and whether they
can be reached by their names. -/
structure Site where
  path : Path
  depth : Nat
  search : Bool

/-- Where a walk visits the entries of the directory with which it begins. -/
def Directory.site (d : Directory) (p : Path) : Site := ⟨p, 1, d.access.search⟩

namespace Node

/-- The order of names: byte by byte. -/
def nameLE (m n : Node) : Bool := decide (m.name ≤ n.name)

/-- The path of a node. -/
def path (n : Node) (s : Site) : Path := s.path.join ⟨n.name⟩

/-- The metadata of a node, or why it cannot be read. -/
def stat (n : Node) (s : Site) : Except AccessError Metadata :=
  if !Tree.admits (n.path s) then .error .nameTooLong
  else if !s.search then .error .permissionDenied
  else .ok n.metadata

/-- The entry for a node. Nothing but its path is known if its metadata cannot be read. -/
def entry (n : Node) (s : Site) : Entry := ⟨n.path s, s.depth, (n.stat s).toOption⟩

/-- Where the entries of a node are visited. -/
def site (n : Node) (s : Site) : Site := ⟨n.path s, s.depth + 1, n.access.search⟩

end Node

namespace WalkOptions

/-- The entries of a directory that are visited, in the order of their names. -/
def listed (o : WalkOptions) (ns : List Node) : List Node :=
  (ns.filter fun n => !(o.skipHidden && isHiddenName n.name)).mergeSort Node.nameLE

theorem weightAll_listed_le (o : WalkOptions) (ns : List Node) :
    Node.weightAll (o.listed ns) ≤ Node.weightAll ns := by
  rw [listed, Node.weightAll_perm (List.mergeSort_perm _ _)]
  induction ns with
  | nil => exact Nat.le_refl _
  | cons n ns ih =>
    rw [List.filter_cons]
    split <;> simp only [Node.weightAll] <;> omega

/-- How a walk goes on from a node. -/
def descent (o : WalkOptions) (s : Site) (n : Node) : Descent :=
  match n.stat s with
  | .error cause => .unreadable cause
  | .ok m =>
    if o.recursive && m.kind == .directory then
      match n.contents.list with
      | .ok _ => .enters
      | .error cause => .unlistable cause
    else .stays

/-- The visit of a node. -/
def visit (o : WalkOptions) (s : Site) (n : Node) : Visit := ⟨n.entry s, o.descent s n⟩

end WalkOptions

/-- The visits of nodes at a site and of all below them. -/
def visits (o : WalkOptions) (s : Site) (ns : List Node) : List Visit :=
  match ns with
  | [] => []
  | n :: ns =>
    let v := o.visit s n
    let below := if v.entered then visits o (n.site s) (o.listed n.children) else []
    v :: below ++ visits o s ns
termination_by Node.weightAll ns
decreasing_by
  · have h := o.weightAll_listed_le n.children
    have hn := n.weight_eq
    simp only [Node.weightAll]
    omega
  · have hn := n.weight_eq
    simp only [Node.weightAll]
    omega

/-- A directory whose entries are being visited, and those of them that are still to come. -/
structure OpenDirectory where
  site : Site
  pending : List Node

/-- A walk under way: the open directories, innermost first. -/
structure Walk where
  options : WalkOptions
  directories : List OpenDirectory

namespace Walk

/-- The walk through the directory at a path. -/
def start (o : WalkOptions) (p : Path) (d : Directory) : Walk :=
  ⟨o, [⟨d.site p, o.listed d.entries⟩]⟩

/-- The next visit and the open directories after it. A directory without entries is closed. -/
def advance (o : WalkOptions) : List OpenDirectory → Option (Visit × List OpenDirectory)
  | [] => none
  | ⟨s, pending⟩ :: outer =>
    match pending with
    | [] => advance o outer
    | n :: ns =>
      let v := o.visit s n
      let rest := ⟨s, ns⟩ :: outer
      some (v, if v.entered then ⟨n.site s, o.listed n.children⟩ :: rest else rest)

/-- The next visit and the walk after it. -/
def next? (w : Walk) : Option (Visit × Walk) :=
  (advance w.options w.directories).map fun (v, ds) => (v, { w with directories := ds })

/-- The number of nodes that are still to be visited, if all directories are entered. -/
def weightOf : List OpenDirectory → Nat
  | [] => 0
  | d :: outer => Node.weightAll d.pending + weightOf outer

theorem weightOf_advance {o : WalkOptions} {ds ds' : List OpenDirectory} {v : Visit}
    (h : advance o ds = some (v, ds')) : weightOf ds' < weightOf ds := by
  induction ds with
  | nil => cases h
  | cons d outer ih =>
    obtain ⟨s, pending⟩ := d
    cases pending with
    | nil => simpa [weightOf, Node.weightAll] using ih (by simpa [advance] using h)
    | cons n ns =>
      simp only [advance, Option.some.injEq, Prod.mk.injEq] at h
      obtain ⟨-, rfl⟩ := h
      have hn := n.weight_eq
      have hc := o.weightAll_listed_le n.children
      split <;> simp [weightOf, Node.weightAll] <;> omega

def weight (w : Walk) : Nat := weightOf w.directories

theorem weight_next? {w w' : Walk} {v : Visit} (h : w.next? = some (v, w')) :
    w'.weight < w.weight := by
  obtain ⟨⟨v', ds⟩, hadvance, heq⟩ := Option.map_eq_some_iff.1 h
  obtain ⟨-, rfl⟩ := Prod.mk.inj heq
  exact weightOf_advance hadvance

/-- All visits of a walk. -/
def toList (w : Walk) : List Visit :=
  match _h : w.next? with
  | none => []
  | some (v, w') => v :: w'.toList
termination_by w.weight
decreasing_by exact weight_next? _h

end Walk

end FileQuery
