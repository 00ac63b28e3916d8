import FileQuery.Text.Utf8

/-!
# Paths

A path is a list of bytes in which slashes separate segments. Empty segments mean nothing beyond
the first one, which makes a path rooted, and neither do single dots beyond the first segment. What
is left are the components of the path. A path is shown by decoding its bytes.

## Main definitions

* `FileQuery.Path`, `FileQuery.Path.segments`, `FileQuery.Path.components`.
* `FileQuery.Path.fileName?`, `FileQuery.Path.parent?`, `FileQuery.Path.extension?`.
* `FileQuery.Path.join`, `FileQuery.Path.absolute?`.
* `FileQuery.Path.ofSource`: the path that the source of a query means, with `~` for the home.
-/

namespace FileQuery

/-- The bytes between two slashes of a path. -/
abbrev Segment := List UInt8

/-- A path as the bytes that it is written with. -/
structure Path where
  bytes : List UInt8
  deriving DecidableEq, Repr

/-- A part of a path that means something. -/
inductive Component where
  | root
  /-- The directory itself, at the beginning of a path only. -/
  | current
  | parent
  | name (s : Segment)
  deriving DecidableEq, Repr

/-- The byte of a slash. -/
def slash : UInt8 := 47

/-- The byte of a dot. -/
def dot : UInt8 := 46

/-- The component that a segment other than the empty one stands for. -/
def Component.ofSegment (s : Segment) : Component :=
  if s = [dot] then .current else if s = [dot, dot] then .parent else .name s

/-- The segment that a component is written with. -/
def Component.segment : Component → Segment
  | .root => [slash]
  | .current => [dot]
  | .parent => [dot, dot]
  | .name s => s

namespace Path

def ofText (s : String) : Path := ⟨Text.encode s⟩

/-- The shown form of a path. -/
def toText (p : Path) : String := Text.decodeLossy p.bytes

/-- Whether a path starts at the root. -/
def isRooted (p : Path) : Bool := p.bytes.head? == some slash

/-- The pieces of bytes between slashes, at least one. -/
def pieces : List UInt8 → Segment × List Segment
  | [] => ([], [])
  | b :: bs =>
    let r := pieces bs
    if b = slash then ([], r.1 :: r.2) else (b :: r.1, r.2)

/-- The bytes with a slash before each of the segments. -/
def behindSlashes (ss : List Segment) : List UInt8 := ss.flatMap (slash :: ·)

/-- The first segment and the others. -/
def segments (p : Path) : Segment × List Segment := pieces p.bytes

/-- Whether a segment beyond the first is a component. -/
def counts (s : Segment) : Bool := s != [] && s != [dot]

/-- The components that the first segment gives. -/
def firstComponents (p : Path) (s : Segment) : List Component :=
  if s = [] then (if p.isRooted then [.root] else []) else [.ofSegment s]

/-- The components of a path. -/
def components (p : Path) : List Component :=
  let (s, ss) := p.segments
  p.firstComponents s ++ (ss.filter counts).map .ofSegment

/-- The last component, if it is a name. -/
def fileName? (p : Path) : Option Segment :=
  match p.components.getLast? with
  | some (.name s) => some s
  | _ => none

/-- Segments up to the last that is a component. -/
def trimEnd (ss : List Segment) : List Segment := (ss.reverse.dropWhile fun s => !counts s).reverse

/-- The path without its last component; the root and the empty path have none. -/
def parent? (p : Path) : Option Path :=
  match p.components.getLast? with
  | none => none
  | some .root => none
  | some _ =>
    let (s, ss) := p.segments
    match trimEnd ss with
    | [] => some ⟨[]⟩
    | kept =>
      match trimEnd kept.dropLast with
      | [] => some ⟨if s = [] then [slash] else s⟩
      | kept => some ⟨s ++ behindSlashes kept⟩

/-- What follows the last dot of a name, and what precedes it. -/
def splitAtDot (name : Segment) : Option (Segment × Segment) :=
  let after := (name.reverse.takeWhile (· != dot)).reverse
  if after.length = name.length then none
  else some (name.take (name.length - after.length - 1), after)

/-- The extension of the file name: what follows its last dot, unless that is at its beginning. -/
def extension? (p : Path) : Option Segment :=
  match p.fileName?.bind splitAtDot with
  | some ([], _) => none
  | some (_, after) => some after
  | none => none

/-- A path below another. A rooted path stays as it is. -/
def join (p q : Path) : Path :=
  if q.isRooted then q
  else
    match p.bytes.getLast? with
    | none => q
    | some b => ⟨if b = slash then p.bytes ++ q.bytes else p.bytes ++ slash :: q.bytes⟩

/-- Two slashes, but not three, at the beginning of a path are kept when it is made absolute. -/
def hasDoubleRoot (p : Path) : Bool :=
  p.bytes.take 2 == [slash, slash] && p.bytes.take 3 != [slash, slash, slash]

/-- A path seen from the root, given the working directory. Parents are not resolved, and a slash at
the end is kept. The empty path has no such form. -/
def absolute? (p workingDirectory : Path) : Option Path :=
  if p.bytes.isEmpty then none
  else
    let base := if p.hasDoubleRoot then ⟨[slash, slash]⟩
      else if p.isRooted then ⟨[slash]⟩ else workingDirectory
    let parts := p.components.filter fun c => c != .root && c != .current
    let whole := parts.foldl (fun q c => q.join ⟨c.segment⟩) base
    some (if p.bytes.getLast? = some slash then whole.join ⟨[]⟩ else whole)

/-- The path that a source means: a tilde alone or before a slash stands for the home directory, if
there is one. -/
def ofSource (home : Option Path) (source : String) : Path :=
  match home, source.toList with
  | some home, ['~'] => home
  | some home, '~' :: '/' :: rest => home.join (ofText (String.ofList rest))
  | _, _ => ofText source

end Path

end FileQuery
