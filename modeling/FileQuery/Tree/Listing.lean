import FileQuery.Tree.Node

/-!
# Listings of trees

A tree can be given as a text with one line for each entry. The fields of a line are separated by
tabs: a letter for the kind (`f`, `d`, `l`, or any other), the permissions in octal, the size in
bytes, the times of the last change and the last access in seconds since 1970 with a fraction, the
numbers of the owner and the group, the path, and the target of a link. Directories on the way to an
entry need no line of their own. Nothing is kept from the process in a tree that has been listed.

## Main definitions

* `FileQuery.Node.ofLine?`: the path and the node that a line describes.
* `FileQuery.Node.ofListing`: the tree that a text lists.
-/

namespace FileQuery.Node

/-- A number in octal digits. -/
def ofOctal? (s : String) : Option Nat :=
  if s.toList.all fun c => '0' ≤ c ∧ c ≤ '7' then some (Nat.ofDigitChars 8 s.toList 0) else none

/-- Seconds since 1970 with a fraction, of which nine digits count. -/
def ofSeconds? (s : String) : Option Instant := do
  let parts := s.splitOn "."
  let seconds ← (parts.headD "").toInt?
  let digits := ((parts.getD 1 "").toList ++ List.replicate 9 '0').take 9
  let nanos ← (String.ofList digits).toNat?
  return ⟨seconds, nanos⟩

/-- A directory about which nothing is known but its name. -/
def bareDirectory (name : Segment) : Node :=
  .directory name ⟨0o755, 0, 0, none, none, none⟩ 0 []

/-- The names of the directories on the way to an entry, and the entry that a line describes. -/
def ofLine? (line : String) : Option (List Segment × Node) :=
  match line.splitOn "\t" with
  | kind :: permissions :: size :: modified :: accessed :: owner :: group :: path :: target => do
    let status : Status :=
      { permissions := ← ofOctal? permissions
        owner := ← owner.toNat?
        group := ← group.toNat?
        modified := ← (ofSeconds? modified).map some
        accessed := ← (ofSeconds? accessed).map some
        created := none }
    let size ← size.toNat?
    let (s, ss) := (Path.ofText path).segments
    let parts := (s :: ss).filter Path.counts
    let name ← parts.getLast?
    let node := match kind with
      | "f" => .file name status size
      | "d" => .directory name status size []
      | "l" => .symlink name status (.ofText (target.head?.getD ""))
      | _ => .other name status
    return (parts.dropLast, node)
  | _ => none

/-- The tree that a text lists. Lines that describe no entry are passed over. -/
def ofListing (text : String) : List Node :=
  ((text.splitOn "\n").filterMap ofLine?).foldl
    (fun ns (parts, node) => node.insert bareDirectory parts ns) []

end FileQuery.Node
