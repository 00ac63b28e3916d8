import FileQuery.Tree.Node

/-!
# Opening a directory of a tree

A path is followed from the root of a tree, name by name, through symbolic links and parents. Every
name on the way is looked up in a directory that the process may search, and the directory at the
end is one that it may list. Of what lies outside the tree nothing is known, so no name is found
there.

## Main definitions

* `FileQuery.Tree`, `FileQuery.AccessError`.
* `FileQuery.Tree.admits`: the paths that are not too long.
* `FileQuery.Directory.list`: a directory opened for its entries.
* `FileQuery.Tree.follow`, `FileQuery.Tree.open?`: the directory at a path.

## Main results

* `FileQuery.Tree.open?_current`: where the process runs.
-/

namespace FileQuery

/-- The entries of the directory where the process runs, which may list and search it, and the
absolute path of where it is. -/
structure Tree where
  location : Path
  entries : List Node

/-- Why what is at a path cannot be described, or listed if it is a directory. -/
inductive AccessError where
  | notFound
  | permissionDenied
  | notADirectory
  | nameTooLong
  | tooManyLinks
  /-- A path holds a zero byte. -/
  | zeroByte
  deriving DecidableEq, Repr

def AccessError.message : AccessError → String
  | .notFound => "No such file or directory (os error 2)"
  | .permissionDenied => "Permission denied (os error 13)"
  | .notADirectory => "Not a directory (os error 20)"
  | .nameTooLong => "File name too long (os error 36)"
  | .tooManyLinks => "Too many levels of symbolic links (os error 40)"
  | .zeroByte => "file name contained an unexpected NUL byte"

/-- A directory opened for its entries. -/
def Directory.list (d : Directory) : Except AccessError Directory :=
  if d.access.list then .ok d else .error .permissionDenied

namespace Tree

/-- The directory where the process runs. -/
def root (t : Tree) : Directory := ⟨.full, t.entries⟩

/-- The most bytes that a name may have. -/
def nameLimit : Nat := 255

/-- The number of bytes that a path must stay below. -/
def pathLimit : Nat := 4096

/-- Whether a path is short enough for what is there to be read. -/
def admits (p : Path) : Bool := decide (p.bytes.length < pathLimit)

/-- The most symbolic links that are followed on the way to a directory. -/
def linkLimit : Nat := 40

/-- Why segments that lead on outside of the tree cannot be followed: the first name is too long, or
it is not found. -/
def outside : List Segment → AccessError
  | [] => .notFound
  | s :: ss =>
    if s = [] ∨ s = [dot] ∨ s = [dot, dot] then outside ss
    else if nameLimit < s.length then .nameTooLong
    else .notFound

/-- Follows segments from a directory whose parents inside the tree are given, innermost first. The
target of a link takes the place of its name. -/
def follow (links : Nat) (directory : Directory) (above : List Directory) :
    List Segment → Except AccessError Directory
  | [] => directory.list
  | s :: ss =>
    if s = [] then follow links directory above ss
    else if !directory.access.search then .error .permissionDenied
    else if s = [dot] then follow links directory above ss
    else if s = [dot, dot] then
      match above with
      | [] => .error (outside ss)
      | up :: above => follow links up above ss
    else if nameLimit < s.length then .error .nameTooLong
    else
      match Node.find? directory.entries s with
      | none => .error .notFound
      | some (.directory _ _ _ children access) =>
        follow links ⟨access, children⟩ (directory :: above) ss
      | some (.symlink _ _ target) =>
        match links with
        | 0 => .error .tooManyLinks
        | links + 1 =>
          let (t, ts) := target.segments
          if target.isRooted then .error (outside (ts ++ ss))
          else follow links directory above (t :: ts ++ ss)
      | some _ => .error .notADirectory
termination_by ss => (links, ss.length)

/-- The directory at a path, opened for its entries. -/
def open? (t : Tree) (p : Path) : Except AccessError Directory :=
  if p.bytes.contains 0 then .error .zeroByte
  else if p.bytes.isEmpty then .error .notFound
  else if !admits p then .error .nameTooLong
  else
    let (s, ss) := p.segments
    if p.isRooted then .error (outside ss)
    else follow linkLimit t.root [] (s :: ss)

/-- The path `.` leads to the directory where the process runs. -/
theorem open?_current (t : Tree) : t.open? (.ofText ".") = .ok t.root := by
  have hsegments : (Path.ofText ".").segments = ([dot], []) := by decide +kernel
  have hfollow : follow linkLimit t.root [] [[dot]] = .ok t.root := by
    simp [follow, root, Access.full, Directory.list]
  rw [open?, if_neg (by decide +kernel), if_neg (by decide +kernel), if_neg (by decide +kernel),
    hsegments]
  exact (if_neg (by decide +kernel)).trans hfollow

end Tree

end FileQuery
