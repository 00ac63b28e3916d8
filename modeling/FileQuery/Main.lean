import FileQuery.Command.Execute
import FileQuery.Tree.Listing

/-!
# The command line

The program `fsq` answers queries about the directory that its standard input lists, in the format
of `FileQuery.Node.ofListing`. A query that is not given as an argument comes first in the standard
input, up to an empty line.

## Main definitions

* `FileQuery.Command.splitInput`: the query and the listing in the standard input.
* `main`.
-/

namespace FileQuery.Command

/-- Whether a command line leaves the query to the standard input. -/
def readsQuery (arguments : List String) : Bool :=
  match parse arguments with
  | .ok (.query r) => r.text.isNone
  | _ => false

/-- The query and the listing in the standard input. -/
def splitInput (arguments : List String) (input : String) : String × String :=
  if readsQuery arguments then
    match input.splitOn "\n\n" with
    | [] => ("", "")
    | first :: listing => (first, "\n\n".intercalate listing)
  else ("", input)

/-- The text of a stream up to its end, behind what was read before. -/
partial def readAll (stream : IO.FS.Stream) (text : String) : IO String := do
  let line ← stream.getLine
  if line.isEmpty then return text else readAll stream (text ++ line)

end FileQuery.Command

open FileQuery in
/-- Reads the standard input, carries out the command and reports how it ended. -/
def main (arguments : List String) : IO UInt32 := do
  let input ← Command.readAll (← IO.getStdin) ""
  let home ← IO.getEnv "HOME"
  let location ← IO.getEnv "PWD"
  let (query, listing) := Command.splitInput arguments input
  let tree : Tree := ⟨.ofText (location.getD "/"), Node.ofListing listing⟩
  match Command.main .standard ⟨tree, home.map .ofText⟩ arguments query with
  | .printed text =>
    IO.print text
    return 0
  | .failed message =>
    IO.eprintln message
    return 1
  | .misuse =>
    IO.eprint usageText
    return 2
