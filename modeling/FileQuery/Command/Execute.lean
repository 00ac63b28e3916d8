import FileQuery.Catalog.Listing
import FileQuery.Command.Arguments
import FileQuery.Run.Query

/-!
# Carrying out commands

A command prints a text or fails with a message. Queries are run on a tree; the other commands
explain the catalog.

## Main definitions

* `FileQuery.CommandError`.
* `FileQuery.QueryRequest.execute`, `FileQuery.Command.execute`.
* `FileQuery.Exit`, `FileQuery.Command.main`: what a command line prints and how it ends.
-/

namespace FileQuery

variable [PatternEngine]

/-- Why a command fails. -/
inductive CommandError where
  | query (e : QueryError)
  | noQuery
  | noTerm
  | unknownTerm (term : String)

def CommandError.message : CommandError → String
  | .query e => e.message
  | .noQuery => "No query provided. Pass one as an argument or pipe it to stdin."
  | .noTerm => "describe requires a term: fsq describe --term <TERM>"
  | .unknownTerm term => s!"Unknown term: '{term}'\n" ++
      "Run 'fsq attributes' or 'fsq functions' to see what is available."

/-- How the run of a request is carried out. -/
def QueryRequest.options (r : QueryRequest) : RunOptions where
  recursive := !r.flat
  source := r.source
  strict := r.strict
  skipHidden := r.skipHidden
  parallel := !r.sequential

/-- Runs the query of a request and shows its result. -/
def QueryRequest.execute (c : Catalog) (env : Environment) (r : QueryRequest) :
    Except CommandError String :=
  match r.text.filter fun text => !Text.isBlank text with
  | none => .error .noQuery
  | some text =>
    match (runText c env r.options text).outcome with
    | .ok t => .ok (t.render r.format)
    | .error e => .error (.query e)

namespace Command

/-- The description of a term. -/
def describeTerm (c : Catalog) (term : Option String) : Except CommandError String :=
  match (term.map Text.trim).filter fun t => !t.isEmpty with
  | none => .error .noTerm
  | some t =>
    match c.describe? t with
    | some description => .ok (description ++ "\n")
    | none => .error (.unknownTerm t)

/-- What a command prints. A query that is not given is read from the standard input. -/
def execute (c : Catalog) (env : Environment) (input : String) :
    Command → Except CommandError String
  | .query r => { r with text := some (r.text.getD input) : QueryRequest }.execute c env
  | .listAttributes => .ok c.listAttributes
  | .listFunctions => .ok c.listFunctions
  | .listPredicateFunctions => .ok c.listPredicateFunctions
  | .describe term => describeTerm c term

end Command

/-- How a command line ends. -/
inductive Exit where
  | printed (text : String)
  | failed (message : String)
  /-- The command line itself is wrong. -/
  | misuse
  deriving DecidableEq, Repr

/-- The name and the version of the program. -/
def versionText : String := "fsq 0.1.0\n"

/-- How the program is called. -/
def usageText : String :=
  "Usage: fsq [-v] query [--flat] [-s DIR] [--strict] [--skip-hidden] [--sequential]\n" ++
  "                      [-f text|json] [-p] [QUERY]\n" ++
  "       fsq [-v] attributes | functions | where-functions\n" ++
  "       fsq [-v] describe -t TERM\n"

/-- A text that ends with a line feed, one being added if it is missing. -/
def endLine (text : String) : String :=
  if text.toList.getLast? = some '\n' then text else text ++ "\n"

/-- What a command line prints, given the standard input. -/
def Command.main (c : Catalog) (env : Environment) (arguments : List String) (input : String) :
    Exit :=
  match Command.parse arguments with
  | .error .misuse => .misuse
  | .error .help => .printed usageText
  | .error .version => .printed versionText
  | .ok command =>
    match command.execute c env input with
    | .ok text => .printed (endLine text)
    | .error e => .failed e.message

end FileQuery
