import FileQuery.Result.Table
import FileQuery.Tree.Path

/-!
# Reading command lines

A command line names a command and gives it options. An option is written with its name behind two
hyphens, or with one letter behind a single one; letters may share a hyphen. A value follows its
option as the next argument, behind an equals sign, or right behind a letter. Two hyphens alone end
the options.

## Main definitions

* `FileQuery.Command`, `FileQuery.QueryRequest`.
* `FileQuery.Switch`: what options are called and which of them take values.
* `FileQuery.Switch.scan`: the options and the other arguments of a command.
* `FileQuery.Command.parse`.
-/

namespace FileQuery

/-- What is asked of the `query` command. -/
structure QueryRequest where
  /-- The text of the query, if it is given. -/
  text : Option String
  /-- Only the entries of the source itself are visited. -/
  flat : Bool
  source : Option Path
  strict : Bool
  skipHidden : Bool
  sequential : Bool
  format : OutputFormat

inductive Command where
  | query (r : QueryRequest)
  | listAttributes
  | listFunctions
  | listPredicateFunctions
  | describe (term : Option String)

/-- Why a command line is not read to its end. -/
inductive Halt where
  | misuse
  | help
  | version
  deriving DecidableEq, Repr

/-- The options of all commands. -/
inductive Switch where
  | verbose
  | help
  | version
  | flat
  | source
  | strict
  | skipHidden
  | sequential
  | format
  | pretty
  | term
  deriving DecidableEq, Repr

namespace Switch

def longName : Switch → String
  | .verbose => "verbose"
  | .help => "help"
  | .version => "version"
  | .flat => "flat"
  | .source => "source"
  | .strict => "strict"
  | .skipHidden => "skip-hidden"
  | .sequential => "sequential"
  | .format => "format"
  | .pretty => "pretty"
  | .term => "term"

/-- The letter of an option; some have none. -/
def letter? : Switch → Option Char
  | .verbose => some 'v'
  | .help => some 'h'
  | .version => some 'V'
  | .source => some 's'
  | .format => some 'f'
  | .pretty => some 'p'
  | .term => some 't'
  | _ => none

def takesValue : Switch → Bool
  | .source => true
  | .format => true
  | .term => true
  | _ => false

/-- Whether a value is one that an option takes. -/
def accepts : Switch → String → Bool
  | .source, value => !value.isEmpty
  | .format, value => value == "text" || value == "json"
  | _, _ => true

end Switch

/-- The options given to a command with their values, and its other arguments. -/
structure Given where
  switches : List (Switch × String)
  others : List String

namespace Given

def none : Given := ⟨[], []⟩

def has (g : Given) (s : Switch) : Bool := (g.switches.lookup s).isSome

def value? (g : Given) (s : Switch) : Option String := g.switches.lookup s

/-- One more option. No option may be given twice, and the requests for help and for the version are
answered at once. -/
def add (g : Given) (s : Switch) (value : String) : Except Halt Given :=
  if g.has s || !s.accepts value then .error .misuse
  else
    match s with
    | .help => .error .help
    | .version => .error .version
    | s => .ok { g with switches := (s, value) :: g.switches }

/-- One more argument that is no option, if the command takes so many. -/
def addOther (limit : Nat) (g : Given) (argument : String) : Except Halt Given :=
  if g.others.length < limit then .ok { g with others := g.others ++ [argument] }
  else .error .misuse

end Given

namespace Switch

/-- A long option, perhaps with its value; without one it may still be owed. -/
def scanLong (known : List Switch) (g : Given) (cs : List Char) :
    Except Halt (Given × Option Switch) :=
  let name := String.ofList (cs.takeWhile (· != '='))
  match known.find? (·.longName == name), cs.dropWhile (· != '=') with
  | none, _ => .error .misuse
  | some s, [] =>
    if s.takesValue then .ok (g, some s) else (g.add s "").map fun g => (g, none)
  | some s, _ :: value =>
    if s.takesValue then (g.add s (String.ofList value)).map fun g => (g, none)
    else .error .misuse

/-- Letters behind one hyphen. What follows the letter of an option with a value is that value, an
equals sign before it apart; if nothing follows, the value is owed. -/
def scanLetters (known : List Switch) (g : Given) : List Char → Except Halt (Given × Option Switch)
  | [] => .ok (g, none)
  | c :: cs =>
    match known.find? (·.letter? == some c) with
    | none => .error .misuse
    | some s =>
      if s.takesValue then
        match cs with
        | [] => .ok (g, some s)
        | '=' :: value => (g.add s (String.ofList value)).map fun g => (g, none)
        | value => (g.add s (String.ofList value)).map fun g => (g, none)
      else do scanLetters known (← g.add s "") cs

/-- The options and other arguments of a command that knows some options and takes a number of other
arguments; `owed` is an option whose value comes next. -/
def scan (known : List Switch) (limit : Nat) (g : Given) (owed : Option Switch) :
    List String → Except Halt Given
  | [] => if owed.isSome then .error .misuse else .ok g
  | argument :: rest =>
    match argument.toList, owed with
    | ['-', '-'], none => rest.foldlM (Given.addOther limit) g
    | ['-', '-'], some _ => .error .misuse
    | '-' :: '-' :: cs, none => do
      let (g, owed) ← scanLong known g cs
      scan known limit g owed rest
    | '-' :: c :: cs, none => do
      let (g, owed) ← scanLetters known g (c :: cs)
      scan known limit g owed rest
    | '-' :: _ :: _, some _ => .error .misuse
    | _, some s => do scan known limit (← g.add s argument) none rest
    | _, none => do scan known limit (← g.addOther limit argument) none rest

end Switch

namespace Command

/-- The names of the commands. -/
def names : List String :=
  ["query", "attributes", "functions", "where-functions", "describe", "help"]

/-- The options that every command knows. -/
def common : List Switch := [.verbose, .help]

/-- The format that the options of a query ask for. -/
def formatOf (g : Given) : OutputFormat :=
  if g.value? .format = some "json" then (if g.has .pretty then .indentedJson else .json)
  else .text

/-- The query that options and other arguments ask for. -/
def queryOf (g : Given) : QueryRequest where
  text := g.others.head?
  flat := g.has .flat
  source := (g.value? .source).map Path.ofText
  strict := g.has .strict
  skipHidden := g.has .skipHidden
  sequential := g.has .sequential
  format := formatOf g

/-- The command of a name with its arguments. -/
def ofName (name : String) (arguments : List String) : Except Halt Command :=
  match name with
  | "query" => do
    let known := [.flat, .source, .strict, .skipHidden, .sequential, .format, .pretty] ++ common
    return .query (queryOf (← Switch.scan known 1 .none none arguments))
  | "attributes" => do
    let _ ← Switch.scan common 0 .none none arguments
    return .listAttributes
  | "functions" => do
    let _ ← Switch.scan common 0 .none none arguments
    return .listFunctions
  | "where-functions" => do
    let _ ← Switch.scan common 0 .none none arguments
    return .listPredicateFunctions
  | "describe" => do
    let g ← Switch.scan (.term :: common) 0 .none none arguments
    return .describe (g.value? .term)
  | "help" =>
    match arguments with
    | [] => .error .help
    | [name] => .error (if names.contains name then .help else .misuse)
    | _ => .error .misuse
  | _ => .error .misuse

/-- The arguments up to the name of a command, that name, and the arguments behind it. What precedes
the name are options without values. -/
def atName (arguments : List String) : List String × List String :=
  arguments.span fun a => a.toList.head? == some '-' && a != "-"

/-- The command of a command line. -/
def parse (arguments : List String) : Except Halt Command :=
  let (before, rest) := atName arguments
  match Switch.scan (.version :: common) 0 .none none before, rest with
  | .error halt, _ => .error halt
  | .ok _, [] => .error .misuse
  | .ok _, name :: behind =>
    if before.contains "--" then .error .misuse else ofName name behind

end Command

end FileQuery
