import FileQuery.Value.Basic

/-!
# JSON texts

Values as JSON trees, and the two ways to write a tree: on one line without blanks, or with one item
a line, indented by two blanks for every level.

## Main definitions

* `FileQuery.Json`, `FileQuery.Json.write`, `FileQuery.Json.writeIndented`.
* `FileQuery.Json.escape`: a character inside a string.
* `FileQuery.Value.toJson`.
-/

namespace FileQuery

/-- A JSON tree. Numbers are kept as they are written. -/
inductive Json where
  | null
  | boolean (b : Bool)
  | number (digits : String)
  | string (s : String)
  | array (items : List Json)
  | object (members : List (String × Json))

namespace Json

/-- The letter that stands for a control character behind a backslash. -/
def shortEscape? (c : Char) : Option Char :=
  [('\x08', 'b'), ('\x0c', 'f'), ('\n', 'n'), ('\r', 'r'), ('\t', 't')].lookup c

/-- A character inside a string: quotes, backslashes and controls are escaped, and nothing else. -/
def escape (c : Char) : List Char :=
  if c = '\x22' ∨ c = '\\' then ['\\', c]
  else
    match shortEscape? c with
    | some letter => ['\\', letter]
    | none =>
      if c.toNat < 32 then
        '\\' :: 'u' :: '0' :: '0' :: [Nat.digitChar (c.toNat / 16), Nat.digitChar (c.toNat % 16)]
      else [c]

/-- A string between its quotes. -/
def quoted (s : String) : String :=
  String.ofList ('\x22' :: s.toList.flatMap escape ++ ['\x22'])

mutual

/-- The tree on one line. -/
def write : Json → String
  | .null => "null"
  | .boolean b => Value.booleanText b
  | .number digits => digits
  | .string s => quoted s
  | .array items => "[" ++ writeItems items ++ "]"
  | .object members => "\x7b" ++ writeMembers members ++ "\x7d"

/-- The items of an array with commas between them. -/
def writeItems : List Json → String
  | [] => ""
  | [j] => j.write
  | j :: js => j.write ++ "," ++ writeItems js

/-- The members of an object with commas between them. -/
def writeMembers : List (String × Json) → String
  | [] => ""
  | [(k, j)] => quoted k ++ ":" ++ j.write
  | (k, j) :: js => quoted k ++ ":" ++ j.write ++ "," ++ writeMembers js

end

/-- A line feed and the blanks of a level. -/
def newLine (level : Nat) : String := "\n" ++ String.ofList (List.replicate (2 * level) ' ')

mutual

/-- The tree with every item on a line of its own. Empty arrays and objects stay on one line. -/
def writeIndented (level : Nat) : Json → String
  | .array (j :: js) =>
    "[" ++ newLine (level + 1) ++ writeIndentedItems (level + 1) (j :: js) ++ newLine level ++ "]"
  | .object (m :: ms) =>
    "\x7b" ++ newLine (level + 1) ++ writeIndentedMembers (level + 1) (m :: ms) ++
      newLine level ++ "\x7d"
  | j => j.write

/-- The items of an array on their lines. -/
def writeIndentedItems (level : Nat) : List Json → String
  | [] => ""
  | [j] => j.writeIndented level
  | j :: js => j.writeIndented level ++ "," ++ newLine level ++ writeIndentedItems level js

/-- The members of an object on their lines. -/
def writeIndentedMembers (level : Nat) : List (String × Json) → String
  | [] => ""
  | [(k, j)] => quoted k ++ ": " ++ j.writeIndented level
  | (k, j) :: js =>
    quoted k ++ ": " ++ j.writeIndented level ++ "," ++ newLine level ++
      writeIndentedMembers level js

end

end Json

/-- A value as JSON: times as they are shown, and null for numbers that are not finite. -/
def Value.toJson : Value → Json
  | .null => .null
  | .boolean b => .boolean b
  | .integer n => .number (toString n.toInt)
  | .float x => if x.isFinite then .number (FloatLayout.json.write x) else .null
  | .string s => .string s
  | .time t => .string t.display

end FileQuery
