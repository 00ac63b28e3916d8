import FileQuery.Catalog.Name
import FileQuery.Function.SizeText
import FileQuery.MediaType
import FileQuery.Pattern.Parser
import FileQuery.Value.Basic

/-!
# Scalar functions

The functions of the values of one row. An argument that is null, or not there, makes the result
null where a value is needed; an argument of the wrong kind is an error. Patterns are matched with
any engine.

## Main definitions

* `FileQuery.CallError`.
* `FileQuery.ScalarFunction.apply`.
* `FileQuery.ScalarFunction.requests`: the pattern that a call compiles.
-/

namespace FileQuery

/-- What an argument should have been. -/
inductive Wanted where
  | string
  | integer
  | number
  | time
  | size
  deriving DecidableEq, Repr

def Wanted.text : Wanted → String
  | .string => "a string"
  | .integer => "an integer"
  | .number => "a number"
  | .time => "a time"
  | .size => "a numeric size"

/-- Why a function rejects its arguments. -/
inductive CallError where
  | expected (wanted : Wanted) (got : Value)
  | precision (got : Int64)
  | negativeLength (got : Int64)
  | overflow
  | pattern (text : String) (fault : PatternFault)
  | timePattern (text : String)
  deriving DecidableEq

def CallError.message : CallError → String
  | .expected w v => s!"expected {w.text}, got {v.typeName}"
  | .precision n => s!"precision must be between 0 and 12, got {n.toInt}"
  | .negativeLength n => s!"length must not be negative, got {n.toInt}"
  | .overflow => "integer overflow"
  | .pattern s fault => s!"invalid regular expression '{s}': {fault.explain s}"
  | .timePattern s => s!"invalid time format '{s}'"

namespace ScalarFunction

/-! ### Arguments -/

/-- The argument at a place; null if there is none. -/
def arg (args : List Value) (i : Nat) : Value := args[i]?.getD .null

/-- The text at a place, nothing for null. -/
def stringArg (args : List Value) (i : Nat) : Except CallError (Option String) :=
  match arg args i with
  | .null => .ok none
  | .string s => .ok (some s)
  | v => .error (.expected .string v)

/-- The integer at a place, nothing for null. -/
def integerArg (args : List Value) (i : Nat) : Except CallError (Option Int64) :=
  match arg args i with
  | .null => .ok none
  | .integer n => .ok (some n)
  | v => .error (.expected .integer v)

/-- The number of places given as second argument, from 0 to 12. -/
def places (args : List Value) (default : Nat) : Except CallError Nat := do
  match ← integerArg args 1 with
  | none => return default
  | some n => if 0 ≤ n.toInt ∧ n.toInt ≤ 12 then return n.toInt.toNat else throw (.precision n)

theorem places_integer {v : Value} {n : Int64} {default : Nat} (hlow : 0 ≤ n.toInt)
    (hhigh : n.toInt ≤ 12) : places [v, .integer n] default = .ok n.toInt.toNat :=
  if_pos ⟨hlow, hhigh⟩

/-- A function of the text at the first place. -/
def onString (args : List Value) (f : String → Value) : Except CallError Value := do
  return ((← stringArg args 0).map f).getD .null

/-- A question about the texts at the first two places. -/
def onStrings (args : List Value) (f : List Char → List Char → Bool) :
    Except CallError Value := do
  let s ← stringArg args 0
  let t ← stringArg args 1
  match s, t with
  | some s, some t => return .boolean (f s.toList t.toList)
  | _, _ => return .null

/-- A number read off the date of the time at the first place. -/
def onDate (args : List Value) (f : Date → Int) : Except CallError Value :=
  match arg args 0 with
  | .null => .ok .null
  | .time t => .ok (.integer (.ofInt (f t.toCivil.date)))
  | v => .error (.expected .time v)

/-! ### Texts -/

/-- Whether a list of characters occurs in another. -/
def occursIn (needle : List Char) : List Char → Bool
  | [] => needle.isEmpty
  | c :: cs => needle.isPrefixOf (c :: cs) || occursIn needle cs

/-- Puts `new` for every occurrence of `old`, left to right; `skip` characters belong to the last
occurrence still. -/
def replaceFrom (old new : List Char) (skip : Nat) : List Char → List Char
  | [] => []
  | c :: cs =>
    if 0 < skip then replaceFrom old new (skip - 1) cs
    else if old.isPrefixOf (c :: cs) then new ++ replaceFrom old new (old.length - 1) cs
    else c :: replaceFrom old new 0 cs

/-- Puts `new` for every occurrence of `old`. The empty text occurs before every character and at
the end. -/
def replaceAll (old new text : String) : String :=
  if old.isEmpty then
    String.ofList (new.toList ++ text.toList.flatMap fun c => c :: new.toList)
  else String.ofList (replaceFrom old.toList new.toList 0 text.toList)

def replaceIn (args : List Value) : Except CallError Value := do
  let text ← stringArg args 0
  let old ← stringArg args 1
  let new ← stringArg args 2
  match text, old, new with
  | some text, some old, some new => return .string (replaceAll old new text)
  | _, _, _ => return .null

/-- The characters from a place on, counted from one; a place before the first is the first. -/
def substringOf (args : List Value) : Except CallError Value := do
  let text ← stringArg args 0
  let start ← integerArg args 1
  match text, start with
  | some text, some start =>
    let cs := text.toList.drop (start.toInt - 1).toNat
    match ← integerArg args 2 with
    | none => return .string (String.ofList cs)
    | some n =>
      if n.toInt < 0 then throw (.negativeLength n)
      else return .string (String.ofList (cs.take n.toInt.toNat))
  | _, _ => return .null

/-- Whether the text at the first place matches the pattern at the second. -/
def matchIn [PatternEngine] (args : List Value) : Except CallError Value := do
  let text ← stringArg args 0
  let pattern ← stringArg args 1
  match text, pattern with
  | some text, some pattern =>
    match PatternEngine.compile pattern with
    | .ok isMatch => return .boolean (isMatch text)
    | .error fault => throw (.pattern pattern fault)
  | _, _ => return .null

/-! ### Numbers and times -/

/-- The absolute value; that of the least integer is no integer of 64 bits. -/
def absolute (args : List Value) : Except CallError Value :=
  match arg args 0 with
  | .null => .ok .null
  | .integer n =>
    match Int64.ofInt? n.toInt.natAbs with
    | some m => .ok (.integer m)
    | none => .error .overflow
  | .float x => .ok (.float x.abs)
  | v => .error (.expected .number v)

/-- Rounds a number to a number of places, as a decimal if it has one; otherwise in floating-point
arithmetic. -/
def roundFloat (x : Binary64) (places : Nat) : Binary64 :=
  match Decimal.ofBinary? x with
  | some d => (d.roundTo places).toBinary
  | none =>
    let power := Binary64.power (.ofInt 10) places
    ((x.mul power).roundToWhole).div power

def roundValue (args : List Value) : Except CallError Value := do
  let n ← places args 0
  match arg args 0 with
  | .null => return .null
  | .integer k => return .integer k
  | .float x => return .float (roundFloat x n)
  | v => throw (.expected .number v)

def sizeText (args : List Value) : Except CallError Value := do
  let n ← places args 1
  match arg args 0 with
  | .null => return .null
  | .integer k => return .string (SizeText.format (.ofInt k.toInt) n)
  | .float x => return .string (SizeText.format x n)
  | v => throw (.expected .size v)

def timeText (args : List Value) : Except CallError Value := do
  match arg args 0 with
  | .null => return .null
  | .time t =>
    match ← stringArg args 1 with
    | none => return .string t.display
    | some pattern =>
      match t.format? pattern with
      | some s => return .string s
      | none => throw (.timePattern pattern)
  | v => throw (.expected .time v)

/-! ### Calls -/

/-- The value of a function on arguments. -/
def apply [PatternEngine] (f : ScalarFunction) (args : List Value) : Except CallError Value :=
  match f with
  | .lower => onString args fun s => .string (Text.toLower s)
  | .upper => onString args fun s => .string (Text.toUpper s)
  | .length => onString args fun s => .integer (.ofNat s.length)
  | .trim => onString args fun s => .string (Text.trim s)
  | .concat => .ok (.string (String.join (args.map Value.toText)))
  | .substring => substringOf args
  | .replace => replaceIn args
  | .contains => onStrings args fun s t => occursIn t s
  | .startsWith => onStrings args fun s t => t.isPrefixOf s
  | .endsWith => onStrings args fun s t => t.isSuffixOf s
  | .matchesPattern => matchIn args
  | .formatSize => sizeText args
  | .formatTime => timeText args
  | .year => onDate args fun d => d.year
  | .month => onDate args fun d => d.month
  | .day => onDate args fun d => d.day
  | .abs => absolute args
  | .round => roundValue args
  | .coalesce => .ok ((args.find? fun v => !v.isNull).getD .null)
  | .isText => onString args fun s => .boolean (MediaType.isText s)
  | .isImage => onString args fun s => .boolean (MediaType.isImage s)
  | .isPdf => onString args fun s => .boolean (MediaType.isPdf s)
  | .isAudio => onString args fun s => .boolean (MediaType.isAudio s)
  | .isVideo => onString args fun s => .boolean (MediaType.isVideo s)
  | .isArchive => onString args fun s => .boolean (MediaType.isArchive s)

/-- The pattern that a call asks for, if it asks for one. -/
def requests (f : ScalarFunction) (args : List Value) : List String :=
  match f, stringArg args 0, stringArg args 1 with
  | .matchesPattern, .ok (some _), .ok (some pattern) => [pattern]
  | _, _, _ => []

end ScalarFunction

end FileQuery
