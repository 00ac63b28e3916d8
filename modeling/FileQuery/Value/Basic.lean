import FileQuery.Number.Decimal
import FileQuery.Text.Quoted
import FileQuery.Time.Format

/-!
# Values

The values that attributes have and expressions compute. Null stands for an absent value: an
attribute that an entry does not have, or the result of an operation on an absent operand.

## Main definitions

* `FileQuery.Kind`, `FileQuery.Value`.
* `FileQuery.Value.kind?`, `FileQuery.Value.typeName`, `FileQuery.Value.toFloat?`.
* `FileQuery.Value.toText`: the shown form; `FileQuery.Value.describe`: the form in reports.
* `FileQuery.Int64.ofInt?`: an integer of 64 bits, if it is in range.
-/

namespace FileQuery

/-- The kinds of values other than null. -/
inductive Kind where
  | string
  | integer
  | float
  | boolean
  | time
  deriving DecidableEq, Repr

def Kind.name : Kind → String
  | .string => "string"
  | .integer => "integer"
  | .float => "float"
  | .boolean => "boolean"
  | .time => "time"

inductive Value where
  | null
  | boolean (b : Bool)
  | integer (n : Int64)
  | float (x : Binary64)
  | string (s : String)
  | time (t : Instant)
  deriving DecidableEq

instance : Inhabited Value := ⟨.null⟩

/-- The 64-bit integer with a given value, if it is in range. -/
def Int64.ofInt? (n : Int) : Option Int64 :=
  if -2 ^ 63 ≤ n ∧ n < 2 ^ 63 then some (.ofInt n) else none

theorem Int64.toInt_of_ofInt? {n : Int} {k : Int64} (h : ofInt? n = some k) : k.toInt = n := by
  unfold ofInt? at h
  split at h
  · next hn =>
    obtain rfl := Option.some.inj h
    exact Int64.toInt_ofInt_of_le hn.1 hn.2
  · cases h

namespace Value

def kind? : Value → Option Kind
  | .null => none
  | .boolean _ => some .boolean
  | .integer _ => some .integer
  | .float _ => some .float
  | .string _ => some .string
  | .time _ => some .time

/-- The name of a value's type in messages. -/
def typeName (v : Value) : String := (v.kind?.map Kind.name).getD "null"

def isNull : Value → Bool
  | .null => true
  | _ => false

@[simp] theorem isNull_iff (v : Value) : v.isNull = true ↔ v = .null := by
  cases v <;> simp [isNull]

/-- A number as floating point, integers rounded to the nearest. -/
def toFloat? : Value → Option Binary64
  | .integer n => some (.ofInt n.toInt)
  | .float x => some x
  | _ => none

def asString? : Value → Option String
  | .string s => some s
  | _ => none

/-- The name of a truth value. -/
def booleanText (b : Bool) : String := if b then "true" else "false"

/-- The shown form; null shows as nothing. -/
def toText : Value → String
  | .null => ""
  | .boolean b => booleanText b
  | .integer n => toString n.toInt
  | .float x => FloatLayout.plain.write x
  | .string s => s
  | .time t => t.display

/-- The form in reports about values: the kind and the value in its literal form. -/
def describe : Value → String
  | .null => "Null"
  | .boolean b => s!"Boolean({booleanText b})"
  | .integer n => s!"Integer({n.toInt})"
  | .float x => s!"Float({FloatLayout.literal.write x})"
  | .string s => s!"String({Text.quote s})"
  | .time t => s!"Time({String.ofList t.showInternet}Z)"

end Value

end FileQuery
