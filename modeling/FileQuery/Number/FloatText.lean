import FileQuery.Number.Shortest

/-!
# Writing and reading floating-point numbers

Three layouts of the shortest digits, one layout with a fixed number of places, and the reader of
decimal numerals.

## Main definitions

* `FileQuery.FloatLayout`: the decisions of a layout; `FloatLayout.plain` for shown values,
  `FloatLayout.literal` for literals in the text of an expression, `FloatLayout.json`.
* `FileQuery.FloatLayout.write`: the text of a number.
* `FileQuery.Binary64.toFixed`: the text with a fixed number of places.
* `FileQuery.Binary64.ofNumeral`: the number nearest to a decimal numeral.
* `FileQuery.Binary64.parse?`: the reader of signed numerals with exponent, infinities and
  not-a-number.
-/

namespace FileQuery

/-- How the shortest digits of a number are laid out. -/
structure FloatLayout where
  /-- The exponents of the first digit that are written positionally. -/
  positional : Int → Bool
  /-- What follows a whole number. -/
  wholeMark : String
  /-- What stands before an exponent that is not negative. -/
  exponentPlus : String
  /-- The choice between two equally near shortest numerals. -/
  tie : Shortest.Tie

namespace FloatLayout

/-- A shown value is always written positionally, a whole number without a point. -/
def plain : FloatLayout := ⟨fun _ => true, "", "", .up⟩

/-- A literal has a point or an exponent; it is positional from `0.0001` to below `10 ^ 16`. -/
def literal : FloatLayout := ⟨fun e => -4 ≤ e && e < 16, ".0", "", .up⟩

/-- A JSON number has a point or an exponent; it is positional from `0.00001` to below
`10 ^ 16`, and its exponent has a sign. -/
def json : FloatLayout := ⟨fun e => -5 ≤ e && e < 16, ".0", "+", .even⟩

/-- The digits with the point after the digit of exponent zero. -/
def writePositional (wholeMark : String) (x : Scientific) : List Char :=
  let ds := x.digitList
  let point := x.leading + 1
  if point ≤ 0 then '0' :: '.' :: (List.replicate (-point).toNat '0' ++ ds)
  else
    let n := point.toNat
    if ds.length ≤ n then ds ++ List.replicate (n - ds.length) '0' ++ wholeMark.toList
    else ds.take n ++ '.' :: ds.drop n

/-- The digits with the point after the first one, and the exponent. -/
def writeExponential (exponentPlus : String) (x : Scientific) : List Char :=
  let fraction := match x.digitList with
    | [] => []
    | [d] => [d]
    | d :: ds => d :: '.' :: ds
  let sign := if x.leading < 0 then ['-'] else exponentPlus.toList
  fraction ++ 'e' :: (sign ++ Nat.toDigits 10 x.leading.natAbs)

/-- The text of a positive finite number. -/
def writeDigits (l : FloatLayout) (x : Scientific) : List Char :=
  if l.positional x.leading then writePositional l.wholeMark x
  else writeExponential l.exponentPlus x

/-- The text of a number. -/
def write (l : FloatLayout) : Binary64 → String
  | .nan => "NaN"
  | .infinite s => (if s then "-" else "") ++ "inf"
  | .finite s u _ =>
    let sign := if s then ['-'] else []
    let body := if u = 0 then '0' :: l.wholeMark.toList else l.writeDigits (Shortest.digits l.tie u)
    String.ofList (sign ++ body)

end FloatLayout

namespace Binary64

/-- A whole number of `10 ^ -places`, written with that many places. -/
def writePlaces (scaled places : Nat) : List Char :=
  let ds := Nat.toDigits 10 scaled
  let ds := List.replicate (places + 1 - ds.length) '0' ++ ds
  let whole := ds.take (ds.length - places)
  if places = 0 then whole else whole ++ '.' :: ds.drop (ds.length - places)

/-- The text with a fixed number of places: the exact value is rounded to them, a tie to the even
digit. -/
def toFixed (places : Nat) : Binary64 → String
  | .nan => "NaN"
  | .infinite s => (if s then "-" else "") ++ "inf"
  | .finite s u _ =>
    let scaled := Rounding.nearestEven (u * 10 ^ places) unitsPerOne
    (if s then "-" else "") ++ String.ofList (writePlaces scaled places)

/-- The number nearest to `significand · 10 ^ exponent`. Beyond the magnitudes of the format no
power of ten is formed. -/
def ofScientific (negative : Bool) (x : Scientific) : Binary64 :=
  if x.significand = 0 then zero negative
  else if 400 < x.leading then .infinite negative
  else if x.leading < -400 then zero negative
  else
    let (num, den) := Shortest.tenPower x.exponent
    ofRatio negative (x.significand * num) den

/-- The number nearest to the numeral with the given digits before and after its point. -/
def ofNumeral (whole fraction : List Char) : Binary64 :=
  ofScientific false ⟨Nat.ofDigitChars 10 (whole ++ fraction) 0, -(fraction.length : Int)⟩

/-- Splits digits off the front of a text. -/
def splitDigits (cs : List Char) : List Char × List Char :=
  cs.span Char.isDigit

/-- A signed exponent that fills the rest of a text. -/
def parseExponent? (cs : List Char) : Option Int :=
  let (negative, ds) := match cs with
    | '-' :: r => (true, r)
    | '+' :: r => (false, r)
    | r => (false, r)
  if ds.isEmpty || !ds.all Char.isDigit then none
  else
    let n := Nat.ofDigitChars 10 ds 0
    some (if negative then -(n : Int) else n)

/-- An unsigned numeral: digits with at most one point among, before or after them, and an
exponent. -/
def parseUnsigned? (negative : Bool) (cs : List Char) : Option Binary64 :=
  let (whole, r) := splitDigits cs
  let (fraction, r) := match r with
    | '.' :: r => splitDigits r
    | r => ([], r)
  if whole.isEmpty && fraction.isEmpty then none
  else
    let value (e : Int) : Binary64 :=
      ofScientific negative ⟨Nat.ofDigitChars 10 (whole ++ fraction) 0, e - fraction.length⟩
    match r with
    | [] => some (value 0)
    | 'e' :: r => (parseExponent? r).map value
    | 'E' :: r => (parseExponent? r).map value
    | _ => none

/-- Reads a number: a sign, then a numeral, or a word for an infinity or not-a-number in any
case. -/
def parse? (text : String) : Option Binary64 :=
  let (negative, cs) := match text.toList with
    | '-' :: r => (true, r)
    | '+' :: r => (false, r)
    | r => (false, r)
  match String.ofList (cs.map Char.toLower) with
  | "nan" => some .nan
  | "inf" => some (.infinite negative)
  | "infinity" => some (.infinite negative)
  | _ => parseUnsigned? negative cs

end Binary64

end FileQuery
