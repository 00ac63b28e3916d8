import FileQuery.Time.Instant
import FileQuery.Text.WhiteSpace

/-!
# Time patterns

A pattern shows an instant through fields such as `%Y` or `%-d`; all else in it stands for itself.
The clock is that of Greenwich, so the offset is always zero.

## Main definitions

* `FileQuery.TimeField`, `FileQuery.TimeItem`: the fields of a pattern.
* `FileQuery.TimeItem.ofPattern?`: the items of a pattern, none if a field does not exist.
* `FileQuery.Instant.format?`: an instant shown by a pattern.
* `FileQuery.Instant.display`: year, month, day, hour, minute and second.
-/

namespace FileQuery

/-- How a number shorter than its field is filled up. -/
inductive Padding where
  | none
  | zero
  | space
  deriving DecidableEq, Repr

/-- A field that shows a number. -/
inductive NumberField where
  | year | century | yearOfCentury
  | isoYear | isoYearOfCentury | isoWeek
  | quarter | month | day | ordinal
  | weekFromSunday | weekFromMonday | daysFromSunday | weekdayFromMonday
  | hour | hour12 | minute | second | nanos | timestamp
  deriving DecidableEq, Repr

/-- A field that shows a name, a fraction or an offset. -/
inductive TimeField where
  | shortMonth | longMonth | shortWeekday | longWeekday
  | lowerHalf | upperHalf
  /-- A point and as many of 3, 6 or 9 digits as the fraction needs, nothing for none. -/
  | fraction
  /-- A fixed number of digits of the fraction, after a point or not. -/
  | fractionDigits (point : Bool) (digits : Nat)
  /-- The offset from Greenwich as text. -/
  | offset (text : String)
  /-- Date, `T`, time of day with its fraction, and offset. -/
  | internet
  deriving DecidableEq, Repr

/-- A piece of a pattern. -/
inductive TimeItem where
  | literal (text : List Char)
  | number (field : NumberField) (padding : Padding)
  | named (field : TimeField)
  deriving DecidableEq, Repr

namespace TimeItem

/-- What one letter after a percent sign stands for. -/
inductive Letter where
  | item (i : TimeItem)
  /-- Letters that abbreviate a whole pattern. -/
  | pattern (items : List TimeItem)

private abbrev num0 (f : NumberField) : TimeItem := .number f .zero

private abbrev sep (c : Char) : TimeItem := .literal [c]

private def monthDayYear : List TimeItem :=
  [num0 .month, sep '/', num0 .day, sep '/', num0 .yearOfCentury]

private def yearMonthDay : List TimeItem :=
  [num0 .year, sep '-', num0 .month, sep '-', num0 .day]

private def clock : List TimeItem :=
  [num0 .hour, sep ':', num0 .minute, sep ':', num0 .second]

/-- The meaning of a single letter. -/
def ofLetter? : Char → Option Letter
  | 'A' => some (.item (.named .longWeekday))
  | 'B' => some (.item (.named .longMonth))
  | 'C' => some (.item (num0 .century))
  | 'D' => some (.pattern monthDayYear)
  | 'F' => some (.pattern yearMonthDay)
  | 'G' => some (.item (num0 .isoYear))
  | 'H' => some (.item (num0 .hour))
  | 'I' => some (.item (num0 .hour12))
  | 'M' => some (.item (num0 .minute))
  | 'P' => some (.item (.named .lowerHalf))
  | 'R' => some (.pattern [num0 .hour, sep ':', num0 .minute])
  | 'S' => some (.item (num0 .second))
  | 'T' => some (.pattern clock)
  | 'U' => some (.item (num0 .weekFromSunday))
  | 'V' => some (.item (num0 .isoWeek))
  | 'W' => some (.item (num0 .weekFromMonday))
  | 'X' => some (.pattern clock)
  | 'Y' => some (.item (num0 .year))
  | 'Z' => some (.item (.named (.offset "+00:00")))
  | 'a' => some (.item (.named .shortWeekday))
  | 'b' => some (.item (.named .shortMonth))
  | 'c' => some (.pattern ([.named .shortWeekday, sep ' ', .named .shortMonth, sep ' ',
      .number .day .space, sep ' '] ++ clock ++ [sep ' ', num0 .year]))
  | 'd' => some (.item (num0 .day))
  | 'e' => some (.item (.number .day .space))
  | 'f' => some (.item (num0 .nanos))
  | 'g' => some (.item (num0 .isoYearOfCentury))
  | 'h' => some (.item (.named .shortMonth))
  | 'j' => some (.item (num0 .ordinal))
  | 'k' => some (.item (.number .hour .space))
  | 'l' => some (.item (.number .hour12 .space))
  | 'm' => some (.item (num0 .month))
  | 'n' => some (.item (.literal ['\n']))
  | 'p' => some (.item (.named .upperHalf))
  | 'q' => some (.item (.number .quarter .none))
  | 'r' => some (.pattern [num0 .hour12, sep ':', num0 .minute, sep ':', num0 .second, sep ' ',
      .named .upperHalf])
  | 's' => some (.item (.number .timestamp .none))
  | 't' => some (.item (.literal ['\t']))
  | 'u' => some (.item (.number .weekdayFromMonday .none))
  | 'v' => some (.pattern [.number .day .space, sep '-', .named .shortMonth, sep '-', num0 .year])
  | 'w' => some (.item (.number .daysFromSunday .none))
  | 'x' => some (.pattern monthDayYear)
  | 'y' => some (.item (num0 .yearOfCentury))
  | 'z' => some (.item (.named (.offset "+0000")))
  | '+' => some (.item (.named .internet))
  | '%' => some (.item (.literal ['%']))
  | _ => none

/-- The field after a percent sign and the rest of the pattern. A padding mark may stand only
before a field that is a single number. -/
def ofField? : List Char → Option (List TimeItem × List Char)
  | '.' :: 'f' :: r => some ([.named .fraction], r)
  | '.' :: '3' :: 'f' :: r => some ([.named (.fractionDigits true 3)], r)
  | '.' :: '6' :: 'f' :: r => some ([.named (.fractionDigits true 6)], r)
  | '.' :: '9' :: 'f' :: r => some ([.named (.fractionDigits true 9)], r)
  | '3' :: 'f' :: r => some ([.named (.fractionDigits false 3)], r)
  | '6' :: 'f' :: r => some ([.named (.fractionDigits false 6)], r)
  | '9' :: 'f' :: r => some ([.named (.fractionDigits false 9)], r)
  | ':' :: 'z' :: r => some ([.named (.offset "+00:00")], r)
  | ':' :: ':' :: 'z' :: r => some ([.named (.offset "+00:00:00")], r)
  | ':' :: ':' :: ':' :: 'z' :: r => some ([.named (.offset "+00")], r)
  | '-' :: c :: r => padded .none c r
  | '0' :: c :: r => padded .zero c r
  | '_' :: c :: r => padded .space c r
  | c :: r => match ofLetter? c with
    | some (.item i) => some ([i], r)
    | some (.pattern is) => some (is, r)
    | none => none
  | [] => none
where
  /-- A field with a padding mark. -/
  padded (p : Padding) (c : Char) (r : List Char) : Option (List TimeItem × List Char) :=
    match ofLetter? c with
    | some (.item (.number f _)) => some ([.number f p], r)
    | _ => none

theorem ofField?_length {cs r : List Char} {is : List TimeItem} (h : ofField? cs = some (is, r)) :
    r.length < cs.length := by
  unfold ofField? ofField?.padded at h
  repeat' split at h
  all_goals cases h
  all_goals simp only [List.length_cons]
  all_goals omega

/-- The items of a pattern; none when a percent sign does not begin a field. -/
def ofPattern? (cs : List Char) : Option (List TimeItem) :=
  match cs with
  | [] => some []
  | '%' :: r =>
    match h : ofField? r with
    | none => none
    | some (is, r') =>
      have := ofField?_length h
      (ofPattern? r').map (is ++ ·)
  | c :: r => (ofPattern? r).map (.literal [c] :: ·)
termination_by cs.length

end TimeItem

namespace Instant

def monthNames : List String :=
  ["January", "February", "March", "April", "May", "June", "July", "August", "September",
    "October", "November", "December"]

def weekdayNames : List String :=
  ["Monday", "Tuesday", "Wednesday", "Thursday", "Friday", "Saturday", "Sunday"]

/-- Fills a text up to a width. -/
def fill (padding : Padding) (width : Nat) (negative : Bool) (sign : List Char) (n : Nat) :
    List Char :=
  let ds := Nat.toDigits 10 n
  let sign := if negative then ['-'] else sign
  let missing := width - (sign.length + ds.length)
  match padding with
  | .none => sign ++ ds
  | .zero => sign ++ List.replicate missing '0' ++ ds
  | .space => List.replicate missing ' ' ++ sign ++ ds

/-- A year has at least four digits, and a sign when it needs more or is negative. -/
def showYear (padding : Padding) (year : Int) : List Char :=
  if 0 ≤ year ∧ year < 10000 then fill padding 4 false [] year.toNat
  else fill padding 5 (decide (year < 0)) ['+'] year.natAbs

/-- A number of two digits. Centuries outside of the first hundred have no two digits; they are
shown by the character that lies as far behind the digit zero as their tens. -/
def showTwo (padding : Padding) (n : Nat) : List Char :=
  let ones := Char.ofNat (48 + n % 10)
  if n < 10 then
    match padding with
    | .none => [ones]
    | .zero => ['0', ones]
    | .space => [' ', ones]
  else [Char.ofNat (48 + n / 10), ones]

/-- The fraction of the second; a leap second counts from its own start. -/
def fractionOf (c : Civil) : Nat := c.nanos % 1000000000

/-- The second, 60 in a leap second. -/
def secondOf (c : Civil) : Nat := c.second + c.nanos / 1000000000

/-- The hour on a twelve-hour clock. -/
def hour12 (hour : Nat) : Nat := if hour % 12 = 0 then 12 else hour % 12

def showNumber (t : Instant) (padding : Padding) : NumberField → List Char
  | .year => showYear padding t.toCivil.date.year
  | .century => showTwo padding (t.toCivil.date.year / 100 % 256).toNat
  | .yearOfCentury => showTwo padding (t.toCivil.date.year % 100).toNat
  | .isoYear => showYear padding t.toCivil.date.isoWeek.1
  | .isoYearOfCentury => showTwo padding (t.toCivil.date.isoWeek.1 % 100).toNat
  | .isoWeek => showTwo padding t.toCivil.date.isoWeek.2
  | .quarter => Nat.toDigits 10 ((t.toCivil.date.month + 2) / 3)
  | .month => showTwo padding t.toCivil.date.month
  | .day => showTwo padding t.toCivil.date.day
  | .ordinal => fill padding 3 false [] t.toCivil.date.ordinal
  | .weekFromSunday => showTwo padding (t.toCivil.date.weekFrom 6)
  | .weekFromMonday => showTwo padding (t.toCivil.date.weekFrom 0)
  | .daysFromSunday => Nat.toDigits 10 ((t.toCivil.date.weekday + 1) % 7)
  | .weekdayFromMonday => Nat.toDigits 10 (t.toCivil.date.weekday + 1)
  | .hour => showTwo padding t.toCivil.hour
  | .hour12 => showTwo padding (hour12 t.toCivil.hour)
  | .minute => showTwo padding t.toCivil.minute
  | .second => showTwo padding (secondOf t.toCivil)
  | .nanos => fill padding 9 false [] (fractionOf t.toCivil)
  | .timestamp => fill padding 9 (decide (t.seconds < 0)) [] t.seconds.natAbs

/-- The first digits of nanoseconds. -/
def showFraction (digits nanos : Nat) : List Char :=
  fill .zero digits false [] (nanos / 10 ^ (9 - digits))

/-- A point and the fraction in 3, 6 or 9 digits, nothing when it is zero. -/
def showShortFraction (nanos : Nat) : List Char :=
  if nanos = 0 then []
  else if nanos % 1000000 = 0 then '.' :: showFraction 3 nanos
  else if nanos % 1000 = 0 then '.' :: showFraction 6 nanos
  else '.' :: showFraction 9 nanos

/-- Date and time of day with a `T` between them, the fraction as short as possible. -/
def showInternet (t : Instant) : List Char :=
  let two (n : Nat) : List Char := showTwo .zero n
  let c := t.toCivil
  showYear .zero c.date.year ++ '-' :: two c.date.month ++ '-' :: two c.date.day ++
    'T' :: two c.hour ++ ':' :: two c.minute ++ ':' :: two (secondOf c) ++
    showShortFraction (fractionOf c)

def showField (t : Instant) : TimeField → List Char
  | .shortMonth => (nameAt monthNames (t.toCivil.date.month - 1)).take 3
  | .longMonth => nameAt monthNames (t.toCivil.date.month - 1)
  | .shortWeekday => (nameAt weekdayNames t.toCivil.date.weekday).take 3
  | .longWeekday => nameAt weekdayNames t.toCivil.date.weekday
  | .lowerHalf => if t.toCivil.hour < 12 then ['a', 'm'] else ['p', 'm']
  | .upperHalf => if t.toCivil.hour < 12 then ['A', 'M'] else ['P', 'M']
  | .fraction => showShortFraction (fractionOf t.toCivil)
  | .fractionDigits point digits =>
    (if point then ['.'] else []) ++ showFraction digits (fractionOf t.toCivil)
  | .offset text => text.toList
  | .internet => showInternet t ++ "+00:00".toList
where
  nameAt (names : List String) (i : Nat) : List Char := (names[i]?.getD "").toList

def showItem (t : Instant) : TimeItem → List Char
  | .literal cs => cs
  | .number f p => showNumber t p f
  | .named f => showField t f

/-- An instant shown by the items of a pattern. -/
def showItems (t : Instant) (items : List TimeItem) : String :=
  String.ofList (items.flatMap (showItem t))

/-- An instant shown by a pattern, if the pattern has a meaning. -/
def format? (t : Instant) (pattern : String) : Option String :=
  (TimeItem.ofPattern? pattern.toList).map (showItems t)

/-- The items of the display form. -/
def displayItems : List TimeItem :=
  [.number .year .zero, .literal ['-'], .number .month .zero, .literal ['-'], .number .day .zero,
    .literal [' '], .number .hour .zero, .literal [':'], .number .minute .zero, .literal [':'],
    .number .second .zero]

/-- The display form of an instant: year, month and day, hour, minute and second. -/
def display (t : Instant) : String := t.showItems displayItems

end Instant

end FileQuery
