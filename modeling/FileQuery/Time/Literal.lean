import FileQuery.Time.Instant
import FileQuery.Text.WhiteSpace

/-!
# Dates and times as written in queries

Three spellings are read: the internet form with an offset, the display form (with a blank or a `T`
between date and time of day), and a bare date, which means its midnight. The internet form has
fields of fixed width; in the others a number may be shorter and may have white space before it.

## Main definitions

* `FileQuery.Instant.ofLiteral?`: the instant that a text stands for.
-/

namespace FileQuery.TimeLiteral

/-- A scanning step: what it reads off the front of a text, and the rest. -/
abbrev Scan (α : Type) := StateT (List Char) Option α

/-- Reads the digits at the front, at least `least` and at most `most`. -/
def digits (least most : Nat) : Scan (List Char) := fun cs =>
  let ds := (cs.takeWhile Char.isDigit).take most
  if ds.length < least then none else some (ds, cs.drop ds.length)

/-- Reads a number of at least `least` and at most `most` digits. -/
def number (least most : Nat) : Scan Nat := do
  return Nat.ofDigitChars 10 (← digits least most) 0

/-- Reads one of the given characters. -/
def oneOf (choices : List Char) : Scan Unit
  | [] => none
  | c :: cs => if choices.contains c then some ((), cs) else none

/-- Skips white space. -/
def blanks : Scan Unit := fun cs => some ((), cs.dropWhile Text.isWhiteSpace)

/-- Whether the rest begins with a character, which is then skipped. -/
def optional (c : Char) : Scan Bool := fun cs =>
  match cs with
  | d :: r => if d = c then some (true, r) else some (false, cs)
  | [] => some (false, [])

/-- Succeeds at the end of the text. -/
def atEnd : Scan Unit
  | [] => some ((), [])
  | _ :: _ => none

/-- A date that exists within the years of the calendar. -/
def date (year : Int) (month day : Nat) : Scan Date :=
  let d : Date := ⟨year, month, day⟩
  if d.isValid && -262143 ≤ year && year ≤ 262142 then pure d else failure

/-- A time of day; the second 60 is a leap second. -/
def time (d : Date) (hour minute second nanos : Nat) : Scan Civil :=
  if hour < 24 && minute < 60 && second ≤ 60 then
    pure (if second = 60 then ⟨d, hour, minute, 59, nanos + 1000000000⟩
      else ⟨d, hour, minute, second, nanos⟩)
  else failure

/-! ### The internet form -/

/-- The fraction of a second in nanoseconds; digits after the ninth are dropped. -/
def fraction : Scan Nat := do
  if ← optional '.' then
    let ds ← digits 1 9
    modify (·.dropWhile Char.isDigit)
    return Nat.ofDigitChars 10 ds 0 * 10 ^ (9 - ds.length)
  else return 0

/-- The offset from Greenwich in minutes. -/
def offset : Scan Int := fun cs =>
  match cs with
  | [] => none
  | c :: r =>
    if c = 'Z' ∨ c = 'z' then some (0, r)
    else
      let minutes : Scan Int := do
        let hours ← number 2 2
        oneOf [':']
        let minutes ← number 2 2
        if minutes < 60 && hours < 24 then return (hours * 60 + minutes : Nat) else failure
      if c = '+' then minutes r
      else if c = '-' ∨ c.toNat = 0x2212 then (fun (m, r) => (-m, r)) <$> minutes r
      else none

/-- Date and time of day in fields of fixed width, a fraction and an offset. -/
def internet : Scan Instant := do
  let year ← number 4 4
  oneOf ['-']
  let month ← number 2 2
  oneOf ['-']
  let day ← number 2 2
  oneOf ['T', 't', ' ']
  let hour ← number 2 2
  oneOf [':']
  let minute ← number 2 2
  oneOf [':']
  let second ← number 2 2
  let nanos ← fraction
  let minutes ← offset
  atEnd
  let t ← time (← date year month day) hour minute second nanos
  return ⟨t.toInstant.seconds - minutes * 60, t.toInstant.nanos⟩

/-! ### The display form and bare dates -/

/-- A number of at most `width` digits after white space. -/
def field (width : Nat) : Scan Nat := do
  blanks
  number 1 width

/-- A year: at most four digits, or any number of them after a sign. -/
def year : Scan Int := do
  blanks
  let long : Scan Nat := fun cs => number 1 cs.length cs
  if ← optional '-' then return -(← long : Int)
  else if ← optional '+' then return (← long : Int)
  else return (← number 1 4 : Int)

/-- Year, month and day with hyphens between them. -/
def yearMonthDay : Scan Date := do
  let y ← year
  oneOf ['-']
  let m ← field 2
  oneOf ['-']
  let d ← field 2
  date y m d

/-- Date and time of day, a `T` or optional white space between them. -/
def display (separator : Scan Unit) : Scan Instant := do
  let d ← yearMonthDay
  separator
  let hour ← field 2
  oneOf [':']
  let minute ← field 2
  oneOf [':']
  let second ← field 2
  atEnd
  return (← time d hour minute second 0).toInstant

/-- A date alone, at its midnight. -/
def midnight : Scan Instant := do
  let d ← yearMonthDay
  atEnd
  return (← time d 0 0 0 0).toInstant

/-- What a scan reads from a whole text. -/
def read (s : Scan Instant) (cs : List Char) : Option Instant := (s cs).map (·.1)

end TimeLiteral

/-- The instant that a text stands for, white space around it ignored. -/
def Instant.ofLiteral? (text : String) : Option Instant :=
  let cs := Text.trimChars text.toList
  let read (s : TimeLiteral.Scan Instant) : Option Instant := TimeLiteral.read s cs
  read TimeLiteral.internet
    <|> read (TimeLiteral.display TimeLiteral.blanks)
    <|> read (TimeLiteral.display (TimeLiteral.oneOf ['T']))
    <|> read TimeLiteral.midnight

end FileQuery
