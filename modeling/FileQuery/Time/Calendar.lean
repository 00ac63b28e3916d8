/-!
# The civil calendar

Days are counted from 1 January 1970 in the proleptic Gregorian calendar. A day count is split into
year, month and day by estimating the year from the length of 400 years, which is never off by more
than one, and by walking over the lengths of the months.

## Main definitions

* `FileQuery.Date`, with `Date.toDays` and `Date.ofDays`.
* `FileQuery.Calendar.weekday`, `FileQuery.Date.ordinal`, `FileQuery.Date.isoWeek`.
-/

namespace FileQuery

/-- A day of the civil calendar; months and days count from one. -/
structure Date where
  year : Int
  month : Nat
  day : Nat
  deriving DecidableEq, Repr

namespace Calendar

/-- Every fourth year is a leap year, of the full centuries only every fourth. -/
def isLeap (year : Int) : Bool :=
  year % 4 == 0 && (year % 100 != 0 || year % 400 == 0)

/-- The days from 1 January of the year one to 1 January of a year. -/
def daysBefore (year : Int) : Int :=
  let y := year - 1
  365 * y + y / 4 - y / 100 + y / 400

/-- The days from 1 January of the year one to 1 January 1970. -/
def epoch : Int := 719162

/-- The lengths of the months of a year. -/
def monthLengths (leap : Bool) : List Nat :=
  [31, if leap then 29 else 28, 31, 30, 31, 30, 31, 31, 30, 31, 30, 31]

/-- The number of days of a month. -/
def daysInMonth (year : Int) (month : Nat) : Nat :=
  (monthLengths (isLeap year))[month - 1]?.getD 0

/-- The year that holds a day counted from 1 January of the year one. -/
def yearOf (day : Int) : Int :=
  let guess := 400 * day / 146097 + 1
  if day < daysBefore guess then guess - 1
  else if daysBefore (guess + 1) ≤ day then guess + 1
  else guess

/-- Splits a day of the year, counted from zero, into months passed and days passed in the
month. -/
def splitMonths : List Nat → Nat → Nat × Nat
  | [], n => (0, n)
  | l :: ls, n =>
    if n < l then (0, n)
    else
      let (m, d) := splitMonths ls (n - l)
      (m + 1, d)

/-- The day of the week, Monday being zero. -/
def weekday (days : Int) : Nat := ((days + 3) % 7).toNat

end Calendar

namespace Date

open Calendar

/-- Whether the month exists and has the day. -/
def isValid (d : Date) : Bool :=
  1 ≤ d.month && d.month ≤ 12 && 1 ≤ d.day && d.day ≤ daysInMonth d.year d.month

/-- The day of the year, counted from one. -/
def ordinal (d : Date) : Nat :=
  ((monthLengths (isLeap d.year)).take (d.month - 1)).foldl (· + ·) 0 + d.day

/-- The days from 1 January 1970. -/
def toDays (d : Date) : Int := daysBefore d.year + d.ordinal - 1 - epoch

/-- The day that lies a number of days after 1 January 1970. -/
def ofDays (days : Int) : Date :=
  let n := days + epoch
  let year := yearOf n
  let (m, d) := splitMonths (monthLengths (isLeap year)) (n - daysBefore year).toNat
  ⟨year, m + 1, d + 1⟩

def weekday (d : Date) : Nat := Calendar.weekday d.toDays

/-- The number of the week of the year when weeks begin on the weekday `first`; the days before
the first such weekday are in week zero. -/
def weekFrom (d : Date) (first : Nat) : Nat :=
  (d.ordinal + 6 - (d.weekday + 7 - first) % 7) / 7

/-- The number of weeks of a week-numbering year: 53 when it begins on a Thursday, or on a
Wednesday in a leap year. -/
def isoWeeks (year : Int) : Nat :=
  let first := Calendar.weekday (daysBefore year - epoch)
  if first = 3 ∨ (first = 2 ∧ isLeap year = true) then 53 else 52

/-- The week-numbering year and the week: weeks begin on Monday and belong to the year that has
their Thursday. -/
def isoWeek (d : Date) : Int × Nat :=
  let w := (d.ordinal + 9 - d.weekday) / 7
  if w = 0 then (d.year - 1, isoWeeks (d.year - 1))
  else if isoWeeks d.year < w then (d.year + 1, 1)
  else (d.year, w)

end Date

end FileQuery
