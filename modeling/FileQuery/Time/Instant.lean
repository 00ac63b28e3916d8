import FileQuery.Time.Calendar

/-!
# Instants

A point in time is a count of seconds since 1 January 1970 with nanoseconds. During a leap second
the nanoseconds go on from one billion, so that instants are ordered by seconds and nanoseconds in
turn.

## Main definitions

* `FileQuery.Instant`, `FileQuery.Instant.compare`.
* `FileQuery.Civil`: date and time of day of an instant, `Instant.toCivil`, `Civil.toInstant`.
-/

namespace FileQuery

/-- Seconds since 1 January 1970 and nanoseconds; one billion and more during a leap second. -/
structure Instant where
  seconds : Int
  nanos : Nat
  deriving DecidableEq, Repr

namespace Instant

def compare (s t : Instant) : Ordering :=
  (Ord.compare s.seconds t.seconds).then (Ord.compare s.nanos t.nanos)

end Instant

/-- Date and time of day. In a leap second the second is 59 and the nanoseconds are one billion or
more. -/
structure Civil where
  date : Date
  hour : Nat
  minute : Nat
  second : Nat
  nanos : Nat
  deriving DecidableEq, Repr

/-- The date and time of day at an instant. -/
def Instant.toCivil (t : Instant) : Civil :=
  let s := (t.seconds % 86400).toNat
  ⟨Date.ofDays (t.seconds / 86400), s / 3600, s / 60 % 60, s % 60, t.nanos⟩

/-- The instant of a date and time of day. -/
def Civil.toInstant (c : Civil) : Instant :=
  ⟨c.date.toDays * 86400 + (c.hour * 3600 + c.minute * 60 + c.second : Nat), c.nanos⟩

end FileQuery
