import BhDic.Python.Exceptions

/-!
# Date and time

A `datetime` is what its wall clock shows, in microseconds since 1970-01-01T00:00:00, and its
offset from UTC, absent in a naive one. Arithmetic at the ends of the calendar is left out.
-/

namespace BhDic.Python

/-- A moment, in microseconds since the epoch: a `datetime` whose zone is UTC. -/
abbrev Instant := Int

/-- A `timedelta`, in microseconds. -/
abbrev Duration := Int

structure DateTime where
  wall : Int
  utcoffset : Option Duration
  deriving DecidableEq, Repr

/-- The moment as a `datetime` in UTC. -/
def DateTime.ofInstant (t : Instant) : DateTime := ⟨t, some 0⟩

/-- The moment as a `datetime` a driver returns after dropping the zone. -/
def DateTime.naive (t : Instant) : DateTime := ⟨t, none⟩

/-- `value.astimezone(UTC)`, for a value that has a zone. -/
def DateTime.astimezoneUtc? (d : DateTime) : Option Instant := d.utcoffset.map (d.wall - ·)

end BhDic.Python
