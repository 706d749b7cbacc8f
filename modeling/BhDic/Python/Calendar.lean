import BhDic.Python.Date

/-!
# Days of the calendar

The order of dates, the length of a month and the day some days later.
-/

namespace BhDic.Python

namespace Date

/-- The digits of the basic form, which are in the order of the dates. -/
def digits (d : Date) : Nat := 10000 * d.year + 100 * d.month + d.day

instance : LE Date := ⟨fun d e => d.digits ≤ e.digits⟩

instance (d e : Date) : Decidable (d ≤ e) := inferInstanceAs (Decidable (d.digits ≤ e.digits))

theorem le_def {d e : Date} : d ≤ e ↔ d.digits ≤ e.digits := Iff.rfl

/-- `toordinal`. -/
def toOrdinal (d : Date) : Nat :=
  firstOfYear d.year + ((List.range' 1 (d.month - 1)).map (daysInMonth d.year)).sum + d.day - 1

/-- `date.fromordinal`. -/
def ofOrdinal? (ordinal : Nat) : Option Date :=
  let (year, month, day) := ofOrdinal ordinal
  make? year month day

/-- `d + timedelta(days=days)`, before the end of the calendar. -/
def plusDays? (d : Date) (days : Nat) : Option Date := ofOrdinal? (d.toOrdinal + days)

example : ((make? 2024 2 28).bind (·.plusDays? 2)).map (·.digits) = some 20240301 := by decide

/-- `d.replace(day=1) - timedelta(days=1)`, after the first month of the calendar. -/
def endOfPreviousMonth? (d : Date) : Option Date := ofOrdinal? (d.toOrdinal - d.day)

end Date

/-- `_month_interval`. -/
def monthInterval? (year month : Nat) : Option (Date × Date) := do
  let first ← Date.make? year month 1
  let last ← Date.make? year month (daysInMonth year month)
  return (first, last)

end BhDic.Python
