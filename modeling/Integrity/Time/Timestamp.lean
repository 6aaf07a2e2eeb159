/-!
# Moments in universal time

A moment is a date of the Gregorian calendar and a time of day, down to the nanosecond. A minute
may have a sixty-first second.
-/

namespace Integrity

/-- Whether a year has a twenty-ninth of February. -/
def isLeapYear (year : Int) : Bool :=
  year % 4 == 0 && (year % 100 != 0 || year % 400 == 0)

/-- The number of days of a month. -/
def daysInMonth (year : Int) : (month : Nat) → Nat
  | 2 => if isLeapYear year then 29 else 28
  | 4 | 6 | 9 | 11 => 30
  | _ => 31

/-- A date of the Gregorian calendar. -/
structure Date where
  year : Int
  month : Nat
  day : Nat
deriving DecidableEq, Repr

namespace Date

/-- The first and the last year that dates are kept for. -/
def yearRange : Int × Int :=
  (-262143, 262142)

/-- Whether a date is in the calendar. -/
def isValid (date : Date) : Bool :=
  yearRange.1 ≤ date.year && date.year ≤ yearRange.2
    && 1 ≤ date.month && date.month ≤ 12
    && 1 ≤ date.day && date.day ≤ daysInMonth date.year date.month

/-- The day after. -/
def next (date : Date) : Date :=
  if date.day < daysInMonth date.year date.month then { date with day := date.day + 1 }
  else if date.month < 12 then ⟨date.year, date.month + 1, 1⟩
  else ⟨date.year + 1, 1, 1⟩

/-- The day before. -/
def previous (date : Date) : Date :=
  if 1 < date.day then { date with day := date.day - 1 }
  else if 1 < date.month then
    ⟨date.year, date.month - 1, daysInMonth date.year (date.month - 1)⟩
  else ⟨date.year - 1, 12, 31⟩

/-- The date that many days after the first of January 1970. Years are counted from March, in eras
of four hundred years. -/
def ofDays (days : Int) : Date :=
  let shifted := days + 719468
  let era := shifted.fdiv 146097
  let dayOfEra := (shifted - era * 146097).toNat
  let yearOfEra := (dayOfEra - dayOfEra / 1460 + dayOfEra / 36524 - dayOfEra / 146096) / 365
  let dayOfYear := dayOfEra - (365 * yearOfEra + yearOfEra / 4 - yearOfEra / 100)
  let marchMonth := (5 * dayOfYear + 2) / 153
  let day := dayOfYear - (153 * marchMonth + 2) / 5 + 1
  let month := if marchMonth < 10 then marchMonth + 3 else marchMonth - 9
  let year := (yearOfEra : Int) + era * 400 + (if month ≤ 2 then 1 else 0)
  ⟨year, month, day⟩

end Date

/-- A moment in universal time. -/
structure Timestamp where
  date : Date
  hour : Nat
  minute : Nat
  /-- The second; the sixty-first of a minute is number sixty. -/
  second : Nat
  nanos : Nat
deriving DecidableEq, Repr

namespace Timestamp

/-- Whether a moment is on the clock and its date in the calendar. -/
def isValid (t : Timestamp) : Bool :=
  t.date.isValid && t.hour ≤ 23 && t.minute ≤ 59 && t.second ≤ 60 && t.nanos ≤ 999999999

/-- The moment that many seconds, and nanoseconds, after the first of January 1970. -/
def ofUnix (seconds : Int) (nanos : Nat) : Timestamp :=
  let days := seconds.fdiv 86400
  let rest := (seconds - days * 86400).toNat
  ⟨Date.ofDays days, rest / 3600, rest / 60 % 60, rest % 60, nanos⟩

instance : Inhabited Timestamp :=
  ⟨ofUnix 0 0⟩

/-- The universal time of a clock that is `minutes` ahead of it, by less than a day. -/
def behind (t : Timestamp) (minutes : Int) : Timestamp :=
  let total := (t.hour * 60 + t.minute : Int) - minutes
  let date :=
    if total < 0 then t.date.previous else if 1440 ≤ total then t.date.next else t.date
  let inDay := (total % 1440).toNat
  { t with date, hour := inDay / 60, minute := inDay % 60 }

end Timestamp

end Integrity
