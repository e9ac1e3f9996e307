import JolCommerce.Python.Text

/-! UTC date-times with their calendar fields, their ISO text and their distance in microseconds. -/

namespace Python

/-- Leap years of the proleptic Gregorian calendar. -/
def isLeap (year : Nat) : Bool :=
  year % 4 == 0 && (year % 100 != 0 || year % 400 == 0)

/-- The number of days of a month. -/
def daysInMonth (year month : Nat) : Nat :=
  -- February is the only month whose length depends on the year.
  match month with
  | 2 => if isLeap year then 29 else 28
  | 4 | 6 | 9 | 11 => 30
  | _ => 31

/-- Days of a year that lie before the first of a month. -/
def daysBeforeMonth (year : Nat) : Nat → Nat
  | 0 => 0
  | 1 => 0
  | month + 2 => daysBeforeMonth year (month + 1) + daysInMonth year (month + 1)

/-- Days before January 1 of a year, counted from January 1 of year 1. -/
def daysBeforeYear (year : Nat) : Nat :=
  -- Every fourth year is a leap year, but for centuries that four hundred does not divide.
  let past := year - 1
  past * 365 + past / 4 - past / 100 + past / 400

/-- An aware `datetime` in UTC. -/
structure DateTime where
  year : Nat
  month : Nat
  day : Nat
  hour : Nat
  minute : Nat
  second : Nat
  microsecond : Nat
  /-- The calendar and clock bounds that the constructor checks. -/
  valid : (1 ≤ year ∧ year ≤ 9999) ∧ (1 ≤ month ∧ month ≤ 12) ∧
    (1 ≤ day ∧ day ≤ daysInMonth year month) ∧ hour < 24 ∧ minute < 60 ∧ second < 60 ∧
    microsecond < 1000000

namespace DateTime

/-- Microseconds since the first instant of year 1. -/
def toMicros (moment : DateTime) : Nat :=
  -- Days, hours, minutes and seconds in turn, each in units of the next.
  let days := daysBeforeYear moment.year + daysBeforeMonth moment.year moment.month +
    (moment.day - 1)
  (((days * 24 + moment.hour) * 60 + moment.minute) * 60 + moment.second) * 1000000 +
    moment.microsecond

/-- The POSIX timestamp in microseconds, negative before 1970. -/
def unixMicros (moment : DateTime) : Int :=
  -- 719162 days lie between the first instant of year 1 and the epoch.
  (moment.toMicros : Int) - 719162 * 24 * 60 * 60 * 1000000

/-- `isoformat()` with the UTC offset, the fraction left out when it is zero. -/
def isoformat (moment : DateTime) : String :=
  String.ofList (zeroPad 4 moment.year ++ '-' :: zeroPad 2 moment.month ++
    '-' :: zeroPad 2 moment.day ++ 'T' :: zeroPad 2 moment.hour ++
    ':' :: zeroPad 2 moment.minute ++ ':' :: zeroPad 2 moment.second ++
    (if moment.microsecond = 0 then [] else '.' :: zeroPad 6 moment.microsecond) ++
    ['+', '0', '0', ':', '0', '0'])

end DateTime

/-- A `date`. -/
structure Date where
  year : Nat
  month : Nat
  day : Nat
  /-- The calendar bounds that the constructor checks. -/
  valid : (1 ≤ year ∧ year ≤ 9999) ∧ (1 ≤ month ∧ month ≤ 12) ∧
    1 ≤ day ∧ day ≤ daysInMonth year month

namespace Date

/-- Dates are compared by year, then by month, then by day. -/
def le (left right : Date) : Bool :=
  left.year < right.year || left.year = right.year &&
    (left.month < right.month || left.month = right.month && left.day ≤ right.day)

/-- `isoformat()` of a date. -/
def isoformat (date : Date) : String :=
  String.ofList (zeroPad 4 date.year ++ '-' :: zeroPad 2 date.month ++ '-' :: zeroPad 2 date.day)

end Date

end Python
