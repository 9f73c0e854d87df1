import AccessControl.Decimal.Notation

/-!
# The calendar

Dates of the Gregorian calendar, which is taken to reach back before its introduction, and the number of days between
them. Years are counted from the first of March on the way, so that a leap day is the last day of its year.
-/
namespace AccessControl.Time

/-- A date. -/
structure Date where
  year : Int
  month : Nat
  day : Nat
  deriving DecidableEq, Repr, Inhabited

def isLeapYear (year : Int) : Bool :=
  year % 4 = 0 && (year % 100 ≠ 0 || year % 400 = 0)

/-- The number of days of a month. -/
def daysIn (year : Int) (month : Nat) : Nat :=
  if month = 2 then if isLeapYear year then 29 else 28
  else if month = 4 || month = 6 || month = 9 || month = 11 then 30
  else 31

namespace Date

/-- Whether there is such a day in such a month. -/
def exists? (d : Date) : Bool :=
  1 ≤ d.month && d.month ≤ 12 && 1 ≤ d.day && d.day ≤ daysIn d.year d.month

/-- The number of days from the first of March of the year zero. -/
def fromMarch (d : Date) : Int :=
  let y := if d.month ≤ 2 then d.year - 1 else d.year
  let m : Int := (d.month + 9) % 12
  365 * y + y / 4 - y / 100 + y / 400 + (153 * m + 2) / 5 + (d.day - 1)

/-- The number of days from the first of January 1970. -/
def dayNumber (d : Date) : Int :=
  d.fromMarch - fromMarch ⟨1970, 1, 1⟩

/-- The date of a day. -/
def ofDayNumber (n : Int) : Date :=
  let n := n + fromMarch ⟨1970, 1, 1⟩
  let era := n / 146097
  let d := n % 146097
  let y := (d - d / 1460 + d / 36524 - d / 146096) / 365
  let dayOfYear := d - (365 * y + y / 4 - y / 100)
  let m := (5 * dayOfYear + 2) / 153
  let month := if m < 10 then m + 3 else m - 9
  ⟨400 * era + y + (if month ≤ 2 then 1 else 0), month.toNat, (dayOfYear - (153 * m + 2) / 5 + 1).toNat⟩

/-- The number of days from the first day of the year. -/
def dayOfYear (d : Date) : Nat :=
  (d.fromMarch - fromMarch ⟨d.year, 1, 1⟩).toNat

/-- The number of days from the last Sunday. -/
def dayOfWeek (d : Date) : Nat :=
  ((d.dayNumber + 4) % 7).toNat

/-- A year of four digits; one that has more or is negative bears a sign. -/
def yearText (year : Int) : String :=
  if 0 ≤ year && year ≤ 9999 then Decimal.padded 4 year.toNat
  else (if year < 0 then "-" else "+") ++ Decimal.padded 4 year.natAbs

def text (d : Date) : String :=
  yearText d.year ++ "-" ++ Decimal.padded 2 d.month ++ "-" ++ Decimal.padded 2 d.day

end Date

end AccessControl.Time
