import AccessControl.Time.Calendar
import AccessControl.Time.Span

/-!
# Instants

A point in universal time. A leap second is part of the second before it, whose nanoseconds then go on beyond `10 ^ 9`.
The calendar has a first and a last year, so that not every sum of an instant and a span is an instant.
-/
namespace AccessControl.Time

/-- A point in time. -/
structure Instant where
  /-- The seconds since the beginning of 1970, without leap seconds. -/
  seconds : Int
  /-- The nanoseconds since then; from `10 ^ 9` on they belong to a leap second. -/
  nanoseconds : Nat
  deriving DecidableEq, Repr, Inhabited

/-- A fraction of a second in groups of three digits, without groups of zeros at its end. -/
def fractionText (n : Nat) : String :=
  if n = 0 then ""
  else if n % 1000000 = 0 then "." ++ Decimal.padded 3 (n / 1000000)
  else if n % 1000 = 0 then "." ++ Decimal.padded 6 (n / 1000)
  else "." ++ Decimal.padded 9 n

namespace Instant

/-- The number of nanoseconds in a second. -/
def second : Nat := 1000000000

/-- The number of seconds in a day. -/
def day : Int := 86400

/-- The first instant and the last one, as seconds. -/
def bounds : Int × Int :=
  (day * Date.dayNumber ⟨-262143, 1, 1⟩, day * (Date.dayNumber ⟨262142, 12, 31⟩ + 1) - 1)

/-- Whether an instant is in the calendar. -/
def inCalendar (t : Instant) : Bool :=
  bounds.1 ≤ t.seconds && t.seconds ≤ bounds.2

/-- How two instants follow each other. -/
def compare (a b : Instant) : Ordering :=
  (Ord.compare a.seconds b.seconds).then (Ord.compare a.nanoseconds b.nanoseconds)

def isLeap (t : Instant) : Bool :=
  second ≤ t.nanoseconds

/-- The instant after a span. Of all leap seconds only that of `t` itself takes time. -/
def shifted (t : Instant) (span : Span) : Instant :=
  let n := span.nanoseconds
  let wholeSeconds := n.tdiv second
  let f := (t.nanoseconds : Int) + n.tmod second
  if t.isLeap && wholeSeconds = 0 && f < 2 * second then ⟨t.seconds, f.toNat⟩
  else
    let start : Int := if t.isLeap && 0 ≤ n then t.nanoseconds - second else t.nanoseconds
    let total := start + n
    ⟨t.seconds + total / second, (total % second).toNat⟩

/-- The instant after a span, if it is in the calendar. -/
def add? (t : Instant) (span : Span) : Option Instant :=
  let u := t.shifted span
  if u.inCalendar then some u else none

/-- The span from `b` to `a`. A leap second takes time where the instant in it has the earlier time of day. -/
def since (a b : Instant) : Span :=
  let leaps : Int :=
    if b.seconds % day < a.seconds % day && b.isLeap then 1
    else if a.seconds % day < b.seconds % day && a.isLeap then -1
    else 0
  ⟨(a.seconds - b.seconds + leaps) * second + (a.nanoseconds - b.nanoseconds)⟩

/-- The nanoseconds since the beginning of 1970. -/
def sinceEpoch (t : Instant) : Span :=
  ⟨t.seconds * second + t.nanoseconds⟩

/-- A date and a time of day without an offset. A leap second is the sixtieth of its minute. -/
def text (t : Instant) : String :=
  let s := (t.seconds % day).toNat
  let leap := if t.isLeap then 1 else 0
  (Date.ofDayNumber (t.seconds / day)).text ++ "T" ++ Decimal.padded 2 (s / 3600) ++ ":"
    ++ Decimal.padded 2 (s / 60 % 60) ++ ":" ++ Decimal.padded 2 (s % 60 + leap)
    ++ fractionText (t.nanoseconds - leap * second)

end Instant

end AccessControl.Time
