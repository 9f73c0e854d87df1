import AccessControl.Text.Blank
import AccessControl.Time.Instant

/-!
# Timestamps

An instant with the offset of the clock that showed it. Timestamps of one instant are equal, whatever their offsets. There
are two ways to read one: `read` follows RFC 3339 to the letter and says what is wrong with a text, while `readLoosely?`
lets numbers be short and blanks stand between the parts.
-/
namespace AccessControl.Time

/-- An instant as a clock shows it. -/
structure Timestamp where
  instant : Instant
  /-- How many seconds the clock is ahead of universal time. -/
  offset : Int
  deriving DecidableEq, Repr, Inhabited

/-- Why a text is no timestamp. -/
inductive TimestampError where
  | outOfRange
  | invalid
  | tooShort
  | tooLong
  deriving DecidableEq, Repr

/-- The wording of an error. -/
def TimestampError.message : TimestampError → String
  | outOfRange => "input is out of range"
  | invalid => "input contains invalid characters"
  | tooShort => "premature end of input"
  | tooLong => "trailing input"

namespace Timestamp

/-- The instant that a clock in universal time shows at the moment when it shows this. -/
def shown (t : Timestamp) : Instant :=
  { t.instant with seconds := t.instant.seconds + t.offset }

/-- The date that the clock shows. -/
def date (t : Timestamp) : Date :=
  .ofDayNumber (t.shown.seconds / Instant.day)

/-- The seconds that have passed of the day. -/
def secondOfDay (t : Timestamp) : Nat :=
  (t.shown.seconds % Instant.day).toNat

/-- What can be asked of a clock. -/
inductive ClockField where
  | year
  /-- Counted from zero. -/
  | month
  /-- Counted from zero. -/
  | dayOfYear
  /-- Counted from zero. -/
  | dayOfMonth
  /-- The day of the month, counted from one. -/
  | date
  /-- Counted from zero, beginning with Sunday. -/
  | dayOfWeek
  | hours
  | minutes
  | seconds
  /-- Those of the second; a leap second has twice as many. -/
  | milliseconds
  deriving DecidableEq, Repr

/-- What the clock shows in a field. -/
def field (t : Timestamp) : ClockField → Int
  | .year => t.date.year
  | .month => t.date.month - 1
  | .dayOfYear => t.date.dayOfYear
  | .dayOfMonth => t.date.day - 1
  | .date => t.date.day
  | .dayOfWeek => t.date.dayOfWeek
  | .hours => t.secondOfDay / 3600
  | .minutes => t.secondOfDay / 60 % 60
  | .seconds => t.secondOfDay % 60
  | .milliseconds => t.instant.nanoseconds / 1000000

/-- An offset in hours and minutes. -/
def offsetText (offset : Int) : String :=
  let minutes := offset.natAbs / 60
  (if offset < 0 then "-" else "+") ++ Decimal.padded 2 (minutes / 60) ++ ":" ++ Decimal.padded 2 (minutes % 60)

/-- What the clock shows, with its offset. -/
def text (t : Timestamp) : String :=
  t.shown.text ++ offsetText t.offset

def add? (t : Timestamp) (span : Span) : Option Timestamp :=
  (t.instant.add? span).map ({ t with instant := · })

/-- A timestamp by what the clock shows. The sixtieth second of a minute is a leap second. -/
def ofClock? (date : Date) (hour minute second nanoseconds : Nat) (offset : Int) : Option Timestamp :=
  if date.exists? && hour ≤ 23 && minute ≤ 59 && second ≤ 60 && offset.natAbs < 86400 then
    let leap := if second = 60 then 1 else 0
    let shown : Instant :=
      ⟨Instant.day * date.dayNumber + (3600 * hour + 60 * minute + second - leap : Nat),
        leap * Instant.second + nanoseconds⟩
    let t : Timestamp := ⟨{ shown with seconds := shown.seconds - offset }, offset⟩
    if shown.inCalendar && t.instant.inCalendar then some t else none
  else none

/-! ## Reading -/

/-- What is read from the start of a text, or why there is nothing to read. -/
abbrev Reading := Except TimestampError

/-- A number of `count` digits. -/
def readDigits : Nat → Nat → List Char → Reading (Nat × List Char)
  | 0, n, cs => .ok (n, cs)
  | _ + 1, _, [] => .error .tooShort
  | count + 1, n, c :: rest =>
    if c.isDigit then readDigits count (10 * n + (c.toNat - '0'.toNat)) rest else .error .invalid

/-- A character, which must be one of those that are allowed. -/
def readSign (allowed : List Char) : List Char → Reading (Char × List Char)
  | [] => .error .tooShort
  | c :: rest => if allowed.contains c then .ok (c, rest) else .error .invalid

/-- The digits behind the point of a second, as nanoseconds. Digits behind the ninth are dropped. -/
def readFraction (cs : List Char) : Reading (Nat × List Char) :=
  let digits := cs.takeWhile Char.isDigit
  if digits.isEmpty then .error (if cs.isEmpty then .tooShort else .invalid)
  else
    let kept := digits.take 9
    .ok (Decimal.digitsValue kept * Nat.pow 10 (9 - kept.length), cs.dropWhile Char.isDigit)

/-- The fraction of a second, if there is one. -/
def readOptionalFraction : List Char → Reading (Nat × List Char)
  | '.' :: rest => readFraction rest
  | cs => .ok (0, cs)

/-- The signs of offsets: two for clocks that are behind, and one for clocks that are ahead. -/
def offsetSigns : List Char := ['+', '-', '\u2212']

/-- Two digits, for which two bytes must be there. -/
def readPair (cs : List Char) : Reading (Nat × List Char) :=
  if (cs.take 2).foldl (fun n c => n + c.utf8Size) 0 < 2 then .error .tooShort else readDigits 2 0 cs

/-- An offset, in seconds: the letter of universal time, or hours and minutes. What stands between them is read by
`separate`. -/
def readOffset (separate : List Char → Reading (List Char)) (cs : List Char) : Reading (Int × List Char) :=
  match cs with
  | 'Z' :: rest | 'z' :: rest => .ok (0, rest)
  | _ => do
    let (sign, cs) ← readSign offsetSigns cs
    let (hours, cs) ← readPair cs
    let (minutes, cs) ← readPair (← separate cs)
    if 60 ≤ minutes then .error .outOfRange
    else
      let seconds : Int := 3600 * hours + 60 * minutes
      .ok (if sign = '+' then seconds else -seconds, cs)

/-- A date. -/
def readDate (cs : List Char) : Reading (Date × List Char) := do
  let (year, cs) ← readDigits 4 0 cs
  let (_, cs) ← readSign ['-'] cs
  let (month, cs) ← readDigits 2 0 cs
  let (_, cs) ← readSign ['-'] cs
  let (day, cs) ← readDigits 2 0 cs
  let date : Date := ⟨year, month, day⟩
  if date.exists? then .ok (date, cs) else .error .outOfRange

/-- The number of characters up to the fraction of a second. -/
def minLength : Nat := 19

/-- Reads a date and a time with an offset, as RFC 3339 lays them down. -/
def read (s : String) : Except TimestampError Timestamp := do
  if s.utf8ByteSize < minLength then .error .tooShort
  else
    let (date, cs) ← readDate s.toList
    let (_, cs) ← readSign ['T', 't', ' '] cs
    let (hour, cs) ← readDigits 2 0 cs
    let (_, cs) ← readSign [':'] cs
    let (minute, cs) ← readDigits 2 0 cs
    let (_, cs) ← readSign [':'] cs
    let (second, cs) ← readDigits 2 0 cs
    let (nanoseconds, cs) ← readOptionalFraction cs
    if 23 < hour || 59 < minute || 60 < second then .error .outOfRange
    else
      let (offset, cs) ← readOffset (fun cs => (readSign [':'] cs).map (·.2)) cs
      if !cs.isEmpty then .error .tooLong
      else (ofClock? date hour minute second nanoseconds offset).elim (.error .outOfRange) .ok

/-! ## Reading loosely -/

/-- A text without the blanks in front. -/
def skipBlanks (cs : List Char) : List Char :=
  cs.dropWhile Text.isBlank

/-- A number of at most `count` digits, with blanks in front. -/
def looseNumber? (count : Nat) (cs : List Char) : Option (Nat × List Char) :=
  let cs := skipBlanks cs
  let digits := (cs.take count).takeWhile Char.isDigit
  if digits.isEmpty then none else some (Decimal.digitsValue digits, cs.drop digits.length)

/-- A year, which may have any number of digits behind a sign. -/
def looseYear? (cs : List Char) : Option (Int × List Char) :=
  match skipBlanks cs with
  | '-' :: rest => signed rest (-1)
  | '+' :: rest => signed rest 1
  | cs => (looseNumber? 4 cs).map fun (n, cs) => ((n : Int), cs)
where
  signed (cs : List Char) (sign : Int) : Option (Int × List Char) :=
    let digits := cs.takeWhile Char.isDigit
    if digits.isEmpty then none else some (sign * Decimal.digitsValue digits, cs.dropWhile Char.isDigit)

/-- Drops a character in front, which may have blanks before it. -/
def looseSign? (c : Char) (cs : List Char) : Option (List Char) :=
  match skipBlanks cs with
  | d :: rest => if c = d then some rest else none
  | [] => none

/-- An offset, or the name of universal time. -/
def looseOffset? (cs : List Char) : Option (Int × List Char) :=
  if (cs.take 3).map Char.toUpper = ['U', 'T', 'C'] then some (0, cs.drop 3)
  else (readOffset (fun cs => .ok (cs.dropWhile fun c => c = ':' || Text.isBlank c)) cs).toOption

/-- Reads a date and a time with an offset, whose numbers may be short and have blanks around them. -/
def readLoosely? (s : String) : Option Timestamp := do
  let (year, cs) ← looseYear? s.toList
  let (month, cs) ← looseNumber? 2 (← looseSign? '-' cs)
  let (day, cs) ← looseNumber? 2 (← looseSign? '-' cs)
  let (_, cs) ← (readSign ['T', 't', ' '] cs).toOption
  let (hour, cs) ← looseNumber? 2 cs
  let (minute, cs) ← looseNumber? 2 (← looseSign? ':' cs)
  let (second, cs) ← looseNumber? 2 (← looseSign? ':' cs)
  let (nanoseconds, cs) ← (readOptionalFraction cs).toOption
  let (offset, cs) ← looseOffset? (skipBlanks cs)
  if (skipBlanks cs).isEmpty then ofClock? ⟨year, month, day⟩ hour minute second nanoseconds offset else none

end Timestamp

end AccessControl.Time
