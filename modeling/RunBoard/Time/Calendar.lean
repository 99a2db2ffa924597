import RunBoard.Text.Digits
import RunBoard.Time.Timestamp

/-!
# Calendar dates

Dates of the Gregorian calendar, extended to all years, in a zone with a fixed offset.
-/

namespace RunBoard

/-- A zone with a fixed number of seconds ahead of UTC. -/
structure Zone where
  offset : Int
  deriving DecidableEq, Repr, Inhabited

namespace Zone

def utc : Zone := ⟨0⟩

/-- The seconds of `hh[:mm[:ss]]`. -/
def clock? (chars : List Char) : Option Nat :=
  match (String.ofList chars).splitOn ":" with
  | [hours] => do return (← Text.number? 10 hours.toList) * 3600
  | [hours, minutes] => do
      return (← Text.number? 10 hours.toList) * 3600 + (← Text.number? 10 minutes.toList) * 60
  | [hours, minutes, seconds] => do
      return (← Text.number? 10 hours.toList) * 3600 + (← Text.number? 10 minutes.toList) * 60 +
        (← Text.number? 10 seconds.toList)
  | _ => none

/-- What follows the abbreviation of a zone, in angle brackets or in letters. -/
def afterName : List Char → List Char
  | '<' :: rest => (rest.dropWhile (· != '>')).drop 1
  | chars => chars.dropWhile Char.isAlpha

/-- Reads a zone written as an abbreviation and the time to add to reach UTC. -/
def parse? (text : String) : Option Zone :=
  match afterName text.toList with
  | '-' :: rest => (clock? rest).map fun seconds => ⟨seconds⟩
  | '+' :: rest => (clock? rest).map fun seconds => ⟨-seconds⟩
  | [] => if text.isEmpty then none else some utc
  | rest => (clock? rest).map fun seconds => ⟨-seconds⟩

end Zone

/-- A date and a time of day. -/
structure Moment where
  year : Int
  month : Nat
  day : Nat
  hour : Nat
  minute : Nat
  second : Nat
  milli : Nat
  deriving DecidableEq, Repr

namespace Moment

/-- The year, month and day of a day counted from the first of January 1970. Years are
counted from March, so that a leap day is the last day of its year, in eras of 400 years. -/
def civil (days : Int) : Int × Nat × Nat :=
  let shifted := days + 719468
  let era := shifted / 146097
  let dayOfEra := (shifted % 146097).toNat
  let yearOfEra := (dayOfEra - dayOfEra / 1460 + dayOfEra / 36524 - dayOfEra / 146096) / 365
  let dayOfYear := dayOfEra - (365 * yearOfEra + yearOfEra / 4 - yearOfEra / 100)
  let shiftedMonth := (5 * dayOfYear + 2) / 153
  let day := dayOfYear - (153 * shiftedMonth + 2) / 5 + 1
  let month := if shiftedMonth < 10 then shiftedMonth + 3 else shiftedMonth - 9
  let year : Int := yearOfEra + era * 400
  (if month ≤ 2 then year + 1 else year, month, day)

/-- What clocks and calendars of a zone show at a point in time. -/
def ofTimestamp (zone : Zone) (time : Timestamp) : Moment :=
  let millis := time.millis + zone.offset * 1000
  let (year, month, day) := civil (millis / 86400000)
  let rest := (millis % 86400000).toNat
  { year, month, day
    hour := rest / 3600000
    minute := rest / 60000 % 60
    second := rest / 1000 % 60
    milli := rest % 1000 }

/-- Decimal digits with leading zeros up to a width. -/
def padded (width n : Nat) : String :=
  let digits := Nat.toDigits 10 n
  String.ofList (List.replicate (width - digits.length) '0' ++ digits)

/-- Four digits, with a sign outside of the years 0 to 9999. -/
def yearText (year : Int) : String :=
  if 0 ≤ year && year ≤ 9999 then padded 4 year.natAbs
  else if year < 0 then "-" ++ padded 4 year.natAbs
  else "+" ++ padded 4 year.natAbs

def monthNames : List String :=
  ["Jan", "Feb", "Mar", "Apr", "May", "Jun", "Jul", "Aug", "Sep", "Oct", "Nov", "Dec"]

/-- The hour on a clock face of twelve hours. -/
def faceHour (hour : Nat) : Nat :=
  if hour % 12 = 0 then 12 else hour % 12

/-- For instance `Sep 13 2020, 12:26pm`. -/
def longText (moment : Moment) : String :=
  let month := (monthNames[moment.month - 1]?).getD ""
  let half := if moment.hour < 12 then "am" else "pm"
  s!"{month} {moment.day} {yearText moment.year}, {padded 2 (faceHour moment.hour)}:" ++
    padded 2 moment.minute ++ half

/-- The time of day, for instance `12:26:40.000`. -/
def clockText (moment : Moment) : String :=
  s!"{padded 2 moment.hour}:{padded 2 moment.minute}:{padded 2 moment.second}." ++
    padded 3 moment.milli

/-- Date and time of day, for instance `2020-09-13T12:26:40.000`. -/
def isoText (moment : Moment) : String :=
  s!"{yearText moment.year}-{padded 2 moment.month}-{padded 2 moment.day}T" ++ clockText moment

end Moment

namespace Timestamp

/-- The point in time in UTC, for instance `2020-09-13T12:26:40.000Z`. -/
def isoText (time : Timestamp) : String :=
  (Moment.ofTimestamp Zone.utc time).isoText ++ "Z"

end Timestamp

end RunBoard
