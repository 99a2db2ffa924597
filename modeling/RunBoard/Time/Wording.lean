import RunBoard.Time.Timestamp

/-!
# Spans in words

A span is worded in the largest unit in which it is about one or more: the choice looks
only at the span rounded to each unit, so it is stated over any way of rounding.
-/

namespace RunBoard

inductive TimeUnit where
  | second
  | minute
  | hour
  | day
  | month
  | year
  deriving DecidableEq, Repr

namespace Span

/-- A span in words. -/
inductive Wording where
  | fewSeconds
  | one (unit : TimeUnit)
  | many (count : Nat) (unit : TimeUnit)
  deriving DecidableEq, Repr

/-- The wording of a span of which `rounded` gives the count in each unit. -/
def wordingBy (rounded : TimeUnit → Nat) : Wording :=
  if rounded .second < 45 then .fewSeconds
  else if rounded .minute ≤ 1 then .one .minute
  else if rounded .minute < 45 then .many (rounded .minute) .minute
  else if rounded .hour ≤ 1 then .one .hour
  else if rounded .hour < 22 then .many (rounded .hour) .hour
  else if rounded .day ≤ 1 then .one .day
  else if rounded .day < 26 then .many (rounded .day) .day
  else if rounded .month ≤ 1 then .one .month
  else if rounded .month < 11 then .many (rounded .month) .month
  else if rounded .year ≤ 1 then .one .year
  else .many (rounded .year) .year

/-- The length of a unit in microseconds; months and years have the mean length that they
have in the Gregorian calendar. -/
def unitMicros : TimeUnit → Nat
  | .second => 1000000
  | .minute => 60000000
  | .hour => 3600000000
  | .day => 86400000000
  | .month => 2629746000000
  | .year => 31556952000000

/-- The count of a unit in a span, rounded to the nearest with halves going up. -/
def exactCount (span : Span) (unit : TimeUnit) : Nat :=
  (2 * 1000 * span.millis.natAbs + unitMicros unit) / (2 * unitMicros unit)

/-- The wording by exact arithmetic. -/
def exactWording (span : Span) : Wording := wordingBy span.exactCount

/-- The count of a unit in binary64: days are taken before months and years. -/
def floatCount (span : Span) (unit : TimeUnit) : Nat :=
  let millis := (UInt64.ofNat span.millis.natAbs).toFloat
  let days := millis / 86400000.0
  let quotient :=
    match unit with
    | .second => millis / 1000.0
    | .minute => millis / 60000.0
    | .hour => millis / 3600000.0
    | .day => days
    | .month => days / 30.436875
    | .year => days / 365.2425
  quotient.round.toUInt64.toNat

def wording (span : Span) : Wording := wordingBy span.floatCount

def unitName : TimeUnit → String
  | .second => "second"
  | .minute => "minute"
  | .hour => "hour"
  | .day => "day"
  | .month => "month"
  | .year => "year"

/-- `a minute`, `an hour`, `3 days`. -/
def Wording.text : Wording → String
  | .fewSeconds => "a few seconds"
  | .one .hour => "an hour"
  | .one unit => "a " ++ unitName unit
  | .many count unit => s!"{count} {unitName unit}s"

/-- About how long a span is, in words. -/
def humanize (span : Span) : String := span.wording.text

end Span

end RunBoard
