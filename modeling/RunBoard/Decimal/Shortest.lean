/-!
# Shortest decimal digits

A binary floating point number stands for every real number that rounds to it. Among the
decimals in that interval the shortest is chosen, and among those of equal length the one
nearest to the number itself. All arithmetic is on natural numbers.
-/

namespace RunBoard.Decimal

/-- The digits `mantissa * 10 ^ exponent` of a positive decimal number. -/
structure Digits where
  mantissa : Nat
  exponent : Int
  deriving DecidableEq, Repr

/-- The number of decimal digits of a natural number; zero has none. -/
def length (n : Nat) : Nat :=
  if n = 0 then 0 else (Nat.toDigits 10 n).length

/-- The exponent of the leading decimal digit of `num / den`. -/
def leadingExponent (num den : Nat) : Int :=
  if den ≤ num then (length (num / den) : Int) - 1
  else -(length ((den + num - 1) / num - 1) : Int)

namespace Digits

/-- Moves trailing zeros of the mantissa into the exponent. -/
def trim (fuel : Nat) (digits : Digits) : Digits :=
  match fuel with
  | 0 => digits
  | fuel + 1 =>
      if digits.mantissa ≠ 0 && digits.mantissa % 10 = 0 then
        trim fuel ⟨digits.mantissa / 10, digits.exponent + 1⟩
      else digits

end Digits

/-- A positive number `num / den` with the interval of reals that round to it. -/
structure Interval where
  num : Nat
  den : Nat
  low : Nat
  high : Nat
  closed : Bool

namespace Interval

/-- Whether `scaled / grid` lies in the interval, bounds included when it is closed. -/
def holds (interval : Interval) (scaled grid : Nat) : Bool :=
  let value := scaled * interval.den
  let low := interval.low * grid
  let high := interval.high * grid
  if interval.closed then low ≤ value && value ≤ high else low < value && value < high

/-- The nearer neighbour of the number on the grid of step `10 ^ exponent` that lies in the
interval; an exact tie goes to the even neighbour. -/
def onGrid? (interval : Interval) (exponent : Int) : Option Digits :=
  let up := Nat.pow 10 exponent.toNat
  let down := Nat.pow 10 (-exponent).toNat
  let num := interval.num * down
  let den := interval.den * up
  let below := num / den
  let twice := 2 * (num % den)
  let nearer :=
    if twice < den then below
    else if den < twice then below + 1
    else if below % 2 = 0 then below else below + 1
  let other := if nearer = below then below + 1 else below
  let fits := fun m => 0 < m && interval.holds (m * up) down
  if fits nearer then some ⟨nearer, exponent⟩
  else if fits other then some ⟨other, exponent⟩
  else none

/-- Tries grids of one more digit at a time. -/
def search (interval : Interval) (leading : Int) : Nat → Nat → Digits
  | 0, _ => ⟨interval.num / interval.den, 0⟩
  | fuel + 1, count =>
      match interval.onGrid? (leading - count) with
      | some digits => digits
      | none => search interval leading fuel (count + 1)

/-- The shortest decimal in the interval. -/
def shortest (interval : Interval) : Digits :=
  (search interval (leadingExponent interval.num interval.den) 18 0).trim 400

end Interval

/-- The fraction field of a binary64 bit pattern. -/
def fraction (bits : UInt64) : Nat := bits.toNat % Nat.pow 2 52

/-- The exponent field of a binary64 bit pattern. -/
def exponentField (bits : UInt64) : Nat := bits.toNat / Nat.pow 2 52 % Nat.pow 2 11

def isNegative (bits : UInt64) : Bool := Nat.pow 2 63 ≤ bits.toNat

/-- The interval of a positive finite binary64 number. The lower gap is half as wide just
above a power of two. -/
def Interval.ofBits (bits : UInt64) : Interval :=
  let field := exponentField bits
  let mantissa := if field = 0 then fraction bits else fraction bits + Nat.pow 2 52
  let power : Int := (if field = 0 then 1 else field : Int) - 1075
  let narrow := fraction bits = 0 && 1 < field
  let up := Nat.pow 2 power.toNat
  let down := Nat.pow 2 (-power).toNat
  { num := 4 * mantissa * up
    den := 4 * down
    low := (if narrow then 4 * mantissa - 1 else 4 * mantissa - 2) * up
    high := (4 * mantissa + 2) * up
    closed := mantissa % 2 = 0 }

/-- The absolute value of a finite number in its shortest digits, or none for zero. -/
def shortest? (x : Float) : Option Digits :=
  let bits := x.toBits
  if exponentField bits = 0 && fraction bits = 0 then none
  else some (Interval.ofBits bits).shortest

end RunBoard.Decimal
