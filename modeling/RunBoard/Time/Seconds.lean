import RunBoard.Decimal.Shortest
import RunBoard.Wire.Scalars

/-!
# Spans in seconds

A length of time in nanoseconds that travels as a number of seconds. The number is rounded
to the nearest nanosecond, a half to the even one.
-/

namespace RunBoard

structure Seconds where
  nanos : Nat
  deriving DecidableEq, Repr

namespace Seconds

def perSecond : Nat := 1000000000

def ofNat (seconds : Nat) : Seconds := ⟨seconds * perSecond⟩

def whole (span : Seconds) : Nat := span.nanos / perSecond

def rest (span : Seconds) : Nat := span.nanos % perSecond

def millis (span : Seconds) : Nat := span.nanos / 1000000

/-- The quotient of two naturals, rounded to the nearest, a half to the even one. -/
def roundDiv (num den : Nat) : Nat :=
  let below := num / den
  let twice := 2 * (num % den)
  if twice < den || (twice = den && below % 2 = 0) then below else below + 1

/-- The binary64 `mantissa · 2 ^ exponent` of these bits, without its sign. -/
def decoded (bits : UInt64) : Nat × Int :=
  let field := Decimal.exponentField bits
  if field = 0 then (Decimal.fraction bits, -1074)
  else (Decimal.fraction bits + Nat.pow 2 52, (field : Int) - 1075)

/-- The span of so many seconds. -/
def ofFloat (seconds : Float) : Except Wire.DecodeError Seconds :=
  if seconds < 0 then .error .negativeSeconds
  else if seconds < 18446744073709551616 then
    let (mantissa, exponent) := decoded seconds.toBits
    let scaled := mantissa * perSecond
    .ok ⟨if exponent < 0 then roundDiv scaled (Nat.pow 2 exponent.natAbs)
      else scaled * Nat.pow 2 exponent.natAbs⟩
  else .error .tooManySeconds

/-- A span as a number of seconds. -/
def toFloat (span : Seconds) : Float :=
  (UInt64.ofNat span.whole).toFloat + (UInt64.ofNat span.rest).toFloat / 1000000000

end Seconds

namespace Wire

/-- A span, as a number of seconds. -/
def Scalar.seconds : Scalar Seconds where
  read json := do Seconds.ofFloat (← Scalar.float.read json)
  write span := .float span.toFloat

end Wire

end RunBoard
