/-!
# The value of a decimal literal

A literal without fraction and exponent is an integer while it fits 64 bits. Any other is
a binary64: as many leading digits as fit 64 bits, scaled by one power of ten.
-/

namespace RunBoard.Decimal

/-- The parts of a decimal literal, digits in reading order. -/
structure Literal where
  negative : Bool
  whole : List Nat
  fraction : Option (List Nat)
  exponent : Option Int

inductive LiteralValue where
  | int (value : Int)
  | float (value : Float)

namespace Literal

/-- Leading digits of a number, and the power of ten that they stand at. -/
structure Significand where
  digits : Nat
  power : Int

def fits (n : Nat) : Bool := n < UInt64.size

/-- Takes whole digits until one no longer fits; those left over count as powers of ten. -/
def takeWhole (taken : Nat) : List Nat → Significand
  | [] => ⟨taken, 0⟩
  | digit :: rest =>
      if fits (taken * 10 + digit) then takeWhole (taken * 10 + digit) rest
      else ⟨taken, (rest.length : Int) + 1⟩

/-- Takes fraction digits until one no longer fits and drops the rest. -/
def takeFraction (taken : Significand) : List Nat → Significand
  | [] => taken
  | digit :: rest =>
      if fits (taken.digits * 10 + digit) then
        takeFraction ⟨taken.digits * 10 + digit, taken.power - 1⟩ rest
      else taken

def significand (literal : Literal) : Significand :=
  let whole := takeWhole 0 literal.whole
  let all := takeFraction whole (literal.fraction.getD [])
  ⟨all.digits, all.power + literal.exponent.getD 0⟩

/-- A power of ten that binary64 can hold. -/
def powerOfTen (n : Nat) : Float := Float.ofScientific 1 false n

/-- `x * 10 ^ power`, or none when that is beyond the largest number. A power below the
smallest one is applied in steps. -/
def scale (x : Float) (power : Int) : Nat → Option Float
  | 0 => some 0
  | fuel + 1 =>
      if power.natAbs ≤ 308 then
        if 0 ≤ power then
          let scaled := x * powerOfTen power.natAbs
          if scaled.isInf then none else some scaled
        else some (x / powerOfTen power.natAbs)
      else if x == 0 then some x
      else if 0 < power then none
      else scale (x / powerOfTen 308) (power + 308) fuel

def floatValue? (literal : Literal) : Option Float :=
  let taken := literal.significand
  (scale (UInt64.ofNat taken.digits).toFloat taken.power 4).map fun x =>
    if literal.negative then -x else x

/-- The value of a literal, or none when it is beyond the largest number. -/
def value? (literal : Literal) : Option LiteralValue :=
  match literal.fraction, literal.exponent, takeWhole 0 literal.whole with
  | none, none, ⟨n, 0⟩ =>
      if !literal.negative then some (.int n)
      else if n ≠ 0 && n ≤ Nat.pow 2 63 then some (.int (-n))
      else literal.floatValue?.map .float
  | _, _, _ => literal.floatValue?.map .float

end Literal

end RunBoard.Decimal
