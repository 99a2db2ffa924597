import RunBoard.Text.Percent

/-!
# Digits

Natural numbers written in a base of at most sixteen, in letters of either case, and bytes
with two hexadecimal digits for each, which are written in lower case.
-/

namespace RunBoard.Text

/-- The value of a text of digits; no digits are worth nothing. -/
def digitsValue? (base : Nat) (digits : List Char) : Option Nat :=
  digits.foldlM (fun value c => do
    let digit ← Percent.hexValue? c
    if digit < base then some (value * base + digit) else none) 0

/-- The number that a text of digits stands for; there must be one at least. -/
def number? (base : Nat) (digits : List Char) : Option Nat :=
  if digits.isEmpty then none else digitsValue? base digits

theorem isDigit_of_mem_toString {n : Nat} {c : Char} (member : c ∈ (toString n).toList) :
    c.isDigit := by
  have digits : (toString n).toList = Nat.toDigits 10 n := Nat.toList_repr
  rw [digits] at member
  exact Nat.isDigit_of_mem_toDigits (by decide) (by decide) member

theorem toString_injective {first second : Nat} (same : toString first = toString second) :
    first = second := by
  have digits : Nat.toDigits 10 first = Nat.toDigits 10 second := by
    rw [← Nat.toList_repr, ← Nat.toList_repr]
    exact congrArg String.toList same
  have values := congrArg (Nat.ofDigitChars 10 · 0) digits
  simpa only [Nat.ofDigitChars_ten_toDigits] using values

/-! ## Bytes -/

namespace Hex

def digit (n : Nat) : Char := if n < 10 then Char.ofNat (48 + n) else Char.ofNat (87 + n)

def encode (bytes : List UInt8) : List Char :=
  bytes.flatMap fun byte => [digit (byte.toNat / 16), digit (byte.toNat % 16)]

/-- Refuses what is no digit, and a digit that stands alone. -/
def decode? : List Char → Option (List UInt8)
  | [] => some []
  | high :: low :: rest => do
      let value ← digitsValue? 16 [high, low]
      let behind ← decode? rest
      return UInt8.ofNat value :: behind
  | [_] => none

end Hex

end RunBoard.Text
